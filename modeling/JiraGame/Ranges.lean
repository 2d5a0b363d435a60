import JiraGame.Replies

namespace JiraGame.Ranges

open JiraGame.Scene JiraGame.Command JiraGame.Encoding JiraGame.Replies
open JiraGame.Lib JiraGame.Lib.ProtoWire JiraGame.Lib.ProtoMessage

section Predicates

/-- The numbers are such as the fields of the class can hold, and the unknown fields
such as a parse leaves. -/
structure PlayerInfo.InRange (p : PlayerInfo) : Prop where
  socket : ∀ n ∈ p.socket?, n < 2 ^ 32
  roleid : ∀ i ∈ p.roleid?, Value.IsInt32 i
  roletype : ∀ i ∈ p.roletype?, Value.IsInt32 i
  level : ∀ i ∈ p.level?, Value.IsInt32 i
  roomid : ∀ i ∈ p.roomid?, Value.IsInt32 i
  teamid : ∀ i ∈ p.teamid?, Value.IsInt32 i
  pos : ∀ m ∈ p.pos?, position3D.foreign m.unknown = true
  rot : ∀ m ∈ p.rot?, position3D.foreign m.unknown = true
  scale : ∀ m ∈ p.scale?, position3D.foreign m.unknown = true
  unknown : playerInfo.foreign p.unknown = true

structure InviteInfo.InRange (i : InviteInfo) : Prop where
  roomid : ∀ n ∈ i.roomid?, Value.IsInt32 n
  requserid : ∀ n ∈ i.requserid?, Value.IsInt32 n
  revuserid : ∀ n ∈ i.revuserid?, Value.IsInt32 n
  teamid : ∀ n ∈ i.teamid?, Value.IsInt32 n
  unknown : inviteInfo.foreign i.unknown = true

structure RoomInfo.InRange (r : RoomInfo) : Prop where
  roomid : ∀ i ∈ r.roomid?, Value.IsInt32 i
  personcount : ∀ i ∈ r.personcount?, Value.IsInt32 i
  freepersoncount : ∀ i ∈ r.freepersoncount?, Value.IsInt32 i
  playerinfo : ∀ p ∈ r.playerinfo, PlayerInfo.InRange p

structure HallReturn.InRange (r : HallReturn) : Prop where
  hallinfo : ∀ i ∈ r.hallinfo?, ∀ x ∈ i.roominfo, RoomInfo.InRange x
  roomid : ∀ i ∈ r.roomid?, Value.IsInt32 i
  friendlist : ∀ p ∈ r.friendlist, PlayerInfo.InRange p
  inviteinfo : ∀ i ∈ r.inviteinfo?, InviteInfo.InRange i

structure Packet.InRange (p : Packet) : Prop where
  loginreturn : ∀ r ∈ p.loginreturn?, ∀ q ∈ r.playerinfo, PlayerInfo.InRange q
  createrolereturn : ∀ r ∈ p.createrolereturn?, ∀ q ∈ r.playerinfo, PlayerInfo.InRange q
  selectrolereturn : ∀ r ∈ p.selectrolereturn?, ∀ i ∈ r.userid?, Value.IsInt32 i
  hallreturn : ∀ r ∈ p.hallreturn?, HallReturn.InRange r
  gamemainreturn : ∀ r ∈ p.gamemainreturn?, ∀ q ∈ r.friendlist, PlayerInfo.InRange q

structure HallRequest.InRange (r : HallRequest) : Prop where
  userid : ∀ i ∈ r.userid?, Value.IsInt32 i
  inviteinfo : ∀ i ∈ r.inviteinfo?, InviteInfo.InRange i

structure UnPacket.InRange (m : UnPacket) : Prop where
  createrolerequest : ∀ r ∈ m.createrolerequest?, ∀ p ∈ r.playerinfo?, PlayerInfo.InRange p
  selectrolerequest : ∀ r ∈ m.selectrolerequest?, ∀ i ∈ r.roletype?, Value.IsInt32 i
  hallrequest : ∀ r ∈ m.hallrequest?, HallRequest.InRange r
  gamemainrequest : ∀ r ∈ m.gamemainrequest?, ∀ p ∈ r.playerinfo?, PlayerInfo.InRange p

end Predicates

section Fits

@[simp] theorem fits_teamType (t : TeamType) : teamType.fits t = true := by
  cases t <;> rfl

@[simp] theorem fits_roomType (t : RoomType) : roomType.fits t = true := by
  cases t <;> rfl

@[simp] theorem fits_playerStatus (t : PlayerStatus) : playerStatus.fits t = true := by
  cases t <;> rfl

@[simp] theorem fits_curScene (t : CurScene) : curScene.fits t = true := by
  cases t <;> rfl

@[simp] theorem fits_hallMsgType (t : HallMsgType) : hallMsgType.fits t = true := by
  cases t <;> rfl

@[simp] theorem fits_gameMainMsgType (t : GameMainMsgType) : gameMainMsgType.fits t = true := by
  cases t <;> rfl

@[simp] theorem fits_loginReturnType (t : LoginReturnType) : loginReturnType.fits t = true := by
  cases t <;> rfl

@[simp] theorem fits_registerReturnType (t : RegisterReturnType) :
    registerReturnType.fits t = true := by
  cases t <;> rfl

@[simp] theorem fits_createRoleReturnType (t : CreateRoleReturnType) :
    createRoleReturnType.fits t = true := by
  cases t <;> rfl

theorem fits_position3D {m : Position3D} (hready : position3D.ready m = true)
    (h : position3D.foreign m.unknown = true) : position3D.fits m = true := by
  obtain ⟨hx, hy, hz⟩ := (ready_position3D m).mp hready
  obtain ⟨x, hx⟩ := Option.isSome_iff_exists.mp hx
  obtain ⟨y, hy⟩ := Option.isSome_iff_exists.mp hy
  obtain ⟨z, hz⟩ := Option.isSome_iff_exists.mp hz
  refine Schema.fits_of ?_ h
  simp only [position3D, List.all_cons, List.all_nil, fits_required, hx, hy, hz, Option.any_some,
    Value.fits_string, Bool.and_true]

theorem fits_playerInfo {p : PlayerInfo} (hready : playerInfo.ready p = true)
    (h : PlayerInfo.InRange p) : playerInfo.fits p = true := by
  obtain ⟨hpos, hrot, hscale⟩ := (ready_playerInfo p).mp hready
  refine Schema.fits_of ?_ h.unknown
  simp only [playerInfo, List.all_cons, List.all_nil, fits_optional, Option.all_eq_true,
    Bool.and_eq_true, Value.fits_int32, Value.fits_bits32, Value.fits_bool, Value.fits_float,
    Value.fits_string, fits_teamType, fits_roomType, fits_playerStatus, Schema.fits_value,
    implies_true, and_true, true_and]
  exact ⟨h.socket, h.roleid, h.roletype, h.level, h.roomid, h.teamid,
    fun m hm => fits_position3D (hpos m hm) (h.pos m hm),
    fun m hm => fits_position3D (hrot m hm) (h.rot m hm),
    fun m hm => fits_position3D (hscale m hm) (h.scale m hm)⟩

theorem fits_inviteInfo {i : InviteInfo} (h : InviteInfo.InRange i) : inviteInfo.fits i = true := by
  refine Schema.fits_of ?_ h.unknown
  simp only [inviteInfo, List.all_cons, List.all_nil, fits_optional, Option.all_eq_true,
    Bool.and_eq_true, Value.fits_int32, Value.fits_string, fits_teamType, implies_true, and_true,
    true_and]
  exact ⟨h.roomid, h.requserid, h.revuserid, h.teamid⟩

theorem fits_friends {ps : List PlayerInfo} (hready : ∀ p ∈ ps, playerInfo.ready p = true)
    (h : ∀ p ∈ ps, PlayerInfo.InRange p) : ps.all playerInfo.value.fits = true :=
  List.all_eq_true.mpr fun p hp => fits_playerInfo (hready p hp) (h p hp)

theorem fits_roomInfo {r : RoomInfo} (hready : roomInfo.ready r = true) (h : RoomInfo.InRange r) :
    roomInfo.fits r = true := by
  obtain ⟨hname, hcount, hfree, hall⟩ := (ready_roomInfo r).mp hready
  obtain ⟨name, hname⟩ := Option.isSome_iff_exists.mp hname
  obtain ⟨count, hcount⟩ := Option.isSome_iff_exists.mp hcount
  obtain ⟨free, hfree⟩ := Option.isSome_iff_exists.mp hfree
  refine Schema.fits_of ?_ rfl
  simp only [roomInfo, List.all_cons, List.all_nil, fits_optional, fits_required,
    fits_repeated, hname, hcount, hfree, Option.any_some, Option.all_eq_true, Bool.and_eq_true,
    Value.fits_int32, Value.fits_string, and_true, true_and]
  exact ⟨h.roomid, h.personcount count hcount, h.freepersoncount free hfree,
    fits_friends hall h.playerinfo⟩

theorem fits_loginReturn {r : LoginReturn} (hready : loginReturn.ready r = true)
    (h : ∀ p ∈ r.playerinfo, PlayerInfo.InRange p) : loginReturn.fits r = true := by
  obtain ⟨hsid, htype, hall⟩ := (ready_loginReturn r).mp hready
  obtain ⟨sid, hsid⟩ := Option.isSome_iff_exists.mp hsid
  obtain ⟨t, htype⟩ := Option.isSome_iff_exists.mp htype
  refine Schema.fits_of ?_ rfl
  simp only [loginReturn, List.all_cons, List.all_nil, fits_required, fits_repeated,
    hsid, htype, Option.any_some, Value.fits_string, fits_loginReturnType, Bool.and_true,
    Bool.true_and]
  exact fits_friends hall h

theorem fits_registerReturn {r : RegisterReturn} (hready : registerReturn.ready r = true) :
    registerReturn.fits r = true := by
  simp only [Schema.ready, registerReturn, List.all_cons, List.all_nil, Bool.and_true,
    ready_required] at hready
  obtain ⟨t, htype, -⟩ := (Option.any_eq_true _ _).mp hready
  refine Schema.fits_of ?_ rfl
  simp only [registerReturn, List.all_cons, List.all_nil, fits_required, htype,
    Option.any_some, fits_registerReturnType, Bool.and_true]

theorem fits_createRoleReturn {r : CreateRoleReturn} (hready : createRoleReturn.ready r = true)
    (h : ∀ p ∈ r.playerinfo, PlayerInfo.InRange p) : createRoleReturn.fits r = true := by
  obtain ⟨htype, hall⟩ := (ready_createRoleReturn r).mp hready
  obtain ⟨t, htype⟩ := Option.isSome_iff_exists.mp htype
  refine Schema.fits_of ?_ rfl
  simp only [createRoleReturn, List.all_cons, List.all_nil, fits_required,
    fits_repeated, htype, Option.any_some, fits_createRoleReturnType, Bool.and_true, Bool.true_and]
  exact fits_friends hall h

theorem fits_selectRoleReturn {r : SelectRoleReturn} (hready : selectRoleReturn.ready r = true)
    (h : ∀ i ∈ r.userid?, Value.IsInt32 i) : selectRoleReturn.fits r = true := by
  obtain ⟨id, hid⟩ := Option.isSome_iff_exists.mp ((ready_selectRoleReturn r).mp hready)
  refine Schema.fits_of ?_ rfl
  simp only [selectRoleReturn, List.all_cons, List.all_nil, fits_required, hid,
    Option.any_some, Bool.and_true, Value.fits_int32]
  exact h id hid

theorem fits_hallReturn {r : HallReturn} (hready : hallReturn.ready r = true)
    (h : HallReturn.InRange r) : hallReturn.fits r = true := by
  obtain ⟨hrooms, hall⟩ := (ready_hallReturn r).mp hready
  have hinfo : ∀ i ∈ r.hallinfo?, hallInfo.fits i = true := by
    intro i hi
    refine Schema.fits_of ?_ rfl
    simp only [hallInfo, List.all_cons, List.all_nil, fits_repeated, Bool.and_true,
      List.all_eq_true]
    exact fun x hx => fits_roomInfo (hrooms i hi x hx) (h.hallinfo i hi x hx)
  refine Schema.fits_of ?_ rfl
  simp only [hallReturn, List.all_cons, List.all_nil, fits_optional, fits_repeated,
    Option.all_eq_true, Bool.and_eq_true, Value.fits_int32, Value.fits_string, fits_hallMsgType,
    Schema.fits_value, implies_true, and_true, true_and]
  exact ⟨hinfo, h.roomid, fits_friends hall h.friendlist, fun i hi => fits_inviteInfo (h.inviteinfo i hi)⟩

theorem fits_gameMainReturn {r : GameMainReturn} (hready : gameMainReturn.ready r = true)
    (h : ∀ p ∈ r.friendlist, PlayerInfo.InRange p) : gameMainReturn.fits r = true := by
  obtain ⟨htype, hall⟩ := (ready_gameMainReturn r).mp hready
  obtain ⟨t, htype⟩ := Option.isSome_iff_exists.mp htype
  refine Schema.fits_of ?_ rfl
  simp only [gameMainReturn, List.all_cons, List.all_nil, fits_required,
    fits_repeated, htype, Option.any_some, fits_gameMainMsgType, Bool.and_true, Bool.true_and]
  exact fits_friends hall h

theorem fits_packet {p : Packet} (hready : IsInitialized p = true) (h : Packet.InRange p) :
    packet.fits p = true := by
  obtain ⟨hscene, hlogin, hregister, hcreate, hselect, hhall, hgame⟩ := (ready_packet p).mp hready
  obtain ⟨scene, hscene⟩ := Option.isSome_iff_exists.mp hscene
  refine Schema.fits_of ?_ rfl
  simp only [packet, List.all_cons, List.all_nil, fits_required, fits_optional, hscene,
    Option.any_some, Option.all_eq_true, Bool.and_eq_true, fits_curScene, Schema.fits_value,
    and_true, true_and]
  exact ⟨fun r hr => fits_loginReturn (hlogin r hr) (h.loginreturn r hr),
    fun r hr => fits_registerReturn (hregister r hr),
    fun r hr => fits_createRoleReturn (hcreate r hr) (h.createrolereturn r hr),
    fun r hr => fits_selectRoleReturn (hselect r hr) (h.selectrolereturn r hr),
    fun r hr => fits_hallReturn (hhall r hr) (h.hallreturn r hr),
    fun r hr => fits_gameMainReturn (hgame r hr) (h.gamemainreturn r hr)⟩

end Fits

section Merge

@[simp] theorem update_int32 (o : Option Int) : Value.int32.update none o = o :=
  Value.update_none (fun _ => rfl) o

@[simp] theorem update_bits32 (o : Option Nat) : Value.bits32.update none o = o :=
  Value.update_none (fun _ => rfl) o

@[simp] theorem update_bool (o : Option Bool) : Value.bool.update none o = o :=
  Value.update_none (fun _ => rfl) o

@[simp] theorem update_float (o : Option UInt32) : Value.float.update none o = o :=
  Value.update_none (fun _ => rfl) o

@[simp] theorem update_string (o : Option String) : Value.string.update none o = o :=
  Value.update_none (fun _ => rfl) o

@[simp] theorem update_enum {α : Type} [DecidableEq α] (number : α → Nat) (all : List α)
    (o : Option α) : (Value.enum number all).update none o = o :=
  Value.update_none (fun _ => rfl) o

theorem update_value {M : Type} {S : Schema M} (h : ∀ m, S.merge S.blank m = m) (o : Option M) :
    S.value.update none o = o :=
  Value.update_none h o

theorem map_join {M : Type} {S : Schema M} (h : ∀ m, S.merge S.blank m = m) (l : List M) :
    l.map (S.value.join none) = l :=
  List.map_id'' h l

theorem merge_position3D (m : Position3D) : position3D.merge position3D.blank m = m := by
  simp [Schema.merge, position3D, required, singular]

theorem merge_playerInfo (p : PlayerInfo) : playerInfo.merge playerInfo.blank p = p := by
  simp [Schema.merge, playerInfo, ProtoMessage.optional, singular, teamType, roomType,
    playerStatus, update_value merge_position3D]

theorem merge_inviteInfo (i : InviteInfo) : inviteInfo.merge inviteInfo.blank i = i := by
  simp [Schema.merge, inviteInfo, ProtoMessage.optional, singular, teamType]

theorem merge_roomInfo (r : RoomInfo) : roomInfo.merge roomInfo.blank r = r := by
  simp [Schema.merge, roomInfo, ProtoMessage.optional, required, repeated, singular,
    map_join merge_playerInfo]

theorem merge_hallInfo (i : HallInfo) : hallInfo.merge hallInfo.blank i = i := by
  simp [Schema.merge, hallInfo, repeated, map_join merge_roomInfo]

theorem merge_loginReturn (r : LoginReturn) : loginReturn.merge loginReturn.blank r = r := by
  simp [Schema.merge, loginReturn, required, repeated, singular, loginReturnType,
    map_join merge_playerInfo]

theorem merge_registerReturn (r : RegisterReturn) :
    registerReturn.merge registerReturn.blank r = r := by
  simp [Schema.merge, registerReturn, required, singular, registerReturnType]

theorem merge_createRoleReturn (r : CreateRoleReturn) :
    createRoleReturn.merge createRoleReturn.blank r = r := by
  simp [Schema.merge, createRoleReturn, required, repeated, singular, createRoleReturnType,
    map_join merge_playerInfo]

theorem merge_selectRoleReturn (r : SelectRoleReturn) :
    selectRoleReturn.merge selectRoleReturn.blank r = r := by
  simp [Schema.merge, selectRoleReturn, required, singular]

theorem merge_hallReturn (r : HallReturn) : hallReturn.merge hallReturn.blank r = r := by
  simp [Schema.merge, hallReturn, ProtoMessage.optional, repeated, singular, hallMsgType,
    update_value merge_hallInfo, map_join merge_playerInfo, update_value merge_inviteInfo]

theorem merge_gameMainReturn (r : GameMainReturn) :
    gameMainReturn.merge gameMainReturn.blank r = r := by
  simp [Schema.merge, gameMainReturn, required, repeated, singular, gameMainMsgType,
    map_join merge_playerInfo]

theorem merge_packet (p : Packet) : packet.merge packet.blank p = p := by
  simp [Schema.merge, packet, ProtoMessage.optional, required, singular, curScene,
    update_value merge_loginReturn, update_value merge_registerReturn,
    update_value merge_createRoleReturn, update_value merge_selectRoleReturn,
    update_value merge_hallReturn, update_value merge_gameMainReturn]

/-- A packet that fits its class is what is read from its bytes. -/
theorem packet_parse_encode {p : Packet} (hready : IsInitialized p = true)
    (h : Packet.InRange p) : packet.parse (packet.encode p) = p :=
  Schema.parse_encode (fits_packet hready h) (merge_packet p)

end Merge

section Parses

theorem keeps_position3D :
    position3D.value.Keeps fun m => position3D.foreign m.unknown = true := by
  refine Schema.keeps_value rfl ?_ fun m f hf h => Schema.foreign_append h hf
  simp only [position3D, List.forall_mem_cons]
  exact ⟨fun m x h => h, fun m x h => h, fun m x h => h, fun _ h => by cases h⟩

theorem inRange_playerInfo : PlayerInfo.InRange {} := by
  constructor <;> first | rfl | exact nofun

theorem keeps_playerInfo : playerInfo.value.Keeps PlayerInfo.InRange := by
  refine Schema.keeps_value inRange_playerInfo ?_ fun m f hf h =>
    { h with unknown := Schema.foreign_append h.unknown hf }
  simp only [playerInfo, List.forall_mem_cons]
  refine ⟨?_, ?_, ?_, ?_, ?_, ?_, ?_, ?_, ?_, ?_, ?_, ?_, ?_, ?_, ?_, ?_, ?_, ?_, ?_, ?_⟩
  · exact fun m x h => { h with socket := Value.keeps_bits32 _ x h.socket }
  · exact fun m x h => { h with }
  · exact fun m x h => { h with roleid := Value.keeps_int32 _ x h.roleid }
  · exact fun m x h => { h with roletype := Value.keeps_int32 _ x h.roletype }
  · exact fun m x h => { h with }
  · exact fun m x h => { h with level := Value.keeps_int32 _ x h.level }
  · exact fun m x h => { h with }
  · exact fun m x h => { h with }
  · exact fun m x h => { h with }
  · exact fun m x h => { h with }
  · exact fun m x h => { h with }
  · exact fun m x h => { h with }
  · exact fun m x h => { h with roomid := Value.keeps_int32 _ x h.roomid }
  · exact fun m x h => { h with teamid := Value.keeps_int32 _ x h.teamid }
  · exact fun m x h => { h with }
  · exact fun m x h => { h with pos := keeps_position3D _ x h.pos }
  · exact fun m x h => { h with rot := keeps_position3D _ x h.rot }
  · exact fun m x h => { h with scale := keeps_position3D _ x h.scale }
  · exact fun m x h => { h with }
  · exact fun _ h => by cases h

theorem inRange_inviteInfo : InviteInfo.InRange {} := by
  constructor <;> first | rfl | exact nofun

theorem keeps_inviteInfo : inviteInfo.value.Keeps InviteInfo.InRange := by
  refine Schema.keeps_value inRange_inviteInfo ?_ fun m f hf h =>
    { h with unknown := Schema.foreign_append h.unknown hf }
  simp only [inviteInfo, List.forall_mem_cons]
  refine ⟨?_, ?_, ?_, ?_, ?_, ?_, ?_⟩
  · exact fun m x h => { h with roomid := Value.keeps_int32 _ x h.roomid }
  · exact fun m x h => { h with requserid := Value.keeps_int32 _ x h.requserid }
  · exact fun m x h => { h with }
  · exact fun m x h => { h with revuserid := Value.keeps_int32 _ x h.revuserid }
  · exact fun m x h => { h with }
  · exact fun m x h => { h with teamid := Value.keeps_int32 _ x h.teamid }
  · exact fun _ h => by cases h

theorem keeps_createRoleRequest :
    createRoleRequest.value.Keeps fun r => ∀ p ∈ r.playerinfo?, PlayerInfo.InRange p := by
  refine Schema.keeps_value (fun _ hp => by cases hp) ?_ fun _ _ _ h => h
  simp only [createRoleRequest, List.forall_mem_cons]
  refine ⟨fun m x h => h, fun m x h => ?_, fun _ h => by cases h⟩
  exact keeps_playerInfo _ x h

theorem keeps_selectRoleRequest :
    selectRoleRequest.value.Keeps fun r => ∀ i ∈ r.roletype?, Value.IsInt32 i := by
  refine Schema.keeps_value (fun _ hi => by cases hi) ?_ fun _ _ _ h => h
  simp only [selectRoleRequest, List.forall_mem_cons]
  refine ⟨fun m x h => h, fun m x h => ?_, fun _ h => by cases h⟩
  exact Value.keeps_int32 _ x h

theorem keeps_gameMainRequest :
    gameMainRequest.value.Keeps fun r => ∀ p ∈ r.playerinfo?, PlayerInfo.InRange p := by
  refine Schema.keeps_value (fun _ hp => by cases hp) ?_ fun _ _ _ h => h
  simp only [gameMainRequest, List.forall_mem_cons]
  refine ⟨fun m x h => h, fun m x h => h, fun m x h => ?_, fun _ h => by cases h⟩
  exact keeps_playerInfo _ x h

theorem keeps_hallRequest : hallRequest.value.Keeps HallRequest.InRange := by
  refine Schema.keeps_value (by constructor <;> intro i hi <;> cases hi) ?_ fun _ _ _ h => h
  simp only [hallRequest, List.forall_mem_cons]
  refine ⟨?_, ?_, ?_, ?_, ?_, fun _ h => by cases h⟩
  · exact fun m x h => { h with }
  · exact fun m x h => { h with }
  · exact fun m x h => { h with }
  · exact fun m x h => { h with userid := Value.keeps_int32 _ x h.userid }
  · exact fun m x h => { h with inviteinfo := keeps_inviteInfo _ x h.inviteinfo }

/-- Whatever bytes arrive, the numbers of the parsed message are those of the fields. -/
theorem inRange_parse (bs : Bytes) : UnPacket.InRange (unPacket.parse bs) := by
  refine Schema.absorb_keeps ?_ (fun _ _ _ h => h) ?_ bs
  · simp only [unPacket, List.forall_mem_cons]
    refine ⟨?_, ?_, ?_, ?_, ?_, ?_, ?_, ?_, fun _ h => by cases h⟩
    · exact fun m x h => { h with }
    · exact fun m x h => { h with }
    · exact fun m x h => { h with }
    · exact fun m x h =>
        { h with createrolerequest := keeps_createRoleRequest _ x h.createrolerequest }
    · exact fun m x h =>
        { h with selectrolerequest := keeps_selectRoleRequest _ x h.selectrolerequest }
    · exact fun m x h => { h with hallrequest := keeps_hallRequest _ x h.hallrequest }
    · exact fun m x h =>
        { h with gamemainrequest := keeps_gameMainRequest _ x h.gamemainrequest }
    · exact fun m x h => { h with }
  · constructor <;> intro r hr <;> cases hr

end Parses

end JiraGame.Ranges
