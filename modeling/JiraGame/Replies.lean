import JiraGame.Encoding

namespace JiraGame.Replies

open JiraGame.Scene JiraGame.Command JiraGame.Encoding
open JiraGame.Lib.ProtoWire JiraGame.Lib.ProtoMessage

/-- `Packet::ByteSize`. -/
def ByteSize (p : Packet) : Nat := (packet.encode p).length

/-- `Packet::IsInitialized`. -/
def IsInitialized (p : Packet) : Bool := packet.ready p

section Ready

theorem ready_position3D (m : Position3D) : position3D.ready m = true ↔
    m.x?.isSome = true ∧ m.y?.isSome = true ∧ m.z?.isSome = true := by
  simp [Schema.ready, position3D, Option.any_eq_true, Option.isSome_iff_exists]

theorem ready_playerInfo (p : PlayerInfo) : playerInfo.ready p = true ↔
    (∀ m ∈ p.pos?, position3D.ready m = true) ∧ (∀ m ∈ p.rot?, position3D.ready m = true) ∧
      ∀ m ∈ p.scale?, position3D.ready m = true := by
  simp [Schema.ready, playerInfo, Option.all_eq_true, teamType, roomType, playerStatus]

theorem ready_roomInfo (r : RoomInfo) : roomInfo.ready r = true ↔
    r.roomname?.isSome = true ∧ r.personcount?.isSome = true ∧
      r.freepersoncount?.isSome = true ∧ ∀ p ∈ r.playerinfo, playerInfo.ready p = true := by
  simp [Schema.ready, roomInfo, Option.all_eq_true, Option.any_eq_true, Option.isSome_iff_exists]

theorem ready_loginReturn (r : LoginReturn) : loginReturn.ready r = true ↔
    r.sessionid?.isSome = true ∧ r.returntype?.isSome = true ∧
      ∀ p ∈ r.playerinfo, playerInfo.ready p = true := by
  simp [Schema.ready, loginReturn, Option.any_eq_true, Option.isSome_iff_exists, loginReturnType]

theorem ready_createRoleReturn (r : CreateRoleReturn) : createRoleReturn.ready r = true ↔
    r.returntype?.isSome = true ∧ ∀ p ∈ r.playerinfo, playerInfo.ready p = true := by
  simp [Schema.ready, createRoleReturn, Option.any_eq_true, Option.isSome_iff_exists,
    createRoleReturnType]

theorem ready_selectRoleReturn (r : SelectRoleReturn) :
    selectRoleReturn.ready r = true ↔ r.userid?.isSome = true := by
  simp [Schema.ready, selectRoleReturn, Option.any_eq_true, Option.isSome_iff_exists]

theorem ready_hallReturn (r : HallReturn) : hallReturn.ready r = true ↔
    (∀ i ∈ r.hallinfo?, ∀ x ∈ i.roominfo, roomInfo.ready x = true) ∧
      ∀ p ∈ r.friendlist, playerInfo.ready p = true := by
  simp [Schema.ready, hallReturn, hallInfo, inviteInfo, Option.all_eq_true, hallMsgType, teamType]

theorem ready_gameMainReturn (r : GameMainReturn) : gameMainReturn.ready r = true ↔
    r.msgtype?.isSome = true ∧ ∀ p ∈ r.friendlist, playerInfo.ready p = true := by
  simp [Schema.ready, gameMainReturn, Option.any_eq_true, Option.isSome_iff_exists,
    gameMainMsgType]

theorem ready_packet (p : Packet) : IsInitialized p = true ↔ p.curscene?.isSome = true ∧
    (∀ r ∈ p.loginreturn?, loginReturn.ready r = true) ∧
    (∀ r ∈ p.registerreturn?, registerReturn.ready r = true) ∧
    (∀ r ∈ p.createrolereturn?, createRoleReturn.ready r = true) ∧
    (∀ r ∈ p.selectrolereturn?, selectRoleReturn.ready r = true) ∧
    (∀ r ∈ p.hallreturn?, hallReturn.ready r = true) ∧
    ∀ r ∈ p.gamemainreturn?, gameMainReturn.ready r = true := by
  simp [IsInitialized, Schema.ready, packet, Option.all_eq_true, Option.any_eq_true,
    Option.isSome_iff_exists, curScene]

end Ready

section Sizes

/-- A field of `n` bytes that carries its length; all tags here are below 16. -/
def framed (n : Nat) : Nat := 1 + (writeVarint n).length + n

def text (s : String) : Nat := framed s.utf8ByteSize

def number (i : Int) : Nat := 1 + (writeVarint (i % 2 ^ 64).toNat).length

def handle (s : SOCKET) : Nat := 1 + Value.bits32.size s

/-- A flag or an enumerator. -/
def flag : Nat := 2

/-- The bytes of a position, with the fields of it that the schema does not know. -/
def positionSize (m : Position3D) : Nat :=
  m.x?.elim 0 text + m.y?.elim 0 text + m.z?.elim 0 text + (writeFields m.unknown).length

/-- The bytes of a role info apart from its socket, role id and room id. The tags of
the positions and of the status take two bytes. -/
def attrSize (p : PlayerInfo) : Nat :=
  (p.isroomctl?.elim 0 fun _ => flag) + p.roletype?.elim 0 number + p.name?.elim 0 text +
    p.level?.elim 0 number + (p.hp?.elim 0 fun _ => 5) + (p.mp?.elim 0 fun _ => 5) +
    (p.attack?.elim 0 fun _ => 5) + (p.movespeed?.elim 0 fun _ => 5) +
    (p.team?.elim 0 fun _ => flag) + (p.roomstate?.elim 0 fun _ => flag) +
    p.teamid?.elim 0 number + (p.gamewaite?.elim 0 fun _ => flag) +
    (p.pos?.elim 0 fun m => 1 + framed (positionSize m)) +
    (p.rot?.elim 0 fun m => 1 + framed (positionSize m)) +
    (p.scale?.elim 0 fun m => 1 + framed (positionSize m)) +
    (p.playerstatus?.elim 0 fun _ => 3) + (writeFields p.unknown).length

def infoSize (p : PlayerInfo) : Nat :=
  p.socket?.elim 0 handle + p.roleid?.elim 0 number + p.roomid?.elim 0 number + attrSize p

def inviteSize (i : InviteInfo) : Nat :=
  i.roomid?.elim 0 number + i.requserid?.elim 0 number + i.requsername?.elim 0 text +
    i.revuserid?.elim 0 number + (i.team?.elim 0 fun _ => flag) + i.teamid?.elim 0 number +
    (writeFields i.unknown).length

def records (ps : List PlayerInfo) : Nat := (ps.map fun p => framed (infoSize p)).sum

@[simp] theorem size_message {M : Type} (S : Schema M) (m : M) :
    1 + S.value.size m = framed (S.size m) := by
  rw [Schema.size_value, framed, Nat.add_assoc]

@[simp] theorem size_text (s : String) : 1 + Value.string.size s = text s := by
  rw [Value.size_string, text, framed, Nat.add_assoc]

@[simp] theorem size_number (i : Int) : 1 + Value.int32.size i = number i := rfl

@[simp] theorem size_handle (s : SOCKET) : 1 + Value.bits32.size s = handle s := rfl

@[simp] theorem size_bool (b : Bool) : 1 + Value.bool.size b = flag := by
  rw [Value.size_bool, flag]

@[simp] theorem size_teamType (t : TeamType) : 1 + teamType.size t = flag := by
  cases t <;> rfl

@[simp] theorem size_roomType (t : RoomType) : 1 + roomType.size t = flag := by
  cases t <;> rfl

@[simp] theorem size_curScene (t : CurScene) : 1 + curScene.size t = flag := by
  cases t <;> rfl

@[simp] theorem size_hallMsgType (t : HallMsgType) : 1 + hallMsgType.size t = flag := by
  cases t <;> rfl

@[simp] theorem size_gameMainMsgType (t : GameMainMsgType) : 1 + gameMainMsgType.size t = flag := by
  cases t <;> rfl

@[simp] theorem size_loginReturnType (t : LoginReturnType) : 1 + loginReturnType.size t = flag := by
  cases t <;> rfl

@[simp] theorem size_registerReturnType (t : RegisterReturnType) :
    1 + registerReturnType.size t = flag := by
  cases t <;> rfl

@[simp] theorem size_createRoleReturnType (t : CreateRoleReturnType) :
    1 + createRoleReturnType.size t = flag := by
  cases t <;> rfl

@[simp] theorem size_playerStatus (t : PlayerStatus) : 2 + playerStatus.size t = 3 := by
  cases t <;> rfl

theorem size_position3D (m : Position3D) : position3D.size m = positionSize m := by
  rw [Schema.size, Schema.length_encode, positionSize]
  simp (disch := decide) [position3D, size_required, Nat.add_assoc]

@[simp] theorem size_playerInfo (p : PlayerInfo) : playerInfo.size p = infoSize p := by
  have htwo : ∀ m, 2 + position3D.value.size m = 1 + framed (positionSize m) := fun m => by
    rw [← size_position3D, ← size_message]
    omega
  rw [Schema.size, Schema.length_encode, infoSize, attrSize]
  simp (disch := decide) [playerInfo, size_optional, size_optional_two, Value.size_float, htwo]
  eta_reduce
  omega

@[simp] theorem size_inviteInfo (i : InviteInfo) : inviteInfo.size i = inviteSize i := by
  rw [Schema.size, Schema.length_encode, inviteSize]
  simp (disch := decide) [inviteInfo, size_optional, Nat.add_assoc]

theorem size_roomInfo (r : RoomInfo) : roomInfo.size r =
    r.roomid?.elim 0 number + (r.roomname?.elim 0 text + (r.personcount?.elim 0 number +
      (r.freepersoncount?.elim 0 number + records r.playerinfo))) := by
  rw [Schema.size, Schema.length_encode]
  simp (disch := decide) [roomInfo, size_optional, size_required, size_repeated, records]

theorem size_hallInfo (i : HallInfo) :
    hallInfo.size i = (i.roominfo.map fun r => framed (roomInfo.size r)).sum := by
  rw [Schema.size, Schema.length_encode]
  simp (disch := decide) [hallInfo, size_repeated]

theorem size_loginReturn (r : LoginReturn) : loginReturn.size r =
    r.sessionid?.elim 0 text + ((r.returntype?.elim 0 fun _ => flag) + records r.playerinfo) := by
  rw [Schema.size, Schema.length_encode]
  simp (disch := decide) [loginReturn, size_required, size_repeated, records]

theorem size_registerReturn (r : RegisterReturn) :
    registerReturn.size r = r.returntype?.elim 0 fun _ => flag := by
  rw [Schema.size, Schema.length_encode]
  simp (disch := decide) [registerReturn, size_required]

theorem size_createRoleReturn (r : CreateRoleReturn) : createRoleReturn.size r =
    (r.returntype?.elim 0 fun _ => flag) + records r.playerinfo := by
  rw [Schema.size, Schema.length_encode]
  simp (disch := decide) [createRoleReturn, size_required, size_repeated, records]

theorem size_selectRoleReturn (r : SelectRoleReturn) :
    selectRoleReturn.size r = r.userid?.elim 0 number := by
  rw [Schema.size, Schema.length_encode]
  simp (disch := decide) [selectRoleReturn, size_required]

theorem size_hallReturn (r : HallReturn) : hallReturn.size r =
    (r.hallinfo?.elim 0 fun i => framed (hallInfo.size i)) + ((r.msgtype?.elim 0 fun _ => flag) +
      (r.roomname?.elim 0 text + (r.roomid?.elim 0 number + (records r.friendlist +
      r.inviteinfo?.elim 0 fun i => framed (inviteInfo.size i))))) := by
  rw [Schema.size, Schema.length_encode]
  simp (disch := decide) [hallReturn, size_optional, size_repeated, records]

theorem size_gameMainReturn (r : GameMainReturn) : gameMainReturn.size r =
    (r.msgtype?.elim 0 fun _ => flag) + records r.friendlist := by
  rw [Schema.size, Schema.length_encode]
  simp (disch := decide) [gameMainReturn, size_required, size_repeated, records]

theorem size_packet (p : Packet) : ByteSize p =
    (p.curscene?.elim 0 fun _ => flag) +
      ((p.loginreturn?.elim 0 fun r => framed (loginReturn.size r)) +
      ((p.registerreturn?.elim 0 fun r => framed (registerReturn.size r)) +
      ((p.createrolereturn?.elim 0 fun r => framed (createRoleReturn.size r)) +
      ((p.selectrolereturn?.elim 0 fun r => framed (selectRoleReturn.size r)) +
      ((p.hallreturn?.elim 0 fun r => framed (hallReturn.size r)) +
      p.gamemainreturn?.elim 0 fun r => framed (gameMainReturn.size r)))))) := by
  rw [ByteSize, Schema.length_encode]
  simp (disch := decide) [packet, size_optional, size_required]

theorem number_le (i : Int) : number i ≤ 11 := by
  have hle : (writeVarint (i % 2 ^ 64).toNat).length ≤ 10 := length_writeVarint_le 9 (by omega)
  rw [number]
  omega

theorem framed_short {n : Nat} (h : n < 128) : framed n = n + 2 := by
  rw [framed, length_writeVarint_of_lt h]
  omega

theorem framed_long {n : Nat} (h : 128 ≤ n) (h' : n < 16384) : framed n = n + 3 := by
  have hge := two_le_length_writeVarint h
  have hle : (writeVarint n).length ≤ 2 := length_writeVarint_le 1 h'
  rw [framed]
  omega

/-- The most that a reply may weigh before its packet is longer than the buffer. -/
theorem framed_le_iff {n : Nat} : flag + framed n ≤ MSGSIZE ↔ n ≤ 8187 := by
  rw [flag, MSGSIZE]
  obtain hlt | hle := Nat.lt_or_ge n 128
  · rw [framed_short hlt]
    omega
  · obtain hlt | hge := Nat.lt_or_ge n 16384
    · rw [framed_long hle hlt]
      omega
    · rw [framed]
      omega

end Sizes

end JiraGame.Replies
