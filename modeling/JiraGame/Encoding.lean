import JiraGame.Command
import JiraGame.Lib.ProtoMessage

namespace JiraGame.Encoding

open JiraGame.Scene JiraGame.Command JiraGame.Lib.ProtoWire JiraGame.Lib.ProtoMessage

section MergeFrom

/-- A scalar of the second message takes the place of that of the first. -/
def last {α : Type} (old new : Option α) : Option α :=
  match new with
  | some a => some a
  | none => old

/-- A message inside the second one is merged into that of the first. -/
def within {M : Type} (MergeFrom : M → M → M) (blank : M) (old new : Option M) : Option M :=
  match new with
  | some m => some (MergeFrom (old.getD blank) m)
  | none => old

def Position3D.MergeFrom (m o : Position3D) : Position3D where
  x? := last m.x? o.x?
  y? := last m.y? o.y?
  z? := last m.z? o.z?
  unknown := m.unknown ++ o.unknown

def PlayerInfo.MergeFrom (m o : PlayerInfo) : PlayerInfo where
  socket? := last m.socket? o.socket?
  isroomctl? := last m.isroomctl? o.isroomctl?
  roleid? := last m.roleid? o.roleid?
  roletype? := last m.roletype? o.roletype?
  name? := last m.name? o.name?
  level? := last m.level? o.level?
  hp? := last m.hp? o.hp?
  mp? := last m.mp? o.mp?
  attack? := last m.attack? o.attack?
  movespeed? := last m.movespeed? o.movespeed?
  team? := last m.team? o.team?
  roomstate? := last m.roomstate? o.roomstate?
  roomid? := last m.roomid? o.roomid?
  teamid? := last m.teamid? o.teamid?
  gamewaite? := last m.gamewaite? o.gamewaite?
  pos? := within Position3D.MergeFrom {} m.pos? o.pos?
  rot? := within Position3D.MergeFrom {} m.rot? o.rot?
  scale? := within Position3D.MergeFrom {} m.scale? o.scale?
  playerstatus? := last m.playerstatus? o.playerstatus?
  unknown := m.unknown ++ o.unknown

def InviteInfo.MergeFrom (m o : InviteInfo) : InviteInfo where
  roomid? := last m.roomid? o.roomid?
  requserid? := last m.requserid? o.requserid?
  requsername? := last m.requsername? o.requsername?
  revuserid? := last m.revuserid? o.revuserid?
  team? := last m.team? o.team?
  teamid? := last m.teamid? o.teamid?
  unknown := m.unknown ++ o.unknown

def KeepAliveMsg.MergeFrom (m o : KeepAliveMsg) : KeepAliveMsg where
  curscene? := last m.curscene? o.curscene?

def LoginRequest.MergeFrom (m o : LoginRequest) : LoginRequest where
  username? := last m.username? o.username?
  password? := last m.password? o.password?

def RegisterRequest.MergeFrom (m o : RegisterRequest) : RegisterRequest where
  username? := last m.username? o.username?
  password? := last m.password? o.password?

def CreateRoleRequest.MergeFrom (m o : CreateRoleRequest) : CreateRoleRequest where
  sessionid? := last m.sessionid? o.sessionid?
  playerinfo? := within PlayerInfo.MergeFrom {} m.playerinfo? o.playerinfo?

def SelectRoleRequest.MergeFrom (m o : SelectRoleRequest) : SelectRoleRequest where
  sessionid? := last m.sessionid? o.sessionid?
  roletype? := last m.roletype? o.roletype?

def HallRequest.MergeFrom (m o : HallRequest) : HallRequest where
  sessionid? := last m.sessionid? o.sessionid?
  msgtype? := last m.msgtype? o.msgtype?
  roomname? := last m.roomname? o.roomname?
  userid? := last m.userid? o.userid?
  inviteinfo? := within InviteInfo.MergeFrom {} m.inviteinfo? o.inviteinfo?

def GameMainRequest.MergeFrom (m o : GameMainRequest) : GameMainRequest where
  sessionid? := last m.sessionid? o.sessionid?
  msgtype? := last m.msgtype? o.msgtype?
  playerinfo? := within PlayerInfo.MergeFrom {} m.playerinfo? o.playerinfo?

/-- What is left of two messages that are parsed as one. -/
def MergeFrom (m o : UnPacket) : UnPacket where
  curscene? := last m.curscene? o.curscene?
  loginrequest? := within LoginRequest.MergeFrom {} m.loginrequest? o.loginrequest?
  registerrequest? := within RegisterRequest.MergeFrom {} m.registerrequest? o.registerrequest?
  createrolerequest? :=
    within CreateRoleRequest.MergeFrom {} m.createrolerequest? o.createrolerequest?
  selectrolerequest? :=
    within SelectRoleRequest.MergeFrom {} m.selectrolerequest? o.selectrolerequest?
  hallrequest? := within HallRequest.MergeFrom {} m.hallrequest? o.hallrequest?
  gamemainrequest? := within GameMainRequest.MergeFrom {} m.gamemainrequest? o.gamemainrequest?
  keepalive? := within KeepAliveMsg.MergeFrom {} m.keepalive? o.keepalive?

theorem within_blank {M : Type} {f : M → M → M} {blank : M} (h : ∀ m, f blank m = m) (o : Option M) :
    within f blank none o = o := by
  cases o with
  | none => rfl
  | some m => exact congrArg some (h m)

theorem last_none {α : Type} (o : Option α) : last none o = o := by
  cases o <;> rfl

theorem PlayerInfo.MergeFrom_blank (m : PlayerInfo) : PlayerInfo.MergeFrom {} m = m := by
  have hpos : ∀ p : Position3D, Position3D.MergeFrom {} p = p := fun p => by
    simp only [Position3D.MergeFrom, last_none, List.nil_append]
  simp only [PlayerInfo.MergeFrom, last_none, within_blank hpos, List.nil_append]

theorem MergeFrom_blank (m : UnPacket) : MergeFrom {} m = m := by
  have hlogin : ∀ r : LoginRequest, LoginRequest.MergeFrom {} r = r := fun r => by
    simp only [LoginRequest.MergeFrom, last_none]
  have hregister : ∀ r : RegisterRequest, RegisterRequest.MergeFrom {} r = r := fun r => by
    simp only [RegisterRequest.MergeFrom, last_none]
  have hcreate : ∀ r : CreateRoleRequest, CreateRoleRequest.MergeFrom {} r = r := fun r => by
    simp only [CreateRoleRequest.MergeFrom, last_none, within_blank PlayerInfo.MergeFrom_blank]
  have hselect : ∀ r : SelectRoleRequest, SelectRoleRequest.MergeFrom {} r = r := fun r => by
    simp only [SelectRoleRequest.MergeFrom, last_none]
  have hinvite : ∀ i : InviteInfo, InviteInfo.MergeFrom {} i = i := fun i => by
    simp only [InviteInfo.MergeFrom, last_none, List.nil_append]
  have hhall : ∀ r : HallRequest, HallRequest.MergeFrom {} r = r := fun r => by
    simp only [HallRequest.MergeFrom, last_none, within_blank hinvite]
  have hgame : ∀ r : GameMainRequest, GameMainRequest.MergeFrom {} r = r := fun r => by
    simp only [GameMainRequest.MergeFrom, last_none, within_blank PlayerInfo.MergeFrom_blank]
  have hkeep : ∀ k : KeepAliveMsg, KeepAliveMsg.MergeFrom {} k = k := fun k => by
    simp only [KeepAliveMsg.MergeFrom, last_none]
  simp only [MergeFrom, last_none, within_blank hlogin, within_blank hregister,
    within_blank hcreate, within_blank hselect, within_blank hhall, within_blank hgame,
    within_blank hkeep]

end MergeFrom

section Schemas

def teamType : Value TeamType := .enum (fun t => t.toInt.toNat) [.Team_A, .Team_B]

def roomType : Value RoomType :=
  .enum (fun t => t.ctorIdx + 1) [.RT_Idle, .RT_JoinRoom, .RT_Wait, .RT_OK]

def playerStatus : Value PlayerStatus :=
  .enum (fun t => t.ctorIdx)
    [.PS_None, .PS_Idle, .PS_Run, .PS_Q, .PS_W, .PS_E, .PS_R, .PS_Death, .PS_CDing]

def curScene : Value CurScene :=
  .enum (fun t => t.ctorIdx)
    [.CS_None, .CS_Login, .CS_Register, .CS_CreateRole, .CS_SelectRole, .CS_WaitRoom,
      .CS_MainScene, .CS_KeepAlive, .CS_BreakLineRecon]

def hallMsgType : Value HallMsgType :=
  .enum (fun t => t.ctorIdx)
    [.HST_AutoMatch, .HST_CreateRoom, .HST_GetRoomList, .HST_JoinRoom, .HST_GameStart,
      .HST_WaitTimeout, .HST_LeaveRoom, .HST_CreateRoomFail, .HST_OnlineFriend, .HST_RequestTeam,
      .HST_JoinTeam, .HST_GameWaite, .HST_KeepAlive]

def gameMainMsgType : Value GameMainMsgType :=
  .enum (fun t => t.ctorIdx)
    [.GMT_KeepAlive, .GMT_RsyncAttr, .GMT_RsyncStatus, .GMT_GameOver, .GMT_BreakLine]

def loginReturnType : Value LoginReturnType :=
  .enum (fun t => t.ctorIdx) [.Fail, .ToCreateRole, .ToSelectRole]

def registerReturnType : Value RegisterReturnType :=
  .enum (fun t => t.ctorIdx) [.RT_Fail, .RT_Success]

def createRoleReturnType : Value CreateRoleReturnType :=
  .enum (fun t => t.ctorIdx) [.CRT_Fail, .CRT_Success]

def position3D : Schema Position3D where
  blank := {}
  slots := [
    required 1 .string (·.x?) (fun v m => { m with x? := v }) fun _ => rfl,
    required 2 .string (·.y?) (fun v m => { m with y? := v }) fun _ => rfl,
    required 3 .string (·.z?) (fun v m => { m with z? := v }) fun _ => rfl]
  nodup := by decide
  unknown := (·.unknown)
  addUnknown u m := { m with unknown := m.unknown ++ u }
  addUnknown_nil m := by rw [List.append_nil]
  addUnknown_append u v m := by rw [List.append_assoc]

def playerInfo : Schema PlayerInfo where
  blank := {}
  slots := [
    optional 1 .bits32 (·.socket?) (fun v m => { m with socket? := v }) fun _ => rfl,
    optional 2 .bool (·.isroomctl?) (fun v m => { m with isroomctl? := v }) fun _ => rfl,
    optional 3 .int32 (·.roleid?) (fun v m => { m with roleid? := v }) fun _ => rfl,
    optional 4 .int32 (·.roletype?) (fun v m => { m with roletype? := v }) fun _ => rfl,
    optional 5 .string (·.name?) (fun v m => { m with name? := v }) fun _ => rfl,
    optional 6 .int32 (·.level?) (fun v m => { m with level? := v }) fun _ => rfl,
    optional 7 .float (·.hp?) (fun v m => { m with hp? := v }) fun _ => rfl,
    optional 8 .float (·.mp?) (fun v m => { m with mp? := v }) fun _ => rfl,
    optional 9 .float (·.attack?) (fun v m => { m with attack? := v }) fun _ => rfl,
    optional 10 .float (·.movespeed?) (fun v m => { m with movespeed? := v }) fun _ => rfl,
    optional 11 teamType (·.team?) (fun v m => { m with team? := v }) fun _ => rfl,
    optional 12 roomType (·.roomstate?) (fun v m => { m with roomstate? := v }) fun _ => rfl,
    optional 13 .int32 (·.roomid?) (fun v m => { m with roomid? := v }) fun _ => rfl,
    optional 14 .int32 (·.teamid?) (fun v m => { m with teamid? := v }) fun _ => rfl,
    optional 15 .bool (·.gamewaite?) (fun v m => { m with gamewaite? := v }) fun _ => rfl,
    optional 16 position3D.value (·.pos?) (fun v m => { m with pos? := v }) fun _ => rfl,
    optional 17 position3D.value (·.rot?) (fun v m => { m with rot? := v }) fun _ => rfl,
    optional 18 position3D.value (·.scale?) (fun v m => { m with scale? := v }) fun _ => rfl,
    optional 19 playerStatus (·.playerstatus?)
      (fun v m => { m with playerstatus? := v }) fun _ => rfl]
  nodup := by decide
  unknown := (·.unknown)
  addUnknown u m := { m with unknown := m.unknown ++ u }
  addUnknown_nil m := by rw [List.append_nil]
  addUnknown_append u v m := by rw [List.append_assoc]

def inviteInfo : Schema InviteInfo where
  blank := {}
  slots := [
    optional 1 .int32 (·.roomid?) (fun v m => { m with roomid? := v }) fun _ => rfl,
    optional 2 .int32 (·.requserid?) (fun v m => { m with requserid? := v }) fun _ => rfl,
    optional 3 .string (·.requsername?) (fun v m => { m with requsername? := v }) fun _ => rfl,
    optional 4 .int32 (·.revuserid?) (fun v m => { m with revuserid? := v }) fun _ => rfl,
    optional 5 teamType (·.team?) (fun v m => { m with team? := v }) fun _ => rfl,
    optional 6 .int32 (·.teamid?) (fun v m => { m with teamid? := v }) fun _ => rfl]
  nodup := by decide
  unknown := (·.unknown)
  addUnknown u m := { m with unknown := m.unknown ++ u }
  addUnknown_nil m := by rw [List.append_nil]
  addUnknown_append u v m := by rw [List.append_assoc]

def keepAliveMsg : Schema KeepAliveMsg where
  blank := {}
  slots := [
    required 1 curScene (·.curscene?) (fun v m => { m with curscene? := v }) fun _ => rfl]
  nodup := by decide

def loginRequest : Schema LoginRequest where
  blank := {}
  slots := [
    required 1 .string (·.username?) (fun v m => { m with username? := v }) fun _ => rfl,
    required 2 .string (·.password?) (fun v m => { m with password? := v }) fun _ => rfl]
  nodup := by decide

def registerRequest : Schema RegisterRequest where
  blank := {}
  slots := [
    required 1 .string (·.username?) (fun v m => { m with username? := v }) fun _ => rfl,
    required 2 .string (·.password?) (fun v m => { m with password? := v }) fun _ => rfl]
  nodup := by decide

def createRoleRequest : Schema CreateRoleRequest where
  blank := {}
  slots := [
    required 1 .string (·.sessionid?) (fun v m => { m with sessionid? := v }) fun _ => rfl,
    required 2 playerInfo.value (·.playerinfo?)
      (fun v m => { m with playerinfo? := v }) fun _ => rfl]
  nodup := by decide

def selectRoleRequest : Schema SelectRoleRequest where
  blank := {}
  slots := [
    required 1 .string (·.sessionid?) (fun v m => { m with sessionid? := v }) fun _ => rfl,
    required 2 .int32 (·.roletype?) (fun v m => { m with roletype? := v }) fun _ => rfl]
  nodup := by decide

def hallRequest : Schema HallRequest where
  blank := {}
  slots := [
    required 1 .string (·.sessionid?) (fun v m => { m with sessionid? := v }) fun _ => rfl,
    required 2 hallMsgType (·.msgtype?) (fun v m => { m with msgtype? := v }) fun _ => rfl,
    optional 3 .string (·.roomname?) (fun v m => { m with roomname? := v }) fun _ => rfl,
    optional 4 .int32 (·.userid?) (fun v m => { m with userid? := v }) fun _ => rfl,
    optional 5 inviteInfo.value (·.inviteinfo?)
      (fun v m => { m with inviteinfo? := v }) fun _ => rfl]
  nodup := by decide

def gameMainRequest : Schema GameMainRequest where
  blank := {}
  slots := [
    required 1 .string (·.sessionid?) (fun v m => { m with sessionid? := v }) fun _ => rfl,
    required 2 gameMainMsgType (·.msgtype?) (fun v m => { m with msgtype? := v }) fun _ => rfl,
    optional 3 playerInfo.value (·.playerinfo?)
      (fun v m => { m with playerinfo? := v }) fun _ => rfl]
  nodup := by decide

def unPacket : Schema UnPacket where
  blank := {}
  slots := [
    required 1 curScene (·.curscene?) (fun v m => { m with curscene? := v }) fun _ => rfl,
    optional 3 loginRequest.value (·.loginrequest?)
      (fun v m => { m with loginrequest? := v }) fun _ => rfl,
    optional 5 registerRequest.value (·.registerrequest?)
      (fun v m => { m with registerrequest? := v }) fun _ => rfl,
    optional 7 createRoleRequest.value (·.createrolerequest?)
      (fun v m => { m with createrolerequest? := v }) fun _ => rfl,
    optional 9 selectRoleRequest.value (·.selectrolerequest?)
      (fun v m => { m with selectrolerequest? := v }) fun _ => rfl,
    optional 11 hallRequest.value (·.hallrequest?)
      (fun v m => { m with hallrequest? := v }) fun _ => rfl,
    optional 13 gameMainRequest.value (·.gamemainrequest?)
      (fun v m => { m with gamemainrequest? := v }) fun _ => rfl,
    optional 15 keepAliveMsg.value (·.keepalive?)
      (fun v m => { m with keepalive? := v }) fun _ => rfl]
  nodup := by decide

theorem unPacket_merge : unPacket.merge = MergeFrom := rfl

def roomInfo : Schema RoomInfo where
  blank := {}
  slots := [
    optional 1 .int32 (·.roomid?) (fun v m => { m with roomid? := v }) fun _ => rfl,
    required 2 .string (·.roomname?) (fun v m => { m with roomname? := v }) fun _ => rfl,
    required 3 .int32 (·.personcount?) (fun v m => { m with personcount? := v }) fun _ => rfl,
    required 4 .int32 (·.freepersoncount?)
      (fun v m => { m with freepersoncount? := v }) fun _ => rfl,
    repeated 5 playerInfo.value (·.playerinfo) (fun v m => { m with playerinfo := v })
      (fun _ => rfl) (fun _ _ => rfl) fun _ _ _ => rfl]
  nodup := by decide

def hallInfo : Schema HallInfo where
  blank := {}
  slots := [
    repeated 1 roomInfo.value (·.roominfo) (fun v m => { m with roominfo := v })
      (fun _ => rfl) (fun _ _ => rfl) fun _ _ _ => rfl]
  nodup := by decide

def loginReturn : Schema LoginReturn where
  blank := {}
  slots := [
    required 1 .string (·.sessionid?) (fun v m => { m with sessionid? := v }) fun _ => rfl,
    required 2 loginReturnType (·.returntype?) (fun v m => { m with returntype? := v }) fun _ => rfl,
    repeated 3 playerInfo.value (·.playerinfo) (fun v m => { m with playerinfo := v })
      (fun _ => rfl) (fun _ _ => rfl) fun _ _ _ => rfl]
  nodup := by decide

def registerReturn : Schema RegisterReturn where
  blank := {}
  slots := [
    required 1 registerReturnType (·.returntype?)
      (fun v m => { m with returntype? := v }) fun _ => rfl]
  nodup := by decide

def createRoleReturn : Schema CreateRoleReturn where
  blank := {}
  slots := [
    required 1 createRoleReturnType (·.returntype?)
      (fun v m => { m with returntype? := v }) fun _ => rfl,
    repeated 2 playerInfo.value (·.playerinfo) (fun v m => { m with playerinfo := v })
      (fun _ => rfl) (fun _ _ => rfl) fun _ _ _ => rfl]
  nodup := by decide

def selectRoleReturn : Schema SelectRoleReturn where
  blank := {}
  slots := [
    required 1 .int32 (·.userid?) (fun v m => { m with userid? := v }) fun _ => rfl]
  nodup := by decide

def hallReturn : Schema HallReturn where
  blank := {}
  slots := [
    optional 1 hallInfo.value (·.hallinfo?) (fun v m => { m with hallinfo? := v }) fun _ => rfl,
    optional 2 hallMsgType (·.msgtype?) (fun v m => { m with msgtype? := v }) fun _ => rfl,
    optional 3 .string (·.roomname?) (fun v m => { m with roomname? := v }) fun _ => rfl,
    optional 4 .int32 (·.roomid?) (fun v m => { m with roomid? := v }) fun _ => rfl,
    repeated 5 playerInfo.value (·.friendlist) (fun v m => { m with friendlist := v })
      (fun _ => rfl) (fun _ _ => rfl) fun _ _ _ => rfl,
    optional 6 inviteInfo.value (·.inviteinfo?) (fun v m => { m with inviteinfo? := v }) fun _ => rfl]
  nodup := by decide

def gameMainReturn : Schema GameMainReturn where
  blank := {}
  slots := [
    required 1 gameMainMsgType (·.msgtype?) (fun v m => { m with msgtype? := v }) fun _ => rfl,
    repeated 2 playerInfo.value (·.friendlist) (fun v m => { m with friendlist := v })
      (fun _ => rfl) (fun _ _ => rfl) fun _ _ _ => rfl]
  nodup := by decide

def packet : Schema Packet where
  blank := {}
  slots := [
    required 1 curScene (·.curscene?) (fun v m => { m with curscene? := v }) fun _ => rfl,
    optional 4 loginReturn.value (·.loginreturn?)
      (fun v m => { m with loginreturn? := v }) fun _ => rfl,
    optional 6 registerReturn.value (·.registerreturn?)
      (fun v m => { m with registerreturn? := v }) fun _ => rfl,
    optional 8 createRoleReturn.value (·.createrolereturn?)
      (fun v m => { m with createrolereturn? := v }) fun _ => rfl,
    optional 10 selectRoleReturn.value (·.selectrolereturn?)
      (fun v m => { m with selectrolereturn? := v }) fun _ => rfl,
    optional 12 hallReturn.value (·.hallreturn?)
      (fun v m => { m with hallreturn? := v }) fun _ => rfl,
    optional 14 gameMainReturn.value (·.gamemainreturn?)
      (fun v m => { m with gamemainreturn? := v }) fun _ => rfl]
  nodup := by decide

end Schemas

def MSGSIZE : Nat := 8192

/-- What a client can write: the required fields are there, and the numbers are
int32. -/
abbrev Sendable (m : UnPacket) : Prop := unPacket.fits m = true

/-- The generated class UnPacket, as far as bytes go. A parse leaves a message
behind whether or not it succeeds, and the server does not ask. -/
structure Codec where
  SerializeToArray : UnPacket → Bytes
  ParseFromArray : Bytes → UnPacket

/-- A buffer of whole messages is parsed as one message, their merge. -/
def Codec.Merges (pb : Codec) : Prop :=
  ∀ ms : List UnPacket, (∀ m ∈ ms, Sendable m) →
    (ms.flatMap pb.SerializeToArray).length ≤ MSGSIZE →
    pb.ParseFromArray (ms.flatMap pb.SerializeToArray) = ms.foldl MergeFrom {}

/-- The wire format of the schema. -/
def wire : Codec where
  SerializeToArray := unPacket.encode
  ParseFromArray := unPacket.parse

theorem wire_merges : wire.Merges := by
  intro ms hs _
  rw [← unPacket_merge]
  exact Schema.parse_encodes hs

end JiraGame.Encoding
