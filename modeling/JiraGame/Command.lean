import JiraGame.Scene

namespace JiraGame.Command

open JiraGame.Scene

inductive CurScene
  | CS_None | CS_Login | CS_Register | CS_CreateRole | CS_SelectRole | CS_WaitRoom
  | CS_MainScene | CS_KeepAlive | CS_BreakLineRecon
deriving DecidableEq

inductive LoginReturnType
  | Fail | ToCreateRole | ToSelectRole
deriving DecidableEq

inductive RegisterReturnType
  | RT_Fail | RT_Success
deriving DecidableEq

inductive CreateRoleReturnType
  | CRT_Fail | CRT_Success
deriving DecidableEq

inductive HallMsgType
  | HST_AutoMatch | HST_CreateRoom | HST_GetRoomList | HST_JoinRoom | HST_GameStart
  | HST_WaitTimeout | HST_LeaveRoom | HST_CreateRoomFail | HST_OnlineFriend | HST_RequestTeam
  | HST_JoinTeam | HST_GameWaite | HST_KeepAlive
deriving DecidableEq

inductive GameMainMsgType
  | GMT_KeepAlive | GMT_RsyncAttr | GMT_RsyncStatus | GMT_GameOver | GMT_BreakLine
deriving DecidableEq

structure KeepAliveMsg where
  curscene? : Option CurScene := none
deriving DecidableEq

def KeepAliveMsg.curscene (m : KeepAliveMsg) : CurScene := m.curscene?.getD .CS_None

structure LoginRequest where
  username? : Option String := none
  password? : Option String := none
deriving DecidableEq

def LoginRequest.username (m : LoginRequest) : String := m.username?.getD ""
def LoginRequest.password (m : LoginRequest) : String := m.password?.getD ""

structure LoginReturn where
  sessionid? : Option String := none
  returntype? : Option LoginReturnType := none
  playerinfo : List PlayerInfo := []
deriving DecidableEq

structure RegisterRequest where
  username? : Option String := none
  password? : Option String := none
deriving DecidableEq

def RegisterRequest.username (m : RegisterRequest) : String := m.username?.getD ""
def RegisterRequest.password (m : RegisterRequest) : String := m.password?.getD ""

structure RegisterReturn where
  returntype? : Option RegisterReturnType := none
deriving DecidableEq

structure CreateRoleRequest where
  sessionid? : Option String := none
  playerinfo? : Option PlayerInfo := none
deriving DecidableEq

def CreateRoleRequest.sessionid (m : CreateRoleRequest) : String := m.sessionid?.getD ""
def CreateRoleRequest.playerinfo (m : CreateRoleRequest) : PlayerInfo := m.playerinfo?.getD {}

structure CreateRoleReturn where
  returntype? : Option CreateRoleReturnType := none
  playerinfo : List PlayerInfo := []
deriving DecidableEq

structure SelectRoleRequest where
  sessionid? : Option String := none
  roletype? : Option Int := none
deriving DecidableEq

def SelectRoleRequest.sessionid (m : SelectRoleRequest) : String := m.sessionid?.getD ""
def SelectRoleRequest.roletype (m : SelectRoleRequest) : Int := m.roletype?.getD 0

structure SelectRoleReturn where
  userid? : Option Int := none
deriving DecidableEq

structure HallRequest where
  sessionid? : Option String := none
  msgtype? : Option HallMsgType := none
  roomname? : Option String := none
  userid? : Option Int := none
  inviteinfo? : Option InviteInfo := none
deriving DecidableEq

namespace HallRequest

def sessionid (m : HallRequest) : String := m.sessionid?.getD ""
def msgtype (m : HallRequest) : HallMsgType := m.msgtype?.getD .HST_AutoMatch
def roomname (m : HallRequest) : String := m.roomname?.getD ""
def userid (m : HallRequest) : Int := m.userid?.getD 0
def inviteinfo (m : HallRequest) : InviteInfo := m.inviteinfo?.getD {}

end HallRequest

structure HallReturn where
  hallinfo? : Option HallInfo := none
  msgtype? : Option HallMsgType := none
  roomname? : Option String := none
  roomid? : Option Int := none
  friendlist : List PlayerInfo := []
  inviteinfo? : Option InviteInfo := none
deriving DecidableEq

structure GameMainRequest where
  sessionid? : Option String := none
  msgtype? : Option GameMainMsgType := none
  playerinfo? : Option PlayerInfo := none
deriving DecidableEq

def GameMainRequest.sessionid (m : GameMainRequest) : String := m.sessionid?.getD ""
def GameMainRequest.msgtype (m : GameMainRequest) : GameMainMsgType :=
  m.msgtype?.getD .GMT_KeepAlive
def GameMainRequest.playerinfo (m : GameMainRequest) : PlayerInfo := m.playerinfo?.getD {}

structure GameMainReturn where
  msgtype? : Option GameMainMsgType := none
  friendlist : List PlayerInfo := []
deriving DecidableEq

/-- What the server sends; the request fields of the schema are never set. -/
structure Packet where
  curscene? : Option CurScene := none
  loginreturn? : Option LoginReturn := none
  registerreturn? : Option RegisterReturn := none
  createrolereturn? : Option CreateRoleReturn := none
  selectrolereturn? : Option SelectRoleReturn := none
  hallreturn? : Option HallReturn := none
  gamemainreturn? : Option GameMainReturn := none
deriving DecidableEq

/-- What the server reads of a received message. Any field may be missing,
since the result of the parse is not looked at. -/
structure UnPacket where
  curscene? : Option CurScene := none
  loginrequest? : Option LoginRequest := none
  registerrequest? : Option RegisterRequest := none
  createrolerequest? : Option CreateRoleRequest := none
  selectrolerequest? : Option SelectRoleRequest := none
  hallrequest? : Option HallRequest := none
  gamemainrequest? : Option GameMainRequest := none
  keepalive? : Option KeepAliveMsg := none
deriving DecidableEq

namespace UnPacket

def curscene (m : UnPacket) : CurScene := m.curscene?.getD .CS_None
def loginrequest (m : UnPacket) : LoginRequest := m.loginrequest?.getD {}
def registerrequest (m : UnPacket) : RegisterRequest := m.registerrequest?.getD {}
def createrolerequest (m : UnPacket) : CreateRoleRequest := m.createrolerequest?.getD {}
def selectrolerequest (m : UnPacket) : SelectRoleRequest := m.selectrolerequest?.getD {}
def hallrequest (m : UnPacket) : HallRequest := m.hallrequest?.getD {}
def gamemainrequest (m : UnPacket) : GameMainRequest := m.gamemainrequest?.getD {}
def keepalive (m : UnPacket) : KeepAliveMsg := m.keepalive?.getD {}

end UnPacket

end JiraGame.Command
