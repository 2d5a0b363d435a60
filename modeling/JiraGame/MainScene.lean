import JiraGame.HallScene

namespace JiraGame.MainScene

open JiraGame.Scene JiraGame.Command JiraGame.Cache JiraGame.HallScene

def mainPacket (ret : GameMainReturn) : Packet :=
  { curscene? := some .CS_MainScene, gamemainreturn? := some ret }

/-- The role info after a sync: the payload, with room, socket and role id of
the entity put back. -/
def resync (payload p : PlayerInfo) : PlayerInfo :=
  ((payload.set_roomid p.roomid).set_socket p.socket).set_roleid p.roleid

/-- `RsyncAttr` and `RsyncStatus` differ in the type of the message only. -/
def rsync (msgtype : GameMainMsgType) (s : SOCKET) (req : GameMainRequest) (c : CCache) :
    Except Fault (CCache × Outbox) :=
  match c.GetEntity s with
  | none => .error .nullEntity
  | some e =>
    match c.FindEntityRoom e.roleInfo.roomid with
    | none => .ok (c, [])
    | some r =>
      let c' := c.writeRoleInfo s (resync req.playerinfo)
      let friendlist := r.playerinfo.filterMap fun p => (c'.GetEntity p.socket).map (·.roleInfo)
      let ret : GameMainReturn := { msgtype? := some msgtype, friendlist := friendlist }
      .ok (c', r.playerinfo.map fun p => (p.socket, mainPacket ret))

def RsyncAttr := rsync .GMT_RsyncAttr

def RsyncStatus := rsync .GMT_RsyncStatus

def clearMembers : List PlayerInfo → CCache → Except Fault CCache
  | [], c => .ok c
  | p :: ps, c =>
    match c.GetEntity p.socket with
    | none => .error .nullEntity
    | some _ => clearMembers ps (c.writeRoleInfo p.socket (·.set_roomid 0))

def GameOver (s : SOCKET) (c : CCache) : Except Fault (CCache × Outbox) :=
  match c.GetEntity s with
  | none => .error .nullEntity
  | some e =>
    let roomID := e.roleInfo.roomid
    match c.FindEntityRoom roomID with
    | none => .ok (c.EntityRoomRemoveMember roomID, [])
    | some r => do
      let c' ← clearMembers r.playerinfo c
      .ok (c'.EntityRoomRemoveMember roomID, [])

def MainLogic (s : SOCKET) (req : GameMainRequest) (c : CCache) : Except Fault (CCache × Outbox) :=
  if c.CheckSessionValid s req.sessionid then
    match req.msgtype with
    | .GMT_RsyncAttr => RsyncAttr s req c
    | .GMT_RsyncStatus => RsyncStatus s req c
    | .GMT_GameOver => GameOver s c
    | _ => .ok (c, [])
  else .ok (c, [])

end JiraGame.MainScene
