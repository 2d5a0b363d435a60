import JiraGame.Cache
import JiraGame.Lib.EraseLoop

namespace JiraGame.HallScene

open JiraGame.Scene JiraGame.Command JiraGame.Utilitys JiraGame.Cache JiraGame.Lib.EraseLoop

/-- The packets a handler sends, in order, with their addressees. -/
abbrev Outbox := List (SOCKET × Packet)

def hallPacket (ret : HallReturn) : Packet :=
  { curscene? := some .CS_WaitRoom, hallreturn? := some ret }

/-- After a collision the result of the retry is dropped and 0 comes back. -/
def GenrateOnlyRoomID (c : CCache) : List Nat → Option (Int × List Nat)
  | r₁ :: r₂ :: r₃ :: r₄ :: r₅ :: r₆ :: rest =>
    let _id := string2Int (GenrateRandomID [r₁, r₂, r₃, r₄, r₅, r₆])
    if c.CheckEntityRoomIsOnly _id then some (_id, rest)
    else (GenrateOnlyRoomID c rest).map fun x => (0, x.2)
  | _ => none

/-- The roster entry of the player who creates a room. -/
def ownerEntry (s : SOCKET) (p : PlayerInfo) : PlayerInfo :=
  ((((((((({} : PlayerInfo).set_roleid p.roleid).set_isroomctl true).set_socket s).set_name
    p.name).set_roletype p.roletype).set_team .Team_A).set_teamid 0).set_roomstate .RT_JoinRoom)

def newRoom (s : SOCKET) (roomID : Int) (roomname : String) (p : PlayerInfo) : RoomInfo :=
  { roomid? := some roomID, roomname? := some roomname, personcount? := some 6,
    freepersoncount? := some 5, playerinfo := [ownerEntry s p] }

def asOwner (roomID : Int) (p : PlayerInfo) : PlayerInfo :=
  ((((p.set_isroomctl true).set_roomid roomID).set_team .Team_A).set_teamid 0).set_roomstate
    .RT_JoinRoom

def CreateRoom (s : SOCKET) (req : HallRequest) (rand : List Nat) (c : CCache) :
    Except Fault (CCache × Outbox) :=
  if req.roomname.length ≤ 0 then .ok (c, [])
  else
    match c.GetEntity s with
    | none => .error .nullEntity
    | some e =>
      if e.roleInfo.roomid ≠ 0 then .ok (c, [])
      else
        match GenrateOnlyRoomID c rand with
        | none => .error .unfinished
        | some (roomID, _) =>
          let playerInfo := ownerEntry s e.roleInfo
          let friend := ((((({} : PlayerInfo).set_isroomctl true).set_roleid
            playerInfo.roleid).set_name playerInfo.name).set_roletype playerInfo.roletype).set_roomstate
            playerInfo.roomstate
          .ok ((c.CreateRoom roomID (newRoom s roomID req.roomname e.roleInfo)).writeRoleInfo s
              (asOwner roomID),
            [(s, hallPacket { roomname? := some req.roomname, roomid? := some roomID,
                              msgtype? := some .HST_CreateRoom, friendlist := [friend] })])

def OnlineFriend (s : SOCKET) (req : HallRequest) (c : CCache) : Except Fault (CCache × Outbox) :=
  let online := c.GetEntitys.filter fun x =>
    !x.2.isBroken && x.2.roleInfo.roleid ≠ req.userid
  let friendlist := online.map fun x =>
    ((({} : PlayerInfo).set_roleid x.2.roleInfo.roleid).set_name x.2.roleInfo.name).set_roomstate
      x.2.roleInfo.roomstate
  .ok (c, [(s, hallPacket { msgtype? := some .HST_OnlineFriend, friendlist := friendlist })])

def RequestTeam (s : SOCKET) (req : HallRequest) (c : CCache) : Except Fault (CCache × Outbox) :=
  let notityClientSocket := c.GetEntitySocket req.inviteinfo.revuserid
  match c.GetEntity s with
  | none => .error .nullEntity
  | some e =>
    let inviteInfo := { req.inviteinfo with requsername? := some e.roleInfo.name }
    let packet := hallPacket { inviteinfo? := some inviteInfo, msgtype? := some .HST_RequestTeam }
    .ok (c, if notityClientSocket ≠ 0 then [(notityClientSocket, packet)] else [])

/-- What a join message repeats of a member. -/
def friendOf (p : PlayerInfo) : PlayerInfo :=
  ((((((({} : PlayerInfo).set_isroomctl p.isroomctl).set_roleid p.roleid).set_name p.name).set_roletype
    p.roletype).set_roomstate p.roomstate).set_team p.team).set_teamid p.teamid

/-- The loop of `JoinTeam` over the roster: whether the seat is idle, and the
reply so far, which a taken seat clears. -/
def scanSeat (team : TeamType) (teamid : Int) : List PlayerInfo → HallReturn → Bool × HallReturn
  | [], ret => (true, ret)
  | p :: ps, ret =>
    if p.team = team ∧ p.teamid = teamid then (false, {})
    else scanSeat team teamid ps { ret with friendlist := ret.friendlist ++ [friendOf p] }

/-- The entry both joins append; only `JoinRoom` records the room in it. -/
def memberEntry (s : SOCKET) (p : PlayerInfo) (team : TeamType) (teamid : Int) : PlayerInfo :=
  ((((((({} : PlayerInfo).set_isroomctl false).set_socket s).set_roleid p.roleid).set_name
    p.name).set_roletype p.roletype).set_roomstate .RT_JoinRoom).set_team team |>.set_teamid teamid

def asMember (roomID : Int) (team : TeamType) (teamid : Int) (p : PlayerInfo) : PlayerInfo :=
  (((p.set_roomstate .RT_JoinRoom).set_roomid roomID).set_team team).set_teamid teamid

def JoinTeam (s : SOCKET) (req : HallRequest) (c : CCache) : Except Fault (CCache × Outbox) :=
  let invite := req.inviteinfo
  match c.FindEntityRoom invite.roomid with
  -- the recipients are taken from the room also when there is none
  | none => .error .nullRoom
  | some r =>
    let scan := scanSeat invite.team invite.teamid r.playerinfo { msgtype? := some .HST_JoinTeam }
    if scan.1 then
      match c.GetEntity s with
      | none => .error .nullEntity
      | some e =>
        let r' := r.set_freepersoncount (r.freepersoncount - 1)
        let entry := memberEntry s e.roleInfo invite.team invite.teamid
        let ret := { scan.2 with roomid? := some r.roomid, roomname? := some r.roomname,
                                 friendlist := scan.2.friendlist ++ [entry] }
        let c' := ((c.writeRoom invite.roomid r').writeRoleInfo s
          (asMember r.roomid invite.team invite.teamid)).EntityRoomAddMember invite.roomid entry
        let others := ((r'.add_playerinfo entry).playerinfo.map PlayerInfo.socket).filter (· ≠ s)
        .ok (c', (others ++ [s]).map fun t => (t, hallPacket ret))
    else
      let others := (r.playerinfo.map PlayerInfo.socket).filter (· ≠ s)
      .ok (c, (others ++ [s]).map fun t => (t, hallPacket scan.2))

def GetRoomList (s : SOCKET) (c : CCache) : Except Fault (CCache × Outbox) := do
  let rooms ← c.GetEntityRooms.mapM fun x =>
    match x.2.playerinfo with
    | [] => .error Fault.emptyRoster
    | p :: _ =>
      .ok ({ roomid? := some x.1, roomname? := some x.2.roomname,
             personcount? := some x.2.personcount, freepersoncount? := some x.2.freepersoncount,
             playerinfo := [({} : PlayerInfo).set_roomstate p.roomstate] } : RoomInfo)
  .ok (c, [(s, hallPacket { msgtype? := some .HST_GetRoomList, hallinfo? := some ⟨rooms⟩ })])

def allIdle : List (Int × List Int) := [(0, [0, 1, 2]), (1, [0, 1, 2])]

/-- Strike the seat of one member from the idle seats. -/
def strikeSeat (idle : List (Int × List Int)) (p : PlayerInfo) : Option (List (Int × List Int)) :=
  eraseKeyScan (p.team.toInt - 1) (fun pos => eraseScan p.teamid (2 * pos.length + 2) pos 0)
    (2 * idle.length + 2) idle 0

def IdleTeam_ID (roster : List PlayerInfo) : Option (List (Int × List Int)) :=
  roster.foldlM strikeSeat allIdle

/-- `(PBMessage::TeamType)(first + 1)` for the two keys of the map. -/
def teamOfKey (first : Int) : TeamType := if first = 0 then .Team_A else .Team_B

/-- The loop that copies the members who stay, with the new owner if one is
chosen. A leave decides on `isCaptain` beforehand; the leave inside `JoinRoom`
learns it when it passes the entry of the leaver. -/
def copyOthers (roleid : Int) (fromRoster : Bool) :
    Bool → Bool → List PlayerInfo → List PlayerInfo × Option PlayerInfo
  | _, _, [] => ([], none)
  | isCaptain, leader, p :: ps =>
    if p.roleid = roleid then
      copyOthers roleid fromRoster (isCaptain || (fromRoster && p.isroomctl)) leader ps
    else if isCaptain && !leader then
      (p.set_isroomctl true :: (copyOthers roleid fromRoster isCaptain true ps).1,
        some (p.set_isroomctl true))
    else
      let rest := copyOthers roleid fromRoster isCaptain leader ps
      (p :: rest.1, rest.2)

/-- The record that replaces a room when one player leaves it. -/
def leftRoom (r : RoomInfo) (roster : List PlayerInfo) : RoomInfo :=
  { roomid? := some r.roomid, roomname? := some r.roomname, personcount? := some r.personcount,
    freepersoncount? := some (r.freepersoncount + 1), playerinfo := roster }

def asIdle (p : PlayerInfo) : PlayerInfo := (p.set_roomid 0).set_roomstate .RT_Idle

/-- The last member leaves when the counters say so. -/
def lastLeaves (r : RoomInfo) : Bool := r.personcount = r.freepersoncount + 1

/-- The leave that `LeaveRoom` and the heartbeat share. -/
def leaveOwnRoom (s : SOCKET) (c : CCache) : Except Fault (CCache × Outbox) :=
  match c.GetEntity s with
  | none => .error .nullEntity
  | some e =>
    let playerInfo := e.roleInfo
    match c.FindEntityRoom playerInfo.roomid with
    | none => .ok (c, [])
    | some r =>
      if lastLeaves r then
        .ok ((c.EntityRoomRemoveMember playerInfo.roomid).writeRoleInfo s asIdle, [])
      else
        let leaver := (((({} : PlayerInfo).set_roleid playerInfo.roleid).set_isroomctl
          playerInfo.isroomctl).set_team playerInfo.team).set_teamid playerInfo.teamid
        -- the promotion can only write true into a flag that is read as true
        let others := copyOthers playerInfo.roleid false playerInfo.isroomctl false r.playerinfo
        let newRoomInfo := leftRoom r others.1
        let ret : HallReturn := { msgtype? := some .HST_LeaveRoom,
                                  friendlist := leaver :: others.2.toList }
        let out := others.1.map fun p => (p.socket, hallPacket ret)
        match others.2 with
        | none =>
          .ok (((c.writeRoleInfo s asIdle).EntityRoomRemoveMember playerInfo.roomid).CreateRoom
            playerInfo.roomid newRoomInfo, out)
        | some q =>
          match c.GetEntity q.socket with
          | none => .error .nullEntity
          | some _ =>
            .ok ((((c.writeRoleInfo q.socket (·.set_isroomctl true)).writeRoleInfo s
              asIdle).EntityRoomRemoveMember playerInfo.roomid).CreateRoom playerInfo.roomid
              newRoomInfo, out)

/-- The leave inside `JoinRoom`, when the roster of the named room already has
the role id of the requester; `p` is the entry that was found. -/
def leaveNamedRoom (s : SOCKET) (e : CClientEntity) (r : RoomInfo) (p : PlayerInfo) (c : CCache) :
    CCache × Outbox :=
  if lastLeaves r then ((c.EntityRoomRemoveMember r.roomid).writeRoleInfo s asIdle, [])
  else
    let others := copyOthers e.roleInfo.roleid true false false r.playerinfo
    let c' := match others.2 with
      | some q => c.writeRoleInfo q.socket (·.set_isroomctl true)
      | none => c
    let ret : HallReturn := { msgtype? := some .HST_LeaveRoom, friendlist := p :: others.2.toList }
    (((c'.EntityRoomRemoveMember r.roomid).CreateRoom r.roomid (leftRoom r others.1)).writeRoleInfo
      s asIdle, others.1.map fun q => (q.socket, hallPacket ret))

def JoinRoom (s : SOCKET) (req : HallRequest) (c : CCache) : Except Fault (CCache × Outbox) :=
  let invite := req.inviteinfo
  match c.FindEntityRoom invite.roomid with
  | none => .ok (c, [])
  | some r =>
    match IdleTeam_ID r.playerinfo, c.GetEntity s with
    | none, _ => .error .unfinished
    | _, none => .error .nullEntity
    | some idle, some e =>
      match r.playerinfo.find? (fun p => p.roleid = e.roleInfo.roleid) with
      | some p => .ok (leaveNamedRoom s e r p c)
      | none =>
        match idle with
        | [] => .ok (c, [])
        | (_, []) :: _ => .error .outOfBounds
        | (first, pos :: _) :: _ =>
          let team := teamOfKey first
          let r' := r.set_freepersoncount (r.freepersoncount - 1)
          let entry := (memberEntry s e.roleInfo team pos).set_roomid r.roomid
          let ret : HallReturn := { msgtype? := some .HST_JoinTeam, roomid? := some r.roomid,
                                    roomname? := some r.roomname,
                                    friendlist := r.playerinfo ++ [entry] }
          let c' := ((c.writeRoom invite.roomid r').writeRoleInfo s
            (asMember r.roomid team pos)).EntityRoomAddMember invite.roomid entry
          .ok (c', (r'.add_playerinfo entry).playerinfo.map fun p => (p.socket, hallPacket ret))

def LeaveRoom (s : SOCKET) (c : CCache) : Except Fault (CCache × Outbox) := do
  let notice := (s, hallPacket { msgtype? := some .HST_LeaveRoom })
  let (c', out) ← leaveOwnRoom s c
  .ok (c', notice :: out)

def GameWaite (s : SOCKET) (c : CCache) : Except Fault (CCache × Outbox) :=
  match c.GetEntity s with
  | none => .error .nullEntity
  | some e =>
    let waite := !e.roleInfo.gamewaite
    match c.FindEntityRoom e.roleInfo.roomid with
    | none => .error .nullRoom
    | some r =>
      let playerInfo := ({} : PlayerInfo).set_gamewaite waite
      let friend := match r.playerinfo.find? (fun p => p.roleid = e.roleInfo.roleid) with
        | some p => ((playerInfo.set_roomstate (if waite then .RT_Wait else .RT_JoinRoom)).set_team
            p.team).set_teamid p.teamid
        | none => playerInfo
      let ret : HallReturn := { msgtype? := some .HST_GameWaite, friendlist := [friend] }
      .ok (c.writeRoleInfo s (·.set_gamewaite waite),
        r.playerinfo.map fun p => (p.socket, hallPacket ret))

/-- The loop over the members with another role id, which ends at the first who
is not ready. -/
def allPlayerWaite (c : CCache) (roleid : Int) : List PlayerInfo → Except Fault Bool
  | [] => .ok true
  | p :: ps =>
    if p.roleid = roleid then allPlayerWaite c roleid ps
    else
      match c.GetEntity p.socket with
      | none => .error .nullEntity
      | some e => if e.roleInfo.gamewaite then allPlayerWaite c roleid ps else .ok false

def GameStart (s : SOCKET) (c : CCache) : Except Fault (CCache × Outbox) :=
  match c.GetEntity s with
  | none => .error .nullEntity
  | some e =>
    match c.FindEntityRoom e.roleInfo.roomid with
    | none => .error .nullRoom
    | some r => do
      let all ← allPlayerWaite c e.roleInfo.roleid r.playerinfo
      let ret : HallReturn := { msgtype? := some .HST_GameStart,
                                friendlist := if all then r.playerinfo else [] }
      .ok (c, r.playerinfo.map fun p => (p.socket, hallPacket ret))

def hallLogic (s : SOCKET) (req : HallRequest) (rand : List Nat) (c : CCache) :
    Except Fault (CCache × Outbox) :=
  if c.CheckSessionValid s req.sessionid then
    match req.msgtype with
    | .HST_CreateRoom => CreateRoom s req rand c
    | .HST_OnlineFriend => OnlineFriend s req c
    | .HST_RequestTeam => RequestTeam s req c
    | .HST_JoinTeam => JoinTeam s req c
    | .HST_JoinRoom => JoinRoom s req c
    | .HST_GetRoomList => GetRoomList s c
    | .HST_LeaveRoom => LeaveRoom s c
    | .HST_GameWaite => GameWaite s c
    | .HST_GameStart => GameStart s c
    | _ => .ok (c, [])
  else .ok (c, [])

end JiraGame.HallScene
