import JiraGame.AccountStatements
import JiraGame.Replies
import JiraGame.Runs

namespace JiraGame.ReplySizes

open JiraGame.Scene JiraGame.Command JiraGame.DBServer JiraGame.Utilitys JiraGame.Cache
open JiraGame.HallScene JiraGame.MainScene JiraGame.AccountScenes JiraGame.ServerState
open JiraGame.KeepAlive JiraGame.Server JiraGame.Refinement JiraGame.Runs JiraGame.Replies
open JiraGame.AccountStatements hiding text
open JiraGame.Encoding
open JiraGame.Lib.History

variable {DB : Type}

section Found

def created (s : SOCKET) (req : HallRequest) (rand : List Nat) (c : CCache) :
    Option (Int × PlayerInfo) :=
  if req.roomname.length ≤ 0 then none
  else (c.GetEntity s).bind fun e =>
    if e.roleInfo.roomid ≠ 0 then none
    else (GenrateOnlyRoomID c rand).map fun x => (x.1, e.roleInfo)

def online (req : HallRequest) (c : CCache) : List PlayerInfo :=
  (c.GetEntitys.filter fun x => !x.2.isBroken && x.2.roleInfo.roleid ≠ req.userid).map
    fun x => x.2.roleInfo

/-- The rooms of a room list, each with the entry that tells its state. -/
def rooms (c : CCache) : Option (List (Int × RoomInfo × PlayerInfo)) :=
  c.GetEntityRooms.mapM fun x => x.2.playerinfo.head?.map fun p => (x.1, x.2, p)

/-- A room whose named seat is taken, or with the player who takes it. -/
def seated (s : SOCKET) (req : HallRequest) (c : CCache) : Option (RoomInfo × Option PlayerInfo) :=
  (c.FindEntityRoom req.inviteinfo.roomid).bind fun r =>
    if r.playerinfo.any fun p => p.seat = (req.inviteinfo.team, req.inviteinfo.teamid) then
      some (r, none)
    else (c.GetEntity s).map fun e => (r, some e.roleInfo)

/-- The leaver of the room that `JoinRoom` names, and the new owner. -/
def namedLeave (s : SOCKET) (req : HallRequest) (c : CCache) :
    Option (PlayerInfo × Option PlayerInfo) :=
  (c.FindEntityRoom req.inviteinfo.roomid).bind fun r => (c.GetEntity s).bind fun e =>
    (r.playerinfo.find? fun p => p.roleid = e.roleInfo.roleid).bind fun p =>
      if lastLeaves r then none
      else some (p, (copyOthers e.roleInfo.roleid true false false r.playerinfo).2)

/-- The room that `JoinRoom` enters, with the new member. -/
def named (s : SOCKET) (req : HallRequest) (c : CCache) : Option (RoomInfo × PlayerInfo) :=
  (c.FindEntityRoom req.inviteinfo.roomid).bind fun r => (c.GetEntity s).bind fun e =>
    if r.playerinfo.any fun p => p.roleid = e.roleInfo.roleid then none
    else (IdleTeam_ID r.playerinfo).bind fun
      | (first, pos :: _) :: _ =>
        some (r, (memberEntry s e.roleInfo (teamOfKey first) pos).set_roomid r.roomid)
      | _ => none

/-- The leaver of the player's own room, and the new owner. -/
def ownLeave (s : SOCKET) (c : CCache) : Option (PlayerInfo × Option PlayerInfo) :=
  (c.GetEntity s).bind fun e => (c.FindEntityRoom e.roleInfo.roomid).bind fun r =>
    if lastLeaves r then none
    else
      let owner := (copyOthers e.roleInfo.roleid false e.roleInfo.isroomctl false r.playerinfo).2
      if owner.all fun q => (c.GetEntity q.socket).isSome then some (e.roleInfo, owner) else none

def waiting (s : SOCKET) (c : CCache) : Option (Bool × Option PlayerInfo) :=
  (c.GetEntity s).bind fun e => (c.FindEntityRoom e.roleInfo.roomid).map fun r =>
    (!e.roleInfo.gamewaite, r.playerinfo.find? fun p => p.roleid = e.roleInfo.roleid)

def starting (s : SOCKET) (c : CCache) : Option (List PlayerInfo) :=
  (c.GetEntity s).bind fun e => (c.FindEntityRoom e.roleInfo.roomid).bind fun r =>
    match allPlayerWaite c e.roleInfo.roleid r.playerinfo with
    | .ok all => some (if all then r.playerinfo else [])
    | .error _ => none

def synced (s : SOCKET) (req : GameMainRequest) (c : CCache) : Option (List PlayerInfo) :=
  (c.GetEntity s).bind fun e => (c.FindEntityRoom e.roleInfo.roomid).map fun r =>
    r.playerinfo.filterMap fun p => (c.GetEntity p.socket).map fun f =>
      if p.socket = s then resync req.playerinfo f.roleInfo else f.roleInfo

def loggedIn (sqlite : Sqlite DB) (req : LoginRequest) (rand : List Nat) (db : DB) :
    Option (Option (String × List Row)) :=
  let x := sqlite.exec db (Query.account req.username req.password).sql
  match firstRow x.2 with
  | none => some none
  | some _ => (sessionOf req.username rand).map fun sid =>
    let y := sqlite.exec x.1 (Query.setSession req.username sid).sql
    some (sid, ((sqlite.exec y.1 (Query.loginRoles req.username).sql).2.map SqlResult.rows).getD [])

def roleCreated (sqlite : Sqlite DB) (s : SOCKET) (req : CreateRoleRequest) (db : DB) (c : CCache) :
    Option (Option (List Row)) :=
  if c.CheckSessionValid s req.sessionid then
    let w := sqlite.exec db Query.createPlayers.sql
    let x := sqlite.exec w.1 (Query.session req.sessionid).sql
    match firstRow x.2 with
    | none => some none
    | some row =>
      if req.playerinfo.name = "" then some none
      else (row.column_text 1).map fun PlayerName =>
        let y := sqlite.exec x.1 (Query.owned req.playerinfo.roletype PlayerName).sql
        let z := sqlite.exec y.1
          (Query.insertRole (row.column_int 0) req.playerinfo.roletype req.playerinfo.name).sql
        if (firstRow y.2).isNone && (z.2.map SqlResult.done).getD false then
          some (((sqlite.exec z.1 (Query.roles PlayerName).sql).2.map SqlResult.rows).getD [])
        else none
  else some none

end Found

section Built

variable (s : SOCKET)

def creatorEntry (p : PlayerInfo) : PlayerInfo :=
  ((((({} : PlayerInfo).set_isroomctl true).set_roleid p.roleid).set_name p.name).set_roletype
    p.roletype).set_roomstate .RT_JoinRoom

def createReturn (roomname : String) (x : Int × PlayerInfo) : HallReturn :=
  { roomname? := some roomname, roomid? := some x.1, msgtype? := some .HST_CreateRoom,
    friendlist := [creatorEntry x.2] }

def onlineEntry (p : PlayerInfo) : PlayerInfo :=
  ((({} : PlayerInfo).set_roleid p.roleid).set_name p.name).set_roomstate p.roomstate

def roomEntry (x : Int × RoomInfo × PlayerInfo) : RoomInfo :=
  { roomid? := some x.1, roomname? := some x.2.1.roomname, personcount? := some x.2.1.personcount,
    freepersoncount? := some x.2.1.freepersoncount
    playerinfo := [({} : PlayerInfo).set_roomstate x.2.2.roomstate] }

def seatReturn (req : HallRequest) (x : RoomInfo × Option PlayerInfo) : HallReturn :=
  match x.2 with
  | none => {}
  | some p =>
    { msgtype? := some .HST_JoinTeam, roomid? := some x.1.roomid, roomname? := some x.1.roomname,
      friendlist := x.1.playerinfo.map friendOf ++
        [memberEntry s p req.inviteinfo.team req.inviteinfo.teamid] }

def leaveReturn (x : PlayerInfo × Option PlayerInfo) : HallReturn :=
  { msgtype? := some .HST_LeaveRoom, friendlist := x.1 :: x.2.toList }

def leaverEntry (p : PlayerInfo) : PlayerInfo :=
  (((({} : PlayerInfo).set_roleid p.roleid).set_isroomctl p.isroomctl).set_team p.team).set_teamid
    p.teamid

def joinReturn (x : RoomInfo × PlayerInfo) : HallReturn :=
  { msgtype? := some .HST_JoinTeam, roomid? := some x.1.roomid, roomname? := some x.1.roomname,
    friendlist := x.1.playerinfo ++ [x.2] }

def waiteEntry (x : Bool × Option PlayerInfo) : PlayerInfo :=
  let playerInfo := ({} : PlayerInfo).set_gamewaite x.1
  match x.2 with
  | some p => ((playerInfo.set_roomstate (if x.1 then .RT_Wait else .RT_JoinRoom)).set_team
      p.team).set_teamid p.teamid
  | none => playerInfo

/-- The messages that a hall request copies into the send buffer. -/
def builtHall (req : HallRequest) (rand : List Nat) (c : CCache) : List HallReturn :=
  if c.CheckSessionValid s req.sessionid then
    match req.msgtype with
    | .HST_CreateRoom => ((created s req rand c).map (createReturn req.roomname)).toList
    | .HST_OnlineFriend =>
      [{ msgtype? := some .HST_OnlineFriend, friendlist := (online req c).map onlineEntry }]
    | .HST_RequestTeam => ((c.GetEntity s).map fun e =>
        { inviteinfo? := some { req.inviteinfo with requsername? := some e.roleInfo.name }
          msgtype? := some .HST_RequestTeam }).toList
    | .HST_JoinTeam => ((seated s req c).map (seatReturn s req)).toList
    | .HST_JoinRoom =>
      ((namedLeave s req c).map leaveReturn).toList ++ ((named s req c).map joinReturn).toList
    | .HST_GetRoomList => ((rooms c).map fun xs =>
        { msgtype? := some .HST_GetRoomList, hallinfo? := some ⟨xs.map roomEntry⟩ }).toList
    | .HST_LeaveRoom => { msgtype? := some .HST_LeaveRoom } ::
        ((ownLeave s c).map fun x => leaveReturn (leaverEntry x.1, x.2)).toList
    | .HST_GameWaite => ((waiting s c).map fun x =>
        { msgtype? := some .HST_GameWaite, friendlist := [waiteEntry x] }).toList
    | .HST_GameStart => ((starting s c).map fun ps =>
        { msgtype? := some .HST_GameStart, friendlist := ps }).toList
    | _ => []
  else []

def builtMain (req : GameMainRequest) (c : CCache) : List GameMainReturn :=
  if c.CheckSessionValid s req.sessionid then
    match req.msgtype with
    | .GMT_RsyncAttr => ((synced s req c).map fun ps =>
        { msgtype? := some .GMT_RsyncAttr, friendlist := ps }).toList
    | .GMT_RsyncStatus => ((synced s req c).map fun ps =>
        { msgtype? := some .GMT_RsyncStatus, friendlist := ps }).toList
    | _ => []
  else []

def loginReply (x : Option (String × List Row)) : LoginReturn :=
  match x with
  | none => { returntype? := some .Fail }
  | some (sid, rows) =>
    { sessionid? := some sid, playerinfo := rows.map (listedRole true)
      returntype? := some (if rows.isEmpty then .ToCreateRole else .ToSelectRole) }

def createReply (x : Option (List Row)) : CreateRoleReturn :=
  match x with
  | none => { returntype? := some .CRT_Fail }
  | some rows => { returntype? := some .CRT_Success, playerinfo := rows.map (listedRole false) }

/-- The packets of a message to the scenes with replies of their own size. -/
def builtScene (sqlite : Sqlite DB) (m : UnPacket) (rand : List Nat) (st : Process DB) :
    List Packet :=
  match m.curscene with
  | .CS_Login => ((loggedIn sqlite m.loginrequest rand st.db).map fun x =>
      loginPacket (loginReply x)).toList
  | .CS_CreateRole => ((roleCreated sqlite s m.createrolerequest st.db st.cache).map fun x =>
      createPacket (createReply x)).toList
  | .CS_WaitRoom => (builtHall s m.hallrequest rand st.cache).map hallPacket
  | .CS_MainScene => (builtMain s m.gamemainrequest st.cache).map mainPacket
  | _ => []

def dropped (c : CCache) : Option String :=
  (c.GetEntity s).bind fun e => (c.FindEntityRoom e.roleInfo.roomid).map fun _ => e.roleInfo.name

def dropReturn (name : String) : GameMainReturn :=
  { msgtype? := some .GMT_BreakLine, friendlist := [({} : PlayerInfo).set_name name] }

/-- The leave, the notice to the others and the notice of a callback. -/
def builtTick (ptr : Nat) (st : Process DB) : List Packet :=
  match st.infos[ptr]? with
  | none => []
  | some info =>
    let s := info.clientSocket
    let scene := info.RecMessage.keepalive.curscene
    match st.cache.GetEntity s with
    | none => []
    | some e =>
      if 30 ≤ e.m_iSendMsgCount then []
      else
        (if leaveBand e && (!e.isBroken && scene = .CS_WaitRoom) then
          ((ownLeave s st.cache).map fun x => hallPacket (leaveReturn (leaverEntry x.1, x.2))).toList
        else []) ++
        (if !leaveBand e && breakBand e && (e.isBroken && scene = .CS_MainScene) then
          ((dropped s st.cache).map fun name => mainPacket (dropReturn name)).toList
        else []) ++ (heartbeatNotice s scene).map Prod.snd

/-- The packets that the hall, the game, the login, the role creation and the timer
copy into their send buffers in one step. -/
def built (sqlite : Sqlite DB) (st : Process DB) : Action → List Packet
  | .packet s m rand =>
    if readable s st && (st.cache.GetEntity s).isSome then builtScene s sqlite m rand st else []
  | .poll j now => (dueArg j now st).toList.flatMap fun ptr => builtTick ptr st
  | _ => []

end Built

section Sizes

variable {s : SOCKET}

def onlineSize (p : PlayerInfo) : Nat := framed (number p.roleid + text p.name + flag)

def friendSize (p : PlayerInfo) : Nat :=
  framed (number p.roleid + text p.name + number p.roletype + number p.teamid + 3 * flag)

/-- A room of a room list, with one entry that only tells its state. -/
def roomSize (x : Int × RoomInfo) : Nat :=
  framed (number x.1 + text x.2.roomname + number x.2.personcount + number x.2.freepersoncount +
    framed flag)

def heirSize (q : PlayerInfo) : Nat :=
  framed (infoSize q + if q.isroomctl?.isSome then 0 else flag)

def roleSize (withUser : Bool) (row : Row) : Nat :=
  framed ((row.column_text 0).elim 0 (fun t => number (string2Int t)) +
    (row.column_text 1).elim 0 text +
    if withUser then (row.column_text 2).elim 0 fun t => number (string2Int t) else 0)

theorem size_hallPacket (r : HallReturn) :
    ByteSize (hallPacket r) = flag + framed (hallReturn.size r) := by
  rw [size_packet]
  simp [hallPacket]

theorem size_mainPacket (r : GameMainReturn) :
    ByteSize (mainPacket r) = flag + framed (gameMainReturn.size r) := by
  rw [size_packet]
  simp [mainPacket]

theorem size_loginPacket (r : LoginReturn) :
    ByteSize (loginPacket r) = flag + framed (loginReturn.size r) := by
  rw [size_packet]
  simp [loginPacket]

theorem size_createPacket (r : CreateRoleReturn) :
    ByteSize (createPacket r) = flag + framed (createRoleReturn.size r) := by
  rw [size_packet]
  simp [createPacket]

theorem size_creatorEntry (p : PlayerInfo) : infoSize (creatorEntry p) =
    number p.roleid + text p.name + number p.roletype + 2 * flag := by
  rw [infoSize, attrSize]
  simp [creatorEntry, PlayerInfo.set_isroomctl, PlayerInfo.set_roleid, PlayerInfo.set_name,
    PlayerInfo.set_roletype, PlayerInfo.set_roomstate]
  omega

theorem size_onlineEntry (p : PlayerInfo) :
    infoSize (onlineEntry p) = number p.roleid + text p.name + flag := by
  rw [infoSize, attrSize]
  simp [onlineEntry, PlayerInfo.set_roleid, PlayerInfo.set_name, PlayerInfo.set_roomstate]
  omega

theorem size_friendOf (p : PlayerInfo) : infoSize (friendOf p) =
    number p.roleid + text p.name + number p.roletype + number p.teamid + 3 * flag := by
  rw [infoSize, attrSize]
  simp [friendOf, PlayerInfo.set_isroomctl, PlayerInfo.set_roleid, PlayerInfo.set_name,
    PlayerInfo.set_roletype, PlayerInfo.set_roomstate, PlayerInfo.set_team, PlayerInfo.set_teamid]
  omega

theorem size_memberEntry (p : PlayerInfo) (team : TeamType) (teamid : Int) :
    infoSize (memberEntry s p team teamid) = handle s + number p.roleid + text p.name +
      number p.roletype + number teamid + 3 * flag := by
  rw [infoSize, attrSize]
  simp [memberEntry, PlayerInfo.set_isroomctl, PlayerInfo.set_socket, PlayerInfo.set_roleid,
    PlayerInfo.set_name, PlayerInfo.set_roletype, PlayerInfo.set_roomstate, PlayerInfo.set_team,
    PlayerInfo.set_teamid]
  omega

theorem size_leaverEntry (p : PlayerInfo) :
    infoSize (leaverEntry p) = number p.roleid + number p.teamid + 2 * flag := by
  rw [infoSize, attrSize]
  simp [leaverEntry, PlayerInfo.set_roleid, PlayerInfo.set_isroomctl, PlayerInfo.set_team,
    PlayerInfo.set_teamid]
  omega

theorem size_waiteEntry (x : Bool × Option PlayerInfo) : infoSize (waiteEntry x) =
    flag + x.2.elim 0 fun p => number p.teamid + 2 * flag := by
  obtain ⟨waite, p | p⟩ := x
  · rw [infoSize, attrSize]
    simp [waiteEntry, PlayerInfo.set_gamewaite]
  · rw [infoSize, attrSize]
    simp [waiteEntry, PlayerInfo.set_gamewaite, PlayerInfo.set_roomstate, PlayerInfo.set_team,
      PlayerInfo.set_teamid]
    omega

theorem size_listedRole (withUser : Bool) (row : Row) :
    framed (infoSize (listedRole withUser row)) = roleSize withUser row := by
  rw [infoSize, attrSize, roleSize]
  apply congrArg framed
  cases withUser <;> cases h0 : row.column_text 0 <;> cases h1 : row.column_text 1 <;>
    cases h2 : row.column_text 2 <;>
    simp [listedRole, h0, h1, h2, PlayerInfo.set_roletype, PlayerInfo.set_name,
      PlayerInfo.set_roleid] <;> omega

theorem size_roomEntry (x : Int × RoomInfo × PlayerInfo) :
    framed (roomInfo.size (roomEntry x)) = roomSize (x.1, x.2.1) := by
  have hstate : infoSize (({} : PlayerInfo).set_roomstate x.2.2.roomstate) = flag := by
    rw [infoSize, attrSize]
    simp [PlayerInfo.set_roomstate]
  rw [size_roomInfo, roomSize]
  apply congrArg framed
  simp [roomEntry, records, hstate]
  omega

theorem size_crowned (q : PlayerInfo) : framed (infoSize (q.set_isroomctl true)) = heirSize q := by
  apply congrArg framed
  rw [infoSize, infoSize, attrSize, attrSize]
  cases hq : q.isroomctl? <;> simp [PlayerInfo.set_isroomctl]
  omega

theorem size_createReturn (roomname : String) (x : Int × PlayerInfo) :
    hallReturn.size (createReturn roomname x) = text roomname + number x.1 + flag +
      framed (number x.2.roleid + text x.2.name + number x.2.roletype + 2 * flag) := by
  rw [size_hallReturn]
  simp [createReturn, records, size_creatorEntry]
  omega

theorem size_seatReturn (req : HallRequest) (r : RoomInfo) (p : PlayerInfo) :
    hallReturn.size (seatReturn s req (r, some p)) =
      flag + number r.roomid + text r.roomname + (r.playerinfo.map friendSize).sum +
        framed (handle s + number p.roleid + text p.name + number p.roletype +
          number req.inviteinfo.teamid + 3 * flag) := by
  have hfriends : (fun q => framed (infoSize q)) ∘ friendOf = friendSize := by
    funext q
    rw [Function.comp_apply, size_friendOf, friendSize]
  rw [size_hallReturn]
  simp [seatReturn, records, hfriends, size_memberEntry]
  omega

theorem size_joinReturn (x : RoomInfo × PlayerInfo) : hallReturn.size (joinReturn x) =
    flag + number x.1.roomid + text x.1.roomname + records (x.1.playerinfo ++ [x.2]) := by
  rw [size_hallReturn]
  simp [joinReturn]
  omega

theorem size_leaveReturn (x : PlayerInfo × Option PlayerInfo) :
    hallReturn.size (leaveReturn x) = flag + records (x.1 :: x.2.toList) := by
  rw [size_hallReturn]
  simp [leaveReturn]

theorem size_ownLeave (x : PlayerInfo × Option PlayerInfo) :
    hallReturn.size (leaveReturn (leaverEntry x.1, x.2)) =
      flag + framed (number x.1.roleid + number x.1.teamid + 2 * flag) + records x.2.toList := by
  rw [size_leaveReturn]
  simp [records, size_leaverEntry]
  omega

theorem size_dropReturn (name : String) :
    gameMainReturn.size (dropReturn name) = flag + framed (text name) := by
  have hentry : infoSize (({} : PlayerInfo).set_name name) = text name := by
    rw [infoSize, attrSize]
    simp [PlayerInfo.set_name]
  rw [size_gameMainReturn]
  simp [dropReturn, records, hentry]

end Sizes

end JiraGame.ReplySizes
