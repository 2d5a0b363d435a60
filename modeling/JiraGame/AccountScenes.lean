import JiraGame.HallScene
import JiraGame.DBServer

namespace JiraGame.AccountScenes

open JiraGame.Scene JiraGame.Command JiraGame.Utilitys JiraGame.DBServer JiraGame.Cache
open JiraGame.HallScene

variable {DB : Type} (sqlite : Sqlite DB)

/-- Prepare and run a statement; the text is missing when an array was read
past its end. -/
def run (db : DB) (sql : Option Sql) : Except Fault (DB × Option SqlResult) :=
  match sql with
  | none => .error .outOfBounds
  | some q => .ok (sqlite.exec db q)

def firstRow (res : Option SqlResult) : Option Row :=
  match res with
  | some x => x.rows.head?
  | none => none

def userRow (db : DB) (username password : String) : Except Fault (DB × Option SqlResult) :=
  run sqlite db (SelectWhere "userInfo" ["name", "password"] [quoted username, quoted password] 2)

/-- A role of the login list: type, name and, for `LoginLogic`, the user. -/
def listedRole (withUser : Bool) (row : Row) : PlayerInfo :=
  let p : PlayerInfo := {}
  let p := match row.column_text 0 with
    | some t => p.set_roletype (string2Int t)
    | none => p
  let p := match row.column_text 1 with
    | some t => p.set_name t
    | none => p
  match withUser, row.column_text 2 with
  | true, some t => p.set_roleid (string2Int t)
  | _, _ => p

/-- The session id that a login with this user name assigns. -/
def sessionOf (username : String) (rand : List Nat) : Option String :=
  match rand with
  | r₁ :: r₂ :: r₃ :: r₄ :: r₅ :: r₆ :: _ =>
    some (username ++ "_" ++ GenrateRandomID [r₁, r₂, r₃, r₄, r₅, r₆])
  | _ => none

def loginPacket (ret : LoginReturn) : Packet :=
  { curscene? := some .CS_Login, loginreturn? := some ret }

def LoginLogic (s : SOCKET) (req : LoginRequest) (rand : List Nat) (db : DB) (c : CCache) :
    Except Fault (DB × CCache × Outbox) := do
  let (db, res) ← userRow sqlite db req.username req.password
  match firstRow res with
  | none => .ok (db, c, [(s, loginPacket { returntype? := some .Fail })])
  | some _ =>
    match sessionOf req.username rand with
    | none => .error .unfinished
    | some sid =>
      let c' := match c.GetEntity s with
        | some e => c.writeEntity s { e with SessionID := sid }
        | none => c
      let (db, _) ← run sqlite db
        (Update "userInfo" ["name"] [quoted req.username] ["session_id"] [quoted sid] 1 1)
      let (db, roles) := sqlite.exec db
        (raw "select roleType,playerInfo.name,userID from userInfo left join playerInfo on userInfo.PlayerInfoID=playerInfo.roleID where userInfo.name=" ++
          quoted req.username ++ raw " and roleID=PlayerInfoID;")
      let rows := match roles with
        | some x => x.rows
        | none => []
      let returntype := if rows.isEmpty then LoginReturnType.ToCreateRole else .ToSelectRole
      .ok (db, c', [(s, loginPacket { sessionid? := some sid, returntype? := some returntype,
                                      playerinfo := rows.map (listedRole true) })])

def RegisterLogic (s : SOCKET) (req : RegisterRequest) (db : DB) (c : CCache) :
    Except Fault (DB × CCache × Outbox) := do
  let (db, _) ← run sqlite db (CreateTable "userInfo"
    ["userID", "PlayerInfoID", "session_id", "name", "password"]
    ["INTEGER PRIMARY KEY AUTOINCREMENT", "INTEGER NULL", "varchar(32) NULL",
      "varchar(32) UNIQUE", "varchar(16)"] 5)
  let (db, res) := sqlite.exec db
    (raw "select * from userInfo where name=" ++ quoted req.username ++ raw ";")
  let (db, returntype) ←
    if res.isSome && (firstRow res).isNone then do
      let (db, ins) ← run sqlite db (Insert "userInfo" ["name", "password"]
        [quoted req.username, quoted req.password] 2)
      let returntype := if (ins.map SqlResult.done).getD false then RegisterReturnType.RT_Success
        else .RT_Fail
      Except.ok (db, returntype)
    else Except.ok (db, RegisterReturnType.RT_Fail)
  let (db, _) := sqlite.exec db
    (raw "update userInfo set PlayerInfoID=userID where name=" ++ quoted req.username ++ raw ";")
  .ok (db, c, [(s, { curscene? := some .CS_Register,
                     registerreturn? := some { returntype? := some returntype } })])

def createPacket (ret : CreateRoleReturn) : Packet :=
  { curscene? := some .CS_CreateRole, createrolereturn? := some ret }

def CreateLogic (s : SOCKET) (req : CreateRoleRequest) (db : DB) (c : CCache) :
    Except Fault (DB × CCache × Outbox) := do
  let failed : Outbox := [(s, createPacket { returntype? := some .CRT_Fail })]
  if c.CheckSessionValid s req.sessionid then
    let (db, _) ← run sqlite db (CreateTable "playerInfo"
      ["roleID", "roleType", "team", "name", "level", "hp", "mp", "attack", "moveSpeed"]
      ["INTEGER", "INTEGER", "INTEGER NULL", "varchar(32) UNIQUE", "INTEGER NULL", "FLOAT NULL",
        "FLOAT NULL", "FLOAT NULL", "FLOAT NULL"] 9)
    let (db, user) := sqlite.exec db
      (raw "select PlayerInfoID,name from userInfo where session_id=" ++ quoted req.sessionid ++
        raw ";")
    match firstRow user with
    | none => .ok (db, c, failed)
    | some row =>
      if req.playerinfo.name = "" then .ok (db, c, failed)
      else
        match row.column_text 1 with
        | none => .error .nullText
        | some PlayerName =>
          let roleType := int2String req.playerinfo.roletype
          let (db, owned) := sqlite.exec db
            (raw "select PlayerInfoID from userInfo left join playerInfo on userInfo.PlayerInfoID=playerInfo.roleID where  playerInfo.roleType=" ++
              raw roleType ++ raw " and userInfo.name=" ++ quoted PlayerName ++ raw ";")
          match firstRow owned with
          | some _ => .ok (db, c, failed)
          | none =>
            let (db, ins) ← run sqlite db (Insert "playerInfo" ["roleID", "roleType", "name"]
              [raw (int2String (row.column_int 0)), raw roleType, quoted req.playerinfo.name] 3)
            if (ins.map SqlResult.done).getD false then
              let (db, roles) := sqlite.exec db
                (raw "select roleType,playerInfo.name from userInfo left join  playerInfo on playerInfo.roleID=userInfo.PlayerInfoID where userInfo.name=" ++
                  quoted PlayerName ++ raw ";")
              let rows := match roles with
                | some x => x.rows
                | none => []
              .ok (db, c, [(s, createPacket { returntype? := some .CRT_Success,
                                              playerinfo := rows.map (listedRole false) })])
            else .ok (db, c, failed)
  else .ok (db, c, failed)

/-- The role info after a role was selected: the type is written before the
query, user id and name only when it finds a row. -/
def selected (roletype : Int) (row : Option (Int × String)) (p : PlayerInfo) : PlayerInfo :=
  match row with
  | some (userID, userName) => ((p.set_roletype roletype).set_roleid userID).set_name userName
  | none => p.set_roletype roletype

def selectRole (req : SelectRoleRequest) (db : DB) : DB × Option SqlResult :=
  sqlite.exec db
    (raw "select userID,playerInfo.name from userInfo left Join playerInfo on userInfo.PlayerInfoID=playerInfo.roleID where session_id=" ++
      quoted req.sessionid ++ raw " and playerInfo.roleType=" ++
      quoted (int2String req.roletype) ++ raw ";")

def selectPacket (ret : SelectRoleReturn) : Packet :=
  { curscene? := some .CS_SelectRole, selectrolereturn? := some ret }

def SelectLogic (s : SOCKET) (req : SelectRoleRequest) (db : DB) (c : CCache) :
    Except Fault (DB × CCache × Outbox) :=
  if c.CheckSessionValid s req.sessionid then
    let (db, res) := selectRole sqlite req db
    match firstRow res with
    | none => .ok (db, c.writeRoleInfo s (selected req.roletype none), [(s, selectPacket {})])
    | some row =>
      match row.column_text 1 with
      | none => .error .nullText
      | some userName =>
        .ok (db, c.writeRoleInfo s (selected req.roletype (some (row.column_int 0, userName))),
          [(s, selectPacket { userid? := some (row.column_int 0) })])
  else .ok (db, c, [])

end JiraGame.AccountScenes
