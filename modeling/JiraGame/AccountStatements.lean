import JiraGame.AccountScenes
import JiraGame.Lib.SqlQuoting

namespace JiraGame.AccountStatements

open JiraGame.Command JiraGame.Utilitys JiraGame.DBServer JiraGame.Cache JiraGame.Scene
open JiraGame.HallScene JiraGame.AccountScenes JiraGame.Lib.SqlLexer JiraGame.Lib.SqlQuoting

def registerPacket (returntype : RegisterReturnType) : Packet :=
  { curscene? := some .CS_Register, registerreturn? := some { returntype? := some returntype } }

inductive Query
  | account (username password : String)
  | setSession (username sessionid : String)
  | loginRoles (username : String)
  | createUsers
  | username (username : String)
  | insertUser (username password : String)
  | link (username : String)
  | createPlayers
  | session (sessionid : String)
  | owned (roletype : Int) (PlayerName : String)
  | insertRole (PlayerInfoID roletype : Int) (name : String)
  | roles (PlayerName : String)
  | role (sessionid : String) (roletype : Int)
deriving DecidableEq

def Query.sql : Query → Sql
  | .account u p =>
      (SelectWhere "userInfo" ["name", "password"] [quoted u, quoted p] 2).getD []
  | .setSession u sid =>
      (Update "userInfo" ["name"] [quoted u] ["session_id"] [quoted sid] 1 1).getD []
  | .loginRoles u =>
      raw "select roleType,playerInfo.name,userID from userInfo left join playerInfo on userInfo.PlayerInfoID=playerInfo.roleID where userInfo.name=" ++
        quoted u ++ raw " and roleID=PlayerInfoID;"
  | .createUsers =>
      (CreateTable "userInfo" ["userID", "PlayerInfoID", "session_id", "name", "password"]
        ["INTEGER PRIMARY KEY AUTOINCREMENT", "INTEGER NULL", "varchar(32) NULL",
          "varchar(32) UNIQUE", "varchar(16)"] 5).getD []
  | .username u => raw "select * from userInfo where name=" ++ quoted u ++ raw ";"
  | .insertUser u p =>
      (Insert "userInfo" ["name", "password"] [quoted u, quoted p] 2).getD []
  | .link u => raw "update userInfo set PlayerInfoID=userID where name=" ++ quoted u ++ raw ";"
  | .createPlayers =>
      (CreateTable "playerInfo"
        ["roleID", "roleType", "team", "name", "level", "hp", "mp", "attack", "moveSpeed"]
        ["INTEGER", "INTEGER", "INTEGER NULL", "varchar(32) UNIQUE", "INTEGER NULL", "FLOAT NULL",
          "FLOAT NULL", "FLOAT NULL", "FLOAT NULL"] 9).getD []
  | .session sid =>
      raw "select PlayerInfoID,name from userInfo where session_id=" ++ quoted sid ++ raw ";"
  | .owned t u =>
      raw "select PlayerInfoID from userInfo left join playerInfo on userInfo.PlayerInfoID=playerInfo.roleID where  playerInfo.roleType=" ++
        raw (int2String t) ++ raw " and userInfo.name=" ++ quoted u ++ raw ";"
  | .insertRole id t n =>
      (Insert "playerInfo" ["roleID", "roleType", "name"]
        [raw (int2String id), raw (int2String t), quoted n] 3).getD []
  | .roles u =>
      raw "select roleType,playerInfo.name from userInfo left join  playerInfo on playerInfo.roleID=userInfo.PlayerInfoID where userInfo.name=" ++
        quoted u ++ raw ";"
  | .role sid t =>
      raw "select userID,playerInfo.name from userInfo left Join playerInfo on userInfo.PlayerInfoID=playerInfo.roleID where session_id=" ++
        quoted sid ++ raw " and playerInfo.roleType=" ++ quoted (int2String t) ++ raw ";"

section Scenes

variable {DB : Type} (sqlite : Sqlite DB) (s : SOCKET) (db : DB) (c : CCache)

theorem LoginLogic_eq (req : LoginRequest) (rand : List Nat) :
    LoginLogic sqlite s req rand db c =
      let x := sqlite.exec db (Query.account req.username req.password).sql
      match firstRow x.2 with
      | none => .ok (x.1, c, [(s, loginPacket { returntype? := some .Fail })])
      | some _ =>
        match sessionOf req.username rand with
        | none => .error .unfinished
        | some sid =>
          let c' := match c.GetEntity s with
            | some e => c.writeEntity s { e with SessionID := sid }
            | none => c
          let y := sqlite.exec x.1 (Query.setSession req.username sid).sql
          let z := sqlite.exec y.1 (Query.loginRoles req.username).sql
          let rows := match z.2 with
            | some x => x.rows
            | none => []
          let returntype := if rows.isEmpty then LoginReturnType.ToCreateRole else .ToSelectRole
          .ok (z.1, c', [(s, loginPacket { sessionid? := some sid, returntype? := some returntype,
                                           playerinfo := rows.map (listedRole true) })]) := rfl

theorem RegisterLogic_eq (req : RegisterRequest) :
    RegisterLogic sqlite s req db c =
      let w := sqlite.exec db Query.createUsers.sql
      let x := sqlite.exec w.1 (Query.username req.username).sql
      if x.2.isSome && (firstRow x.2).isNone then
        let y := sqlite.exec x.1 (Query.insertUser req.username req.password).sql
        let z := sqlite.exec y.1 (Query.link req.username).sql
        let returntype := if (y.2.map SqlResult.done).getD false then RegisterReturnType.RT_Success
          else .RT_Fail
        .ok (z.1, c, [(s, registerPacket returntype)])
      else
        let z := sqlite.exec x.1 (Query.link req.username).sql
        .ok (z.1, c, [(s, registerPacket .RT_Fail)]) := rfl

theorem CreateLogic_eq (req : CreateRoleRequest) :
    CreateLogic sqlite s req db c =
      let failed : Outbox := [(s, createPacket { returntype? := some .CRT_Fail })]
      if c.CheckSessionValid s req.sessionid then
        let w := sqlite.exec db Query.createPlayers.sql
        let x := sqlite.exec w.1 (Query.session req.sessionid).sql
        match firstRow x.2 with
        | none => .ok (x.1, c, failed)
        | some row =>
          if req.playerinfo.name = "" then .ok (x.1, c, failed)
          else
            match row.column_text 1 with
            | none => .error .nullText
            | some PlayerName =>
              let y := sqlite.exec x.1 (Query.owned req.playerinfo.roletype PlayerName).sql
              match firstRow y.2 with
              | some _ => .ok (y.1, c, failed)
              | none =>
                let z := sqlite.exec y.1
                  (Query.insertRole (row.column_int 0) req.playerinfo.roletype req.playerinfo.name).sql
                if (z.2.map SqlResult.done).getD false then
                  let r := sqlite.exec z.1 (Query.roles PlayerName).sql
                  let rows := match r.2 with
                    | some x => x.rows
                    | none => []
                  .ok (r.1, c, [(s, createPacket { returntype? := some .CRT_Success,
                                                   playerinfo := rows.map (listedRole false) })])
                else .ok (z.1, c, failed)
      else .ok (db, c, failed) := rfl

theorem SelectLogic_eq (req : SelectRoleRequest) :
    SelectLogic sqlite s req db c =
      if c.CheckSessionValid s req.sessionid then
        let x := sqlite.exec db (Query.role req.sessionid req.roletype).sql
        match firstRow x.2 with
        | none => .ok (x.1, c.writeRoleInfo s (selected req.roletype none), [(s, selectPacket {})])
        | some row =>
          match row.column_text 1 with
          | none => .error .nullText
          | some userName =>
            .ok (x.1, c.writeRoleInfo s (selected req.roletype (some (row.column_int 0, userName))),
              [(s, selectPacket { userid? := some (row.column_int 0) })])
      else .ok (db, c, []) := rfl

end Scenes

section Text

def pieces (q : Sql) : List Piece :=
  q.map fun p =>
    match p with
    | .raw text => .text text.toList
    | .quoted value => .value value.toList

/-- The statement text that is handed to SQLite. -/
def text (q : Sql) : List Char := written (pieces q)

theorem text_literal (cs : List Char) : Piece.text (String.ofList cs).toList = .text cs := by
  rw [String.toList_ofList]

theorem setSession_sql (u sid : String) : (Query.setSession u sid).sql =
    [.raw "update userInfo set ", .raw "session_id", .raw "=", .quoted sid, .raw " where ",
      .raw "name", .raw "=", .quoted u, .raw ";"] := by
  simp [Query.sql, Update, joinPairs, raw, quoted]

theorem decimal_clean (n : Int) : '\x00' ∉ (int2String n).toList := by
  rw [int2String, toList_toString]
  cases n with
  | ofNat k => exact fun h => absurd (digits_toDigits k _ h) (by decide)
  | negSucc k =>
    rw [List.mem_cons, not_or]
    exact ⟨by decide, fun h => absurd (digits_toDigits (k + 1) _ h) (by decide)⟩

theorem framed_decimal {σ : State} {c : Char} {cs : List Char} {ps : List Piece} (n : Int)
    (hσ : σ = .blank ∨ σ = .pending '=') (hc : c = ' ' ∨ c = ',')
    (h : Framed .blank (.text (c :: cs) :: ps)) :
    Framed σ (.text (int2String n).toList :: .text (c :: cs) :: ps) := by
  obtain ⟨hnul, hf⟩ := h
  obtain ⟨acc, hacc, -⟩ := run_decimal hσ n
  refine ⟨decimal_clean n, hnul, ?_⟩
  rw [int2String, hacc, run_number_break hc]
  exact hf

set_option maxRecDepth 8000 in
theorem framed_owned (t : Int) (u : String) : Framed .blank (pieces (Query.owned t u).sql) := by
  have htext : pieces (Query.owned t u).sql = [.text (String.ofList _).toList,
      .text (int2String t).toList, .text (' ' :: "and userInfo.name=".toList), .value u.toList,
      .text ";".toList] := rfl
  have hname : Framed .blank [.text (' ' :: "and userInfo.name=".toList), .value u.toList,
      .text ";".toList] := by
    rw [← framed_shape]
    dsimp only [shape]
    decide +kernel
  rw [htext, text_literal]
  exact ⟨by decide +kernel, framed_decimal t (by decide +kernel) (.inl rfl) hname⟩

theorem framed_insertRole (id t : Int) (n : String) :
    Framed .blank (pieces (Query.insertRole id t n).sql) := by
  have hname : Framed .blank [.text ",".toList, .value n.toList, .text ");".toList] :=
    framed_of_shape (q := [.text ",".toList, .value [], .text ");".toList]) rfl (by decide +kernel)
  have htype : Framed .blank [.text ",".toList, .text (int2String t).toList, .text ",".toList,
      .value n.toList, .text ");".toList] :=
    ⟨by decide, framed_decimal t (by decide) (.inr rfl) hname⟩
  exact ⟨by decide +kernel, by decide +kernel, by decide +kernel, by decide +kernel,
    by decide +kernel, by decide +kernel, by decide +kernel,
    framed_decimal id (by decide +kernel) (.inr rfl) htype⟩

set_option maxRecDepth 8000 in
theorem framed_loginRoles (u : String) : Framed .blank (pieces (Query.loginRoles u).sql) := by
  have htext : pieces (Query.loginRoles u).sql = [.text (String.ofList _).toList, .value u.toList,
      .text (String.ofList _).toList] := rfl
  rw [htext, text_literal, text_literal, ← framed_shape]
  dsimp only [shape]
  decide +kernel

set_option maxRecDepth 8000 in
theorem framed_roles (u : String) : Framed .blank (pieces (Query.roles u).sql) := by
  have htext : pieces (Query.roles u).sql = [.text (String.ofList _).toList, .value u.toList,
      .text (String.ofList _).toList] := rfl
  rw [htext, text_literal, text_literal, ← framed_shape]
  dsimp only [shape]
  decide +kernel

set_option maxRecDepth 8000 in
theorem framed_role (sid : String) (t : Int) : Framed .blank (pieces (Query.role sid t).sql) := by
  have htext : pieces (Query.role sid t).sql = [.text (String.ofList _).toList, .value sid.toList,
      .text (String.ofList _).toList, .value (int2String t).toList, .text (String.ofList _).toList] :=
    rfl
  rw [htext, text_literal, text_literal, text_literal, ← framed_shape]
  dsimp only [shape]
  decide +kernel

/-- Every value of a statement stands where a quote opens a literal. -/
theorem framed_sql (q : Query) : Framed .blank (pieces q.sql) := by
  cases q with
  | account u p => exact framed_of_shape (q := pieces (Query.account "" "").sql) rfl (by decide +kernel)
  | setSession u sid =>
    rw [setSession_sql]
    exact framed_of_shape (q := pieces (Query.setSession "" "").sql) (by rw [setSession_sql]; rfl)
      (by decide +kernel)
  | loginRoles u => exact framed_loginRoles u
  | createUsers => decide +kernel
  | username u => exact framed_of_shape (q := pieces (Query.username "").sql) rfl (by decide +kernel)
  | insertUser u p =>
    exact framed_of_shape (q := pieces (Query.insertUser "" "").sql) rfl (by decide +kernel)
  | link u => exact framed_of_shape (q := pieces (Query.link "").sql) rfl (by decide +kernel)
  | createPlayers => decide +kernel
  | session sid => exact framed_of_shape (q := pieces (Query.session "").sql) rfl (by decide +kernel)
  | owned t u => exact framed_owned t u
  | insertRole id t n => exact framed_insertRole id t n
  | roles u => exact framed_roles u
  | role sid t => exact framed_role sid t

end Text

end JiraGame.AccountStatements
