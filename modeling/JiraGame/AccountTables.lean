import JiraGame.StatementMeanings
import JiraGame.Lib.Keyed

namespace JiraGame.AccountTables

open JiraGame.Utilitys JiraGame.AccountStatements JiraGame.StatementMeanings
open JiraGame.Lib.SqlSyntax JiraGame.Lib.SqlMeaning JiraGame.Lib.Keyed

/-- A row of `userInfo`; `PlayerInfoID` is set by an update of its own. -/
structure UserRow where
  userID : Int
  PlayerInfoID : Option Int := none
  session_id : Option String := none
  name : String
  password : String
deriving DecidableEq

/-- A row of `playerInfo`. The other columns are never written. -/
structure PlayerRow where
  roleID : Int
  roleType : Int
  name : String
deriving DecidableEq

def text (x : String) : Value := .text x.toList

def intCell : Option Int → Value
  | some n => .int n
  | none => .null

def textCell : Option String → Value
  | some x => text x
  | none => .null

def UserRow.cells (r : UserRow) : List Value :=
  [.int r.userID, intCell r.PlayerInfoID, textCell r.session_id, text r.name, text r.password]

def PlayerRow.cells (p : PlayerRow) : List Value :=
  [.int p.roleID, .int p.roleType, .null, text p.name, .null, .null, .null, .null, .null]

/-- The rows of `userInfo` and the last id that one of them was given. -/
structure UserTable where
  rows : List UserRow := []
  seq : Int := 0

/-- The two tables; each is missing until a statement creates it. -/
@[ext] structure Store where
  users? : Option UserTable := none
  players? : Option (List PlayerRow) := none

namespace Store

def users (σ : Store) : List UserRow := (σ.users?.getD {}).rows

def seq (σ : Store) : Int := (σ.users?.getD {}).seq

def players (σ : Store) : List PlayerRow := σ.players?.getD []

def userTable (t : UserTable) : Table :=
  { columns := userColumns, rows := t.rows.map UserRow.cells, seq := t.seq }

def playerTable (ps : List PlayerRow) : Table :=
  { columns := playerColumns, rows := ps.map PlayerRow.cells }

def tables (σ : Store) : Tables := fun n =>
  if n = userInfo then σ.users?.map userTable
  else if n = playerInfo then σ.players?.map playerTable
  else none

def rolesOf (σ : Store) (r : UserRow) : List PlayerRow :=
  σ.players.filter fun p => r.PlayerInfoID = some p.roleID

def createUsers (σ : Store) : Store := { σ with users? := some (σ.users?.getD {}) }

def createPlayers (σ : Store) : Store := { σ with players? := some σ.players }

def editUser (σ : Store) (u : String) (f : UserRow → UserRow) : Store :=
  { σ with users? := σ.users?.map fun t => { t with rows := edit UserRow.name u f t.rows } }

def setSession (σ : Store) (u sid : String) : Store :=
  σ.editUser u fun r => { r with session_id := some sid }

def link (σ : Store) (u : String) : Store :=
  σ.editUser u fun r => { r with PlayerInfoID := some r.userID }

def addUser (σ : Store) (u p : String) : Store :=
  { σ with users? := σ.users?.map fun t =>
      { rows := t.rows ++ [{ userID := t.seq + 1, name := u, password := p }], seq := t.seq + 1 } }

def addRole (σ : Store) (id t : Int) (n : String) : Store :=
  { σ with players? := σ.players?.map (· ++ [{ roleID := id, roleType := t, name := n }]) }

end Store

section Injective

theorem text_inj {x y : String} : text x = text y ↔ x = y := by
  simp [text, String.toList_inj]

theorem UserRow.cells_injective : Function.Injective UserRow.cells := by
  rintro ⟨id, player, sid, name, password⟩ ⟨id', player', sid', name', password'⟩ h
  simp only [UserRow.cells, List.cons.injEq, Value.int.injEq, text_inj, and_true] at h
  obtain ⟨rfl, hplayer, hsid, rfl, rfl⟩ := h
  have hp : player = player' := by cases player <;> cases player' <;> simp_all [intCell]
  have hs : sid = sid' := by
    cases sid <;> cases sid' <;> simp_all [textCell, text, String.toList_inj]
  rw [hp, hs]

theorem PlayerRow.cells_injective : Function.Injective PlayerRow.cells := by
  rintro ⟨id, t, name⟩ ⟨id', t', name'⟩ h
  simp only [PlayerRow.cells, List.cons.injEq, Value.int.injEq, text_inj, and_true, true_and] at h
  obtain ⟨rfl, rfl, rfl⟩ := h
  rfl

end Injective

namespace Store

variable (σ : Store)

theorem tables_userInfo : σ.tables userInfo = σ.users?.map userTable := if_pos rfl

theorem tables_playerInfo : σ.tables playerInfo = σ.players?.map playerTable := by
  rw [tables, if_neg (by decide), if_pos rfl]

theorem tables_injective : Function.Injective tables := by
  intro σ τ h
  have husers : σ.users?.map userTable = τ.users?.map userTable := by
    rw [← tables_userInfo, h, tables_userInfo]
  have hplayers : σ.players?.map playerTable = τ.players?.map playerTable := by
    rw [← tables_playerInfo, h, tables_playerInfo]
  have huserTable : Function.Injective userTable := by
    rintro ⟨rows, seq⟩ ⟨rows', seq'⟩ he
    obtain ⟨hrows, rfl⟩ : rows.map UserRow.cells = rows'.map UserRow.cells ∧ seq = seq' := by
      simpa [userTable] using he
    rw [UserRow.cells_injective.list_map hrows]
  have hplayerTable : Function.Injective playerTable := by
    intro ps ps' he
    have hrows : ps.map PlayerRow.cells = ps'.map PlayerRow.cells := by
      simpa [playerTable] using he
    exact PlayerRow.cells_injective.list_map hrows
  exact Store.ext (Option.map_injective huserTable husers)
    (Option.map_injective hplayerTable hplayers)

theorem update_users (t : UserTable) :
    Function.update σ.tables userInfo (some (userTable t)) = { σ with users? := some t }.tables := by
  funext n
  by_cases hn : n = userInfo
  · rw [hn, Function.update_self, tables_userInfo]
    rfl
  · rw [Function.update_of_ne hn, tables, tables, if_neg hn, if_neg hn]

theorem update_players (ps : List PlayerRow) :
    Function.update σ.tables playerInfo (some (playerTable ps)) =
      { σ with players? := some ps }.tables := by
  funext n
  by_cases hn : n = playerInfo
  · rw [hn, Function.update_self, tables_playerInfo]
    rfl
  · rw [Function.update_of_ne hn, tables, tables, if_neg hn, if_neg hn]

end Store

/-- The rows that a selection reads; without its table it reads none. -/
def Reads (σ : Store) (q : Query) (rows : List (List Value)) : Prop :=
  execute σ.tables (statement q) = .ok (σ.tables, answer rows) ∨
    execute σ.tables (statement q) = .error .rejected ∧ rows = []

def Writes (σ : Store) (q : Query) (σ' : Store) : Prop :=
  execute σ.tables (statement q) = .ok (σ'.tables, { done := true })

section Cells

@[simp] theorem equal_text (x y : String) : equal (text x) (text y) = decide (x = y) := by
  simp [equal, text, String.toList_inj]

@[simp] theorem equal_textCell (o : Option String) (x : String) :
    equal (textCell o) (text x) = decide (o = some x) := by
  cases o with
  | none => rfl
  | some y => simp [textCell]

@[simp] theorem equal_intCell (o : Option Int) (n : Int) :
    equal (intCell o) (.int n) = decide (o = some n) := by
  cases o with
  | none => rfl
  | some m => simp [intCell, equal]

@[simp] theorem equal_int_intCell (o : Option Int) (n : Int) :
    equal (.int n) (intCell o) = decide (o = some n) := by
  cases o with
  | none => rfl
  | some m => simp [intCell, equal, eq_comm]

end Cells

section Reads

variable (σ : Store)

def joined : Scope :=
  (userColumns.map fun c => (userInfo, c)) ++ playerColumns.map fun c => (playerInfo, c)

theorem execute_users {t : UserTable} (hu : σ.users? = some t) {q : Query}
    {columns? : Option (List Ref)} {conditions : List Equation} (tests : List Test)
    (f : List Value → List Value) (p : UserRow → Bool) (hp : ∀ r, selectsBy tests r.cells = p r)
    (hq : statement q = .select columns? userInfo none conditions)
    (ht : conditions.mapM (compile (userColumns.map fun c => (userInfo, c))) = .ok tests)
    (hf : projection (userColumns.map fun c => (userInfo, c)) columns? = .ok f) :
    execute σ.tables (statement q) =
      .ok (σ.tables, answer ((σ.users.filter p).map fun r => f r.cells)) := by
  have hs : source σ.tables userInfo none =
      .ok (userColumns.map fun c => (userInfo, c), σ.users.map UserRow.cells) := by
    rw [source, σ.tables_userInfo, Store.users, hu]
    rfl
  rw [hq, execute, select_eq hs ht hf, List.filter_map, List.map_map]
  congr 4
  exact List.filter_congr fun r _ => hp r

theorem reads_users {q : Query} {columns? : Option (List Ref)}
    {conditions : List Equation} (tests : List Test) (f : List Value → List Value)
    (p : UserRow → Bool) (hp : ∀ r, selectsBy tests r.cells = p r)
    (hq : statement q = .select columns? userInfo none conditions)
    (ht : conditions.mapM (compile (userColumns.map fun c => (userInfo, c))) = .ok tests)
    (hf : projection (userColumns.map fun c => (userInfo, c)) columns? = .ok f) :
    Reads σ q ((σ.users.filter p).map fun r => f r.cells) := by
  cases hu : σ.users? with
  | some t => exact .inl (execute_users σ hu tests f p hp hq ht hf)
  | none =>
    right
    rw [hq, execute, select, source, σ.tables_userInfo, Store.users, hu]
    exact ⟨rfl, rfl⟩

/-- What a selection from both tables reads, when its condition fails without a
row of `playerInfo`. -/
theorem reads_joined {q : Query} {columns? : Option (List Ref)}
    {conditions : List Equation} (tests : List Test) (f : List Value → List Value)
    (p : UserRow → Bool) (r : PlayerRow → Bool)
    (hp : ∀ a b, a.PlayerInfoID = some b.roleID → selectsBy tests (a.cells ++ b.cells) = (p a && r b))
    (hnull : ∀ a : UserRow, selectsBy tests (a.cells ++ List.replicate 9 .null) = false)
    (hq : statement q = .select columns? userInfo (some withRoles) conditions)
    (ht : conditions.mapM (compile joined) = .ok tests) (hf : projection joined columns? = .ok f) :
    Reads σ q ((σ.users.filter p).flatMap fun a =>
      ((σ.rolesOf a).filter r).map fun b => f (a.cells ++ b.cells)) := by
  have hon : ∀ a b, (Test.column 1 5).holds (UserRow.cells a ++ PlayerRow.cells b) =
      decide (a.PlayerInfoID = some b.roleID) := fun a b => equal_intCell _ _
  cases hu : σ.users? with
  | none =>
    right
    rw [hq, execute, select, source, σ.tables_userInfo, Store.users, hu]
    exact ⟨rfl, rfl⟩
  | some t =>
    cases hpl : σ.players? with
    | none =>
      right
      rw [hq, execute, select, source, σ.tables_userInfo, hu]
      dsimp only [withRoles, Option.map_some]
      rw [σ.tables_playerInfo, hpl]
      exact ⟨rfl, by simp [Store.rolesOf, Store.players, hpl]⟩
    | some ps =>
      left
      have hs : source σ.tables userInfo (some withRoles) = .ok (joined,
          leftJoin (.column 1 5) 9 (σ.users.map UserRow.cells) (σ.players.map PlayerRow.cells)) := by
        rw [source, σ.tables_userInfo, Store.users, hu]
        dsimp only [withRoles, Option.map_some]
        rw [σ.tables_playerInfo, Store.players, hpl]
        rfl
      rw [hq, execute, select_eq hs ht hf, filter_leftJoin hon
        (fun a b hm => hp a b (of_decide_eq_true hm)) hnull, List.map_flatMap]
      congr 4
      funext a
      rw [List.map_map, Store.rolesOf, List.filter_filter]
      congr 1
      exact List.filter_congr fun b _ => Bool.and_comm _ _

theorem reads_account (u p : String) : Reads σ (.account u p)
    ((σ.users.filter fun r => r.name = u && r.password = p).map UserRow.cells) :=
  reads_users σ [.value 3 (text u), .value 4 (text p)] id _
    (fun r => by simp [selectsBy, Test.holds, cell, UserRow.cells]) rfl rfl rfl

theorem execute_username {t : UserTable} (hu : σ.users? = some t) (u : String) :
    execute σ.tables (statement (.username u)) =
      .ok (σ.tables, answer ((σ.users.filter fun r => r.name = u).map UserRow.cells)) :=
  execute_users σ hu [.value 3 (text u)] id _
    (fun r => by simp [selectsBy, Test.holds, cell, UserRow.cells]) rfl rfl rfl

theorem reads_session (sid : String) : Reads σ (.session sid)
    ((σ.users.filter fun r => r.session_id = some sid).map fun r =>
      [intCell r.PlayerInfoID, text r.name]) :=
  reads_users σ [.value 2 (text sid)] (fun row => [cell 1 row, cell 3 row]) _
    (fun r => by simp [selectsBy, Test.holds, cell, UserRow.cells]) rfl rfl rfl

theorem reads_loginRoles (u : String) : Reads σ (.loginRoles u)
    ((σ.users.filter fun r => r.name = u).flatMap fun r =>
      (σ.rolesOf r).map fun p => [.int p.roleType, text p.name, .int r.userID]) := by
  have hreads : Reads σ (.loginRoles u) _ := reads_joined σ [.value 3 (text u), .column 5 1]
    (fun row => [cell 6 row, cell 8 row, cell 0 row]) (fun r => r.name = u) (fun _ => true)
    (fun a b hm => by simp [selectsBy, Test.holds, cell, UserRow.cells, PlayerRow.cells, hm])
    (fun a => by simp [selectsBy, Test.holds, cell, UserRow.cells]) rfl rfl rfl
  simp only [List.filter_true] at hreads
  exact hreads

theorem reads_owned (t : Int) (u : String) : Reads σ (.owned t u)
    ((σ.users.filter fun r => r.name = u).flatMap fun r =>
      ((σ.rolesOf r).filter fun p => p.roleType = t).map fun _ => [intCell r.PlayerInfoID]) := by
  have hliteral : compile joined (equals (of playerInfo "roletype") (integerLiteral t)) =
      .ok (.value 6 (.int t)) := compile_literal rfl (literalValue_integer t) rfl
  refine reads_joined σ [.value 6 (.int t), .value 3 (text u)] (fun row => [cell 1 row])
    (fun r => r.name = u) (fun p => p.roleType = t) (fun a b _ => ?_) (fun a => ?_) rfl ?_ rfl
  · simp [selectsBy, Test.holds, cell, UserRow.cells, PlayerRow.cells, Bool.and_comm]
  · simp [selectsBy, Test.holds, cell, UserRow.cells]
  · rw [List.mapM_cons, hliteral]
    rfl

theorem reads_role (sid : String) (t : Int) : Reads σ (.role sid t)
    ((σ.users.filter fun r => r.session_id = some sid).flatMap fun r =>
      ((σ.rolesOf r).filter fun p => p.roleType = t).map fun p => [.int r.userID, text p.name]) := by
  have hliteral : compile joined (equals (of playerInfo "roletype") (quote (int2String t))) =
      .ok (.value 6 (.int t)) := by
    refine compile_literal rfl rfl ?_
    have hread : readInteger (int2String t).toList = some t := readInteger_toString t
    rw [convert, hread]
  refine reads_joined σ [.value 2 (text sid), .value 6 (.int t)] (fun row => [cell 0 row, cell 8 row])
    (fun r => r.session_id = some sid) (fun p => p.roleType = t) (fun a b _ => ?_) (fun a => ?_) rfl ?_
    rfl
  · simp [selectsBy, Test.holds, cell, UserRow.cells, PlayerRow.cells]
  · simp [selectsBy, Test.holds, cell, UserRow.cells]
  · rw [List.mapM_cons, List.mapM_cons, hliteral]
    rfl

/-- A user's roles after one was created; a user without roles has a row of NULLs. -/
def listedRows : List PlayerRow → List (List Value)
  | [] => [[.null, .null]]
  | ps => ps.map fun p => [.int p.roleType, text p.name]

theorem reads_roles {t : UserTable} {ps : List PlayerRow} (hu : σ.users? = some t)
    (hpl : σ.players? = some ps) (u : String) : Reads σ (.roles u)
      ((σ.users.filter fun r => r.name = u).flatMap fun r => listedRows (σ.rolesOf r)) := by
  have hon : ∀ a b, (Test.column 5 1).holds (UserRow.cells a ++ PlayerRow.cells b) =
      decide (a.PlayerInfoID = some b.roleID) := fun a b => equal_int_intCell _ _
  have hs : source σ.tables userInfo (some fromRoles) = .ok (joined,
      leftJoin (.column 5 1) 9 (σ.users.map UserRow.cells) (σ.players.map PlayerRow.cells)) := by
    rw [source, σ.tables_userInfo, Store.users, hu]
    dsimp only [fromRoles, Option.map_some]
    rw [σ.tables_playerInfo, Store.players, hpl]
    rfl
  have hconditions : [equals (of userInfo "name") (quote u)].mapM (compile joined) =
      .ok [.value 3 (text u)] := rfl
  have hprojection : projection joined (some [column "roletype", of playerInfo "name"]) =
      .ok fun row => [cell 6 row, cell 8 row] := rfl
  have hselects : ∀ a row, selectsBy [.value 3 (text u)] (UserRow.cells a ++ row) =
      decide (a.name = u) := fun a row => by simp [selectsBy, Test.holds, cell, UserRow.cells]
  left
  rw [statement, execute, select_eq hs hconditions hprojection, filter_leftJoin_left hon hselects,
    List.map_flatMap]
  congr 4
  funext a
  rw [Store.rolesOf]
  cases σ.players.filter fun p => a.PlayerInfoID = some p.roleID with
  | nil => rfl
  | cons b bs => simp [padded, listedRows, cell, UserRow.cells, PlayerRow.cells]

end Reads

section Writes

variable (σ : Store)

theorem writes_createUsers : Writes σ .createUsers σ.createUsers := by
  rw [Writes, statement, execute, createTable, σ.tables_userInfo, Store.createUsers,
    ← σ.update_users]
  cases hu : σ.users? with
  | none => rfl
  | some t =>
    have hsame : Function.update σ.tables userInfo (some (Store.userTable t)) = σ.tables := by
      rw [← Option.map_some, ← hu, ← σ.tables_userInfo, Function.update_eq_self]
    rw [Option.map_some, Option.isSome_some, if_pos rfl, Option.getD_some, hsame]

theorem writes_createPlayers : Writes σ .createPlayers σ.createPlayers := by
  rw [Writes, statement, execute, createTable, σ.tables_playerInfo, Store.createPlayers,
    ← σ.update_players, Store.players]
  cases hpl : σ.players? with
  | none => rfl
  | some ps =>
    have hsame : Function.update σ.tables playerInfo (some (Store.playerTable ps)) = σ.tables := by
      rw [← Option.map_some, ← hpl, ← σ.tables_playerInfo, Function.update_eq_self]
    rw [Option.map_some, Option.isSome_some, if_pos rfl, Option.getD_some, hsame]

theorem writes_edit {t : UserTable} (hu : σ.users? = some t) (u : String)
    {f : UserRow → UserRow} {g : List Value → List Value} (hf : ∀ r, g r.cells = (f r).cells) :
    Function.update σ.tables userInfo (some { Store.userTable t with
      rows := (t.rows.map UserRow.cells).map fun row =>
        if selectsBy [.value 3 (text u)] row then g row else row }) = (σ.editUser u f).tables := by
  have hrows : ((t.rows.map UserRow.cells).map fun row =>
      if selectsBy [.value 3 (text u)] row then g row else row) =
        (edit UserRow.name u f t.rows).map UserRow.cells := by
    rw [edit, List.map_map, List.map_map]
    refine List.map_congr_left fun r _ => ?_
    have hselects : selectsBy [.value 3 (text u)] r.cells = decide (r.name = u) := by
      simp [selectsBy, Test.holds, cell, UserRow.cells]
    rw [Function.comp, Function.comp, hselects, hf]
    by_cases hr : r.name = u <;> simp [hr]
  rw [hrows, Store.editUser, hu, Option.map_some, ← σ.update_users]
  rfl

theorem writes_setSession {t : UserTable} (hu : σ.users? = some t) (u sid : String) :
    Writes σ (.setSession u sid) (σ.setSession u sid) := by
  rw [Writes, statement, execute, update, σ.tables_userInfo, hu, Store.setSession,
    ← writes_edit σ hu u (g := fun row => row.set 2 (text sid)) fun r => rfl]
  rfl

theorem writes_link {t : UserTable} (hu : σ.users? = some t) (u : String) :
    Writes σ (.link u) (σ.link u) := by
  rw [Writes, statement, execute, update, σ.tables_userInfo, hu, Store.link,
    ← writes_edit σ hu u (g := fun row => row.set 1 (cell 0 row)) fun r => rfl]
  rfl

theorem clashes_users (t : UserTable) (r : UserRow) :
    clashes (Store.userTable t) r.cells = decide (∃ x ∈ t.rows, x.name = r.name) := by
  have hany : clashes (Store.userTable t) r.cells = t.rows.any fun x => x.name = r.name := by
    simp [clashes, Store.userTable, userColumns, cell, UserRow.cells, List.any_map,
      Function.comp_def]
  rw [hany, List.decide_exists_mem]

theorem clashes_players (ps : List PlayerRow) (p : PlayerRow) :
    clashes (Store.playerTable ps) p.cells = decide (∃ x ∈ ps, x.name = p.name) := by
  have hany : clashes (Store.playerTable ps) p.cells = ps.any fun x => x.name = p.name := by
    simp [clashes, Store.playerTable, playerColumns, cell, PlayerRow.cells, List.any_map,
      Function.comp_def]
  rw [hany, List.decide_exists_mem]

/-- The UNIQUE column refuses a name that is in use. -/
theorem execute_insertUser {t : UserTable} (hu : σ.users? = some t) (u p : String) :
    execute σ.tables (statement (.insertUser u p)) =
      if ∃ r ∈ σ.users, r.name = u then .ok (σ.tables, { done := false })
      else .ok ((σ.addUser u p).tables, { done := true }) := by
  have hrow : newRow (Store.userTable t) ["name".toList, "password".toList] [text u, text p] =
      .ok (UserRow.cells { userID := t.seq + 1, name := u, password := p }) := rfl
  have hclash : clashes (Store.userTable t)
      (UserRow.cells { userID := t.seq + 1, name := u, password := p }) =
        decide (∃ r ∈ σ.users, r.name = u) := by
    rw [clashes_users, Store.users, hu, Option.getD_some]
  rw [statement, execute, insertInto, σ.tables_userInfo, hu]
  have hvalues : [quote u, quote p].mapM literalValue = .ok [text u, text p] := rfl
  simp only [Option.map_some, hvalues, bind, Except.bind]
  simp only [hrow, hclash, decide_eq_true_eq]
  split
  · rfl
  · rw [Store.addUser, hu, Option.map_some, ← σ.update_users]
    simp [insertRow, Store.userTable, userColumns]

theorem execute_insertRole {ps : List PlayerRow} (hpl : σ.players? = some ps) (id t : Int)
    (n : String) : execute σ.tables (statement (.insertRole id t n)) =
      if ∃ p ∈ σ.players, p.name = n then .ok (σ.tables, { done := false })
      else .ok ((σ.addRole id t n).tables, { done := true }) := by
  have hrow : newRow (Store.playerTable ps) ["roleid".toList, "roletype".toList, "name".toList]
      [.int id, .int t, text n] =
        .ok (PlayerRow.cells { roleID := id, roleType := t, name := n }) := rfl
  have hclash : clashes (Store.playerTable ps)
      (PlayerRow.cells { roleID := id, roleType := t, name := n }) =
        decide (∃ p ∈ σ.players, p.name = n) := by
    rw [clashes_players, Store.players, hpl, Option.getD_some]
  have hvalues : [integerLiteral id, integerLiteral t, quote n].mapM literalValue =
      .ok [.int id, .int t, text n] := by
    rw [List.mapM_cons, List.mapM_cons, literalValue_integer, literalValue_integer]
    rfl
  rw [statement, execute, insertInto, σ.tables_playerInfo, hpl]
  simp only [Option.map_some, hvalues, bind, Except.bind]
  simp only [hrow, hclash, decide_eq_true_eq]
  split
  · rfl
  · rw [Store.addRole, hpl, Option.map_some, ← σ.update_players]
    simp [insertRow, Store.playerTable, playerColumns]

end Writes

end JiraGame.AccountTables
