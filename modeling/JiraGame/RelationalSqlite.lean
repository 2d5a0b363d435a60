import JiraGame.AccountTables
import Mathlib.Data.List.Forall2
import Mathlib.Data.List.Perm.Basic

namespace JiraGame.RelationalSqlite

open JiraGame.DBServer JiraGame.AccountScenes JiraGame.AccountStatements JiraGame.StatementMeanings
open JiraGame.AccountTables
open JiraGame.Lib.SqlLexer JiraGame.Lib.SqlQuoting JiraGame.Lib.SqlSyntax JiraGame.Lib.SqlMeaning

/-- The meaning of a statement, with each quoted string as one literal value. -/
def meaning (T : Tables) (q : Sql) : Except Stop (Tables × Answer) :=
  match parse (lex .blank (meant (pieces q))) with
  | some stmt => execute T stmt
  | none => .error .unsupported

theorem meaning_sql (T : Tables) (q : Query) : meaning T q.sql = execute T (statement q) := by
  rw [meaning, parse_sql]

/-- What a string made from a `char*` has of a text: the part before its first NUL. -/
def cString (x : String) : String := String.ofList (x.toList.takeWhile (· ≠ '\x00'))

theorem cString_eq_iff {x : String} : cString x = x ↔ '\x00' ∉ x.toList := by
  rw [cString, ← String.toList_inj, String.toList_ofList, List.takeWhile_eq_self_iff]
  refine ⟨fun h hmem => by simpa using h _ hmem, fun h c hc => ?_⟩
  rw [decide_eq_true_eq]
  rintro rfl
  exact h hc

def cellText : Value → Option String
  | .null => none
  | .int n => some (toString n)
  | .text cs => some (cString (String.ofList cs))

@[simp] theorem cellText_int (n : Int) : cellText (.int n) = some (toString n) := rfl

@[simp] theorem cellText_text (x : String) :
    cellText (AccountTables.text x) = some (cString x) := by
  rw [AccountTables.text, cellText, String.ofList_toList]

/-- What `(char*)sqlite3_column_text` and `sqlite3_column_int` show of a row. The ids
do not leave the range of int before a table has had 2^31 rows. -/
structure ShowsRow (row : Row) (cells : List Value) : Prop where
  text : ∀ i v, cells[i]? = some v → row.column_text i = cellText v
  int : ∀ i n, cells[i]? = some (.int n) → row.column_int i = n

/-- Rows come in any order. -/
structure Shows (res : SqlResult) (a : Answer) : Prop where
  done : res.done = a.done
  rows : ∃ cells, cells.Perm a.rows ∧ List.Forall₂ ShowsRow res.rows cells

/-- SQLite gives the statements of the account scenes their meaning on the tables
that it stores; a statement that does not compile changes nothing. -/
structure Relational {DB : Type} (sqlite : Sqlite DB) (view : DB → Tables) : Prop where
  answers : ∀ db (q : Query) T a, meaning (view db) q.sql = .ok (T, a) →
    view (sqlite.exec db q.sql).1 = T ∧ ∃ res, (sqlite.exec db q.sql).2 = some res ∧ Shows res a
  rejects : ∀ db (q : Query), meaning (view db) q.sql = .error .rejected →
    view (sqlite.exec db q.sql).1 = view db ∧ (sqlite.exec db q.sql).2 = none

def rowsOf (res : Option SqlResult) : List Row :=
  match res with
  | some x => x.rows
  | none => []

theorem firstRow_eq (res : Option SqlResult) : firstRow res = (rowsOf res).head? := by
  cases res <;> rfl

/-- A statement showed these rows, in some order. -/
def ShowsRows (res : Option SqlResult) (rows : List (List Value)) : Prop :=
  ∃ cells : List (List Value), cells.Perm rows ∧ List.Forall₂ ShowsRow (rowsOf res) cells

section Rows

variable {res : Option SqlResult} {rows : List (List Value)}

theorem firstRow_cases (h : ShowsRows res rows) : firstRow res = none ∧ rows = [] ∨
    ∃ row cells, firstRow res = some row ∧ cells ∈ rows ∧ ShowsRow row cells := by
  obtain ⟨cells, hperm, hrows⟩ := h
  rw [firstRow_eq]
  generalize rowsOf res = shown at hrows
  cases hrows with
  | nil => exact .inl ⟨rfl, hperm.symm.eq_nil⟩
  | @cons row x rest xs hrow hrest =>
    exact .inr ⟨row, x, rfl, hperm.subset List.mem_cons_self, hrow⟩

theorem map_forall₂ {α β γ : Type} {R : α → β → Prop} {f : α → γ} {g : β → γ} {l : List α}
    {l' : List β} (h : List.Forall₂ R l l') (hfg : ∀ x y, R x y → f x = g y) : l.map f = l'.map g := by
  induction h with
  | nil => rfl
  | cons hxy _ ih => rw [List.map_cons, List.map_cons, hfg _ _ hxy, ih]

theorem exists_perm_map {α γ : Type} {ps : List α} {cells : α → List Value} {f : Row → γ} {g : α → γ}
    (h : ShowsRows res (ps.map cells)) (hfg : ∀ row p, ShowsRow row (cells p) → f row = g p) :
    ∃ qs : List α, qs.Perm ps ∧ (rowsOf res).map f = qs.map g := by
  obtain ⟨xs, hperm, hrows⟩ := h
  have hcomp : Relation.Comp (fun l l' => l = List.map cells l') List.Perm xs ps := by
    rw [List.eq_map_comp_perm]
    exact hperm
  obtain ⟨qs, rfl, hqs⟩ := hcomp
  exact ⟨qs, hqs, map_forall₂ (List.forall₂_map_right_iff.mp hrows) hfg⟩

end Rows

section Statements

variable {DB : Type} {sqlite : Sqlite DB} {view : DB → Tables} {db : DB} {σ σ' : Store}
  {q : Query} {rows : List (List Value)}

theorem exec_reads (h : Relational sqlite view) (hv : view db = σ.tables) (hr : Reads σ q rows) :
    view (sqlite.exec db q.sql).1 = σ.tables ∧ ShowsRows (sqlite.exec db q.sql).2 rows := by
  obtain hok | ⟨hno, rfl⟩ := hr
  · rw [← meaning_sql, ← hv] at hok
    obtain ⟨hview, res, hres, hshows⟩ := h.answers db q _ _ hok
    rw [hview, hres]
    exact ⟨hv, hshows.rows⟩
  · rw [← meaning_sql, ← hv] at hno
    obtain ⟨hview, hres⟩ := h.rejects db q hno
    rw [hview, hres]
    exact ⟨hv, [], List.Perm.refl _, List.Forall₂.nil⟩

theorem exec_writes (h : Relational sqlite view) (hv : view db = σ.tables) (hw : Writes σ q σ') :
    view (sqlite.exec db q.sql).1 = σ'.tables := by
  rw [Writes, ← meaning_sql, ← hv] at hw
  exact (h.answers db q _ _ hw).1

theorem exec_answer (h : Relational sqlite view) (hv : view db = σ.tables) {T : Tables} {a : Answer}
    (hx : execute σ.tables (statement q) = .ok (T, a)) :
    view (sqlite.exec db q.sql).1 = T ∧
      ((sqlite.exec db q.sql).2.map SqlResult.done).getD false = a.done := by
  rw [← meaning_sql, ← hv] at hx
  obtain ⟨hview, res, hres, hshows⟩ := h.answers db q _ _ hx
  rw [hres]
  exact ⟨hview, hshows.done⟩

end Statements

section Reference

def showRow (cells : List Value) : Row where
  column_text := fun i => (cells[i]?).bind cellText
  column_int := fun i =>
    match cells[i]? with
    | some (.int n) => n
    | _ => 0

/-- The meaning itself as a database. -/
def reference : Sqlite Tables where
  exec := fun T q =>
    match meaning T q with
    | .ok (T', a) => (T', some { rows := a.rows.map showRow, done := a.done })
    | .error _ => (T, none)

theorem showsRow_showRow (cells : List Value) : ShowsRow (showRow cells) cells where
  text := fun i v h => by simp [showRow, h]
  int := fun i n h => by simp [showRow, h]

theorem relational_reference : Relational reference id where
  answers := by
    intro T q T' a h
    have hexec : reference.exec T q.sql =
        (T', some { rows := a.rows.map showRow, done := a.done }) := by
      simp only [id] at h
      simp only [reference, h]
    rw [hexec]
    refine ⟨rfl, _, rfl, rfl, a.rows, List.Perm.refl _, ?_⟩
    rw [List.forall₂_map_left_iff]
    exact List.forall₂_same.mpr fun cells _ => showsRow_showRow cells
  rejects := by
    intro T q h
    have hexec : reference.exec T q.sql = (T, none) := by
      simp only [id] at h
      simp only [reference, h]
    rw [hexec]
    exact ⟨rfl, rfl⟩

end Reference

end JiraGame.RelationalSqlite
