import JiraGame.Lib.SqlSyntax
import Mathlib.Logic.Function.Basic

namespace JiraGame.Lib.SqlMeaning

open JiraGame.Lib.SqlLexer JiraGame.Lib.SqlSyntax

/-- Why a statement has no result: it does not compile, or it leaves the
fragment that the meaning covers. -/
inductive Stop
  | rejected | unsupported
deriving DecidableEq

inductive Value
  | null
  | int (n : Int)
  | text (cs : List Char)
deriving DecidableEq

/-- `seq` is the largest id that was given to a row. -/
structure Table where
  columns : List Column
  rows : List (List Value) := []
  seq : Int := 0
deriving DecidableEq

abbrev Tables := Name → Option Table

structure Answer where
  rows : List (List Value) := []
  done : Bool
deriving DecidableEq

/-- The columns that a row is made of, each with its table. -/
abbrev Scope := List (Name × Column)

def Table.scope (t : Name) (tab : Table) : Scope := tab.columns.map fun c => (t, c)

/-- The place of a column; a missing or an ambiguous one is an error. -/
def resolve (scope : Scope) (r : Ref) : Except Stop (Nat × Column) :=
  match scope.zipIdx.filter (fun x => x.1.2.name = r.column && r.table?.all (· = x.1.1)) with
  | [x] => .ok (x.2, x.1.2)
  | _ => .error .rejected

def readDigits (negative : Bool) (digits : List Char) : Option Int :=
  if digits ≠ [] && digits.all Char.isDigit then
    some (if negative then -(Nat.ofDigitChars 10 digits 0 : Int) else Nat.ofDigitChars 10 digits 0)
  else none

def readInteger : List Char → Option Int
  | '-' :: ds => readDigits true ds
  | ds => readDigits false ds

/-- Numbers that are not integers are left out. -/
def literalValue : Literal → Except Stop Value
  | .text cs => .ok (.text cs)
  | .number negative digits =>
    match readDigits negative digits with
    | some n => .ok (.int n)
    | none => .error .unsupported

/-- A value as a column of the affinity stores it or is compared with it. -/
def convert (a : Affinity) (v : Value) : Except Stop Value :=
  match a, v with
  | _, .null => .ok .null
  | .integer, .int n => .ok (.int n)
  | .integer, .text cs =>
    match readInteger cs with
    | some n => .ok (.int n)
    | none => .error .unsupported
  | .text, .int n => .ok (.text (toString n).toList)
  | .text, .text cs => .ok (.text cs)
  | .real, _ => .error .unsupported

/-- NULL equals nothing. -/
def equal : Value → Value → Bool
  | .int m, .int n => m = n
  | .text cs, .text ds => cs = ds
  | _, _ => false

def cell (i : Nat) (row : List Value) : Value := row.getD i .null

@[simp] theorem equal_int (m n : Int) : equal (.int m) (.int n) = decide (m = n) := rfl

@[simp] theorem equal_null (v : Value) : equal .null v = false := by cases v <;> rfl

@[simp] theorem equal_null_right (v : Value) : equal v .null = false := by cases v <;> rfl

inductive Test
  | value (i : Nat) (v : Value)
  | column (i j : Nat)

def Test.holds (row : List Value) : Test → Bool
  | .value i v => equal (cell i row) v
  | .column i j => equal (cell i row) (cell j row)

def compile (scope : Scope) (e : Equation) : Except Stop Test := do
  let (i, c) ← resolve scope e.left
  match e.right with
  | .literal l => .ok (.value i (← convert c.affinity (← literalValue l)))
  | .ref r =>
    let (j, d) ← resolve scope r
    if c.affinity = d.affinity then .ok (.column i j) else .error .unsupported

def selectsBy (tests : List Test) (row : List Value) : Bool := tests.all (·.holds row)

section Integers

def integerLiteral : Int → Literal
  | .ofNat k => .number false (Nat.toDigits 10 k)
  | .negSucc k => .number true (Nat.toDigits 10 (k + 1))

theorem readDigits_toDigits (negative : Bool) (k : Nat) :
    readDigits negative (Nat.toDigits 10 k) = some (if negative then -(k : Int) else k) := by
  have hall : (Nat.toDigits 10 k).all Char.isDigit = true := List.all_eq_true.mpr (digits_toDigits k)
  rw [readDigits, hall, decide_eq_true Nat.toDigits_ne_nil, Nat.ofDigitChars_ten_toDigits]
  rfl

theorem literalValue_integer (n : Int) : literalValue (integerLiteral n) = .ok (.int n) := by
  cases n with
  | ofNat k =>
    rw [integerLiteral, literalValue, readDigits_toDigits]
    rfl
  | negSucc k =>
    rw [integerLiteral, literalValue, readDigits_toDigits]
    rfl

theorem readInteger_toString (n : Int) : readInteger (toString n).toList = some n := by
  rw [toList_toString]
  cases n with
  | ofNat k =>
    dsimp only
    rw [readInteger]
    · rw [readDigits_toDigits]
      rfl
    · intro ds hds
      have hminus := digits_toDigits k '-' (by rw [hds]; exact List.mem_cons_self)
      exact absurd hminus (by decide)
  | negSucc k =>
    dsimp only
    rw [readInteger, readDigits_toDigits]
    rfl

end Integers

def createTable (t : Name) (columns : List Column) (T : Tables) : Except Stop (Tables × Answer) :=
  if (T t).isSome then .ok (T, { done := true })
  else if (columns.map Column.name).Nodup then
    .ok (Function.update T t (some { columns := columns }), { done := true })
  else .error .rejected

def newRow (tab : Table) (columns : List Name) (values : List Value) :
    Except Stop (List Value) :=
  if columns.length ≠ values.length || !columns.Nodup ||
      columns.any fun n => !(tab.columns.map Column.name).contains n then .error .rejected
  else
    tab.columns.mapM fun c =>
      match (columns.zip values).lookup c.name with
      | some v => if c.autoincrement then .error .unsupported else convert c.affinity v
      | none => .ok (if c.autoincrement then .int (tab.seq + 1) else .null)

/-- A UNIQUE column already has the row's value. -/
def clashes (tab : Table) (row : List Value) : Bool :=
  tab.columns.zipIdx.any fun x =>
    x.1.unique && tab.rows.any fun r => equal (cell x.2 r) (cell x.2 row)

def insertRow (tab : Table) (row : List Value) : Table :=
  { tab with rows := tab.rows ++ [row]
             seq := if tab.columns.any Column.autoincrement then tab.seq + 1 else tab.seq }

def insertInto (t : Name) (columns : List Name) (values : List Literal) (T : Tables) :
    Except Stop (Tables × Answer) :=
  match T t with
  | none => .error .rejected
  | some tab => do
    let row ← newRow tab columns (← values.mapM literalValue)
    if clashes tab row then .ok (T, { done := false })
    else .ok (Function.update T t (some (insertRow tab row)), { done := true })

def assigned (scope : Scope) (c : Column) : Operand → Except Stop (List Value → Value)
  | .literal l => do
    let v ← convert c.affinity (← literalValue l)
    .ok fun _ => v
  | .ref r => do
    let (j, d) ← resolve scope r
    if c.affinity = d.affinity then .ok (cell j) else .error .unsupported

def update (t : Name) (e : Equation) (conditions : List Equation) (T : Tables) :
    Except Stop (Tables × Answer) :=
  match T t with
  | none => .error .rejected
  | some tab => do
    let (i, c) ← resolve (tab.scope t) e.left
    let f ← assigned (tab.scope t) c e.right
    let tests ← conditions.mapM (compile (tab.scope t))
    if c.unique || c.autoincrement then .error .unsupported
    else
      let rows := tab.rows.map fun row => if selectsBy tests row then row.set i (f row) else row
      .ok (Function.update T t (some { tab with rows := rows }), { done := true })

def padded (width : Nat) (l : List Value) (matching : List (List Value)) : List (List Value) :=
  match matching with
  | [] => [l ++ List.replicate width .null]
  | rs => rs.map (l ++ ·)

def leftJoin (test : Test) (width : Nat) (left right : List (List Value)) : List (List Value) :=
  left.flatMap fun l => padded width l (right.filter fun r => test.holds (l ++ r))

def source (T : Tables) (t : Name) (join? : Option Join) :
    Except Stop (Scope × List (List Value)) :=
  match T t with
  | none => .error .rejected
  | some left =>
    match join? with
    | none => .ok (left.scope t, left.rows)
    | some j =>
      match T j.table with
      | none => .error .rejected
      | some right => do
        let scope := left.scope t ++ right.scope j.table
        let test ← compile scope j.condition
        .ok (scope, leftJoin test right.columns.length left.rows right.rows)

def projection (scope : Scope) : Option (List Ref) → Except Stop (List Value → List Value)
  | none => .ok id
  | some refs => do
    let places ← refs.mapM (resolve scope)
    .ok fun row => places.map fun x => cell x.1 row

def answer (rows : List (List Value)) : Answer := { rows := rows, done := rows.isEmpty }

def select (columns? : Option (List Ref)) (t : Name) (join? : Option Join)
    (conditions : List Equation) (T : Tables) : Except Stop (Tables × Answer) := do
  let (scope, rows) ← source T t join?
  let tests ← conditions.mapM (compile scope)
  let f ← projection scope columns?
  .ok (T, answer ((rows.filter (selectsBy tests)).map f))

/-- The relational meaning of a statement. -/
def execute (T : Tables) : Statement → Except Stop (Tables × Answer)
  | .createTable t columns => createTable t columns T
  | .insert t columns values => insertInto t columns values T
  | .update t e conditions => update t e conditions T
  | .select columns? t join? conditions => select columns? t join? conditions T

section Selection

variable {T : Tables} {t : Name} {join? : Option Join} {conditions : List Equation}
  {columns? : Option (List Ref)} {scope : Scope} {rows : List (List Value)} {tests : List Test}
  {f : List Value → List Value} {r : Ref} {l : Literal} {i : Nat} {c : Column} {v w : Value}

theorem compile_literal (hr : resolve scope r = .ok (i, c)) (hl : literalValue l = .ok v)
    (hv : convert c.affinity v = .ok w) :
    compile scope { left := r, right := .literal l } = .ok (.value i w) := by
  simp [compile, hr, hl, hv, bind, Except.bind]

theorem select_eq (hs : source T t join? = .ok (scope, rows))
    (ht : conditions.mapM (compile scope) = .ok tests) (hf : projection scope columns? = .ok f) :
    select columns? t join? conditions T =
      .ok (T, answer ((rows.filter (selectsBy tests)).map f)) := by
  simp [select, hs, ht, hf, bind, Except.bind]

end Selection

section Joins

variable {α β γ : Type} {test : Test} {width : Nat} {f : α → List Value} {g : β → List Value}
  {p : α → β → Bool} {s : List Value → Bool} {q : α → Bool} {r : β → Bool}
  {as : List α} {bs : List β}

theorem leftJoin_map (h : ∀ a b, test.holds (f a ++ g b) = p a b) :
    leftJoin test width (as.map f) (bs.map g) =
      as.flatMap fun a => padded width (f a) ((bs.filter (p a)).map g) := by
  rw [leftJoin, List.flatMap_map]
  congr 1
  funext a
  rw [List.filter_map]
  congr 2
  exact List.filter_congr fun b _ => h a b

theorem flatMap_ite (q : α → Bool) (F : α → List γ) (as : List α) :
    (as.flatMap fun a => if q a then F a else []) = (as.filter q).flatMap F := by
  induction as with
  | nil => rfl
  | cons a as ih =>
    rw [List.flatMap_cons, ih, List.filter_cons]
    split <;> rfl

/-- A condition on both tables leaves no row without a match. -/
theorem filter_leftJoin (h : ∀ a b, test.holds (f a ++ g b) = p a b)
    (hs : ∀ a b, p a b = true → s (f a ++ g b) = (q a && r b))
    (hnull : ∀ a, s (f a ++ List.replicate width .null) = false) :
    (leftJoin test width (as.map f) (bs.map g)).filter s =
      (as.filter q).flatMap fun a => (bs.filter fun b => p a b && r b).map fun b => f a ++ g b := by
  rw [leftJoin_map h, List.filter_flatMap, ← flatMap_ite]
  congr 1
  funext a
  have hpadded : (padded width (f a) ((bs.filter (p a)).map g)).filter s =
      ((bs.filter (p a)).filter fun b => s (f a ++ g b)).map fun b => f a ++ g b := by
    cases bs.filter (p a) with
    | nil => simp [padded, hnull]
    | cons b cs =>
      have hcons : padded width (f a) ((b :: cs).map g) = (b :: cs).map fun b => f a ++ g b := by
        simp [padded]
      rw [hcons, List.filter_map]
      rfl
  have hboth : ∀ b, (s (f a ++ g b) && p a b) = (q a && (p a b && r b)) := by
    intro b
    cases hm : p a b with
    | false => simp
    | true => rw [hs a b hm, Bool.and_true, Bool.true_and]
  rw [hpadded, List.filter_filter]
  simp only [hboth]
  cases q a <;> simp

/-- A condition on the left table keeps the rows without a match. -/
theorem filter_leftJoin_left (h : ∀ a b, test.holds (f a ++ g b) = p a b)
    (hs : ∀ a row, s (f a ++ row) = q a) :
    (leftJoin test width (as.map f) (bs.map g)).filter s =
      (as.filter q).flatMap fun a => padded width (f a) ((bs.filter (p a)).map g) := by
  rw [leftJoin_map h, List.filter_flatMap, ← flatMap_ite]
  congr 1
  funext a
  have hall : ∀ row ∈ padded width (f a) ((bs.filter (p a)).map g), s row = q a := by
    intro row hrow
    cases hm : (bs.filter (p a)).map g with
    | nil =>
      rw [hm, padded, List.mem_singleton] at hrow
      rw [hrow, hs]
    | cons x xs =>
      rw [hm] at hrow
      obtain ⟨y, -, rfl⟩ := List.mem_map.mp hrow
      exact hs a y
  rw [List.filter_congr hall]
  cases q a <;> simp

end Joins

end JiraGame.Lib.SqlMeaning
