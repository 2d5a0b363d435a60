import JiraGame.Lib.SqlLexer

namespace JiraGame.Lib.SqlSyntax

open JiraGame.Lib.SqlLexer

abbrev Name := List Char

/-- A literal as it is written: the digits of a number, or the content of a
string. -/
inductive Literal
  | number (negative : Bool) (digits : List Char)
  | text (cs : List Char)
deriving DecidableEq

/-- A column, with its table where the statement names it. -/
structure Ref where
  table? : Option Name
  column : Name
deriving DecidableEq

inductive Operand
  | ref (r : Ref)
  | literal (l : Literal)
deriving DecidableEq

structure Equation where
  left : Ref
  right : Operand
deriving DecidableEq

inductive Affinity
  | integer | text | real
deriving DecidableEq

structure Column where
  name : Name
  affinity : Affinity
  unique : Bool := false
  autoincrement : Bool := false
deriving DecidableEq

structure Join where
  table : Name
  condition : Equation
deriving DecidableEq

/-- The statements of the fragment: conditions are conjunctions of equations. A
selection without a list of columns is `*`. -/
inductive Statement
  | createTable (table : Name) (columns : List Column)
  | insert (table : Name) (columns : List Name) (values : List Literal)
  | update (table : Name) (assignment : Equation) (conditions : List Equation)
  | select (columns? : Option (List Ref)) (table : Name) (join? : Option Join)
      (conditions : List Equation)
deriving DecidableEq

def keyword (text : String) : Token := .word text.toList

def symbol (c : Char) : Token := .operator [c]

def foldCase : Token → Token
  | .word cs => .word (cs.map Char.toLower)
  | t => t

def parseRef : List Token → Option Ref
  | [.word c] => some { table? := none, column := c }
  | [.word t, .operator ['.'], .word c] => some { table? := some t, column := c }
  | _ => none

def parseLiteral : List Token → Option Literal
  | [.string cs] => some (.text cs)
  | [.number ds] => some (.number false ds)
  | [.operator ['-'], .number ds] => some (.number true ds)
  | _ => none

def parseOperand (ts : List Token) : Option Operand :=
  match parseLiteral ts with
  | some l => some (.literal l)
  | none => (parseRef ts).map .ref

def cut (sep : Token) (ts : List Token) : Option (List Token × List Token) :=
  match ts.dropWhile (· ≠ sep) with
  | [] => none
  | _ :: rest => some (ts.takeWhile (· ≠ sep), rest)

def parseEquation (ts : List Token) : Option Equation := do
  let (left, right) ← cut (symbol '=') ts
  some { left := ← parseRef left, right := ← parseOperand right }

/-- The tokens before the condition, and the condition, of a statement that ends
in a semicolon. -/
def parseConditions (ts : List Token) : Option (List Token × List Equation) := do
  let (ts, rest) ← cut (symbol ';') ts
  if rest ≠ [] then none
  else
    match cut (keyword "where") ts with
    | none => some (ts, [])
    | some (ts, conditions) =>
      some (ts, ← (conditions.splitOn (keyword "and")).mapM parseEquation)

def parseColumn : List Token → Option Column
  | .word name :: type :: rest => do
    let (affinity, rest) ←
      if type = keyword "integer" then some (Affinity.integer, rest)
      else if type = keyword "float" then some (Affinity.real, rest)
      else if type = keyword "varchar" then
        match rest with
        | .operator ['('] :: .number _ :: .operator [')'] :: rest => some (Affinity.text, rest)
        | _ => none
      else none
    if rest = [] || rest = [keyword "null"] then some { name := name, affinity := affinity }
    else if rest = [keyword "unique"] then
      some { name := name, affinity := affinity, unique := true }
    else if rest = [keyword "primary", keyword "key", keyword "autoincrement"] &&
        affinity = .integer then
      some { name := name, affinity := affinity, autoincrement := true }
    else none
  | _ => none

def parseCreate : List Token → Option Statement
  | .word t :: .operator ['('] :: rest =>
    match rest.reverse with
    | .operator [';'] :: .operator [')'] :: body =>
      ((body.reverse.splitOn (symbol ',')).mapM parseColumn).map (.createTable t)
    | _ => none
  | _ => none

def parseName : List Token → Option Name
  | [.word c] => some c
  | _ => none

def parseInsert : List Token → Option Statement
  | .word t :: .operator ['('] :: rest => do
    let (columns, rest) ← cut (symbol ')') rest
    match rest with
    | values :: .operator ['('] :: rest =>
      if values = keyword "values" then do
        let (row, rest) ← cut (symbol ')') rest
        if rest = [symbol ';'] then
          some (.insert t (← (columns.splitOn (symbol ',')).mapM parseName)
            (← (row.splitOn (symbol ',')).mapM parseLiteral))
        else none
      else none
    | _ => none
  | _ => none

def parseUpdate : List Token → Option Statement
  | .word t :: set :: rest => do
    if set = keyword "set" then
      let (assignment, conditions) ← parseConditions rest
      some (.update t (← parseEquation assignment) conditions)
    else none
  | _ => none

def parseSource : List Token → Option (Name × Option Join)
  | [.word t] => some (t, none)
  | .word t :: left :: join :: .word u :: on :: condition =>
    if left = keyword "left" && join = keyword "join" && on = keyword "on" then
      (parseEquation condition).map fun e => (t, some { table := u, condition := e })
    else none
  | _ => none

def parseSelect (ts : List Token) : Option Statement := do
  let (columns, rest) ← cut (keyword "from") ts
  let columns? ←
    if columns = [symbol '*'] then some none
    else ((columns.splitOn (symbol ',')).mapM parseRef).map some
  let (source, conditions) ← parseConditions rest
  let (table, join?) ← parseSource source
  some (.select columns? table join? conditions)

/-- The statement of a list of tokens, when it belongs to the fragment. -/
def parse (ts : List Token) : Option Statement :=
  match ts.map foldCase with
  | a :: b :: ts =>
    if a = keyword "select" then parseSelect (b :: ts)
    else if a = keyword "update" then parseUpdate (b :: ts)
    else if a = keyword "insert" && b = keyword "into" then parseInsert ts
    else if a = keyword "create" && b = keyword "table" then
      match ts with
      | c :: d :: e :: ts =>
        if c = keyword "if" && d = keyword "not" && e = keyword "exists" then parseCreate ts
        else none
      | _ => none
    else none
  | _ => none

end JiraGame.Lib.SqlSyntax
