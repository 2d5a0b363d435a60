import Mathlib.Data.List.Basic

namespace JiraGame.DBServer

/-- The parts a statement is concatenated from: text the handlers write and
strings they put between single quotes. -/
inductive SqlPiece
  | raw (text : String)
  | quoted (value : String)
deriving DecidableEq

abbrev Sql := List SqlPiece

def raw (text : String) : Sql := [.raw text]
def quoted (value : String) : Sql := [.quoted value]

/-- The columns of the row a statement stands on: the C string that
`(char*)sqlite3_column_text` points to, and `sqlite3_column_int`. -/
structure Row where
  column_text : Nat → Option String
  column_int : Nat → Int

/-- The rows a statement steps through and whether its first step is
`SQLITE_DONE`. -/
structure SqlResult where
  rows : List Row := []
  done : Bool := false

/-- SQLite as the handlers use it: a statement that does not compile has no
result. -/
structure Sqlite (DB : Type) where
  exec : DB → Sql → DB × Option SqlResult

/-- `for (i; i < count; i++) strSql = strSql + sep + key[i]`, `none` past the
end of the array. -/
def joinTail (sep : String) (key : List Sql) : Nat → Nat → Option Sql
  | _, 0 => some []
  | i, n + 1 => do
    let k ← key[i]?
    let rest ← joinTail sep key (i + 1) n
    some (raw sep ++ k ++ rest)

def joinPairs (sep : String) (key : List String) (value : List Sql) : Nat → Nat → Option Sql
  | _, 0 => some []
  | i, n + 1 => do
    let k ← key[i]?
    let v ← value[i]?
    let rest ← joinPairs sep key value (i + 1) n
    some (raw sep ++ raw k ++ raw "=" ++ v ++ rest)

def CreateTable (table : String) (key type : List String) (count : Nat) : Option Sql := do
  let k ← key[0]?
  let t ← type[0]?
  let rest ← joinTail "," ((key.zip type).map fun kt => raw (kt.1 ++ " " ++ kt.2)) 1 (count - 1)
  some (raw ("create table if not exists " ++ table ++ "(") ++ raw (k ++ " " ++ t) ++ rest ++ raw ");")

def Insert (table : String) (key : List String) (value : List Sql) (count : Nat) : Option Sql := do
  let k ← key[0]?
  let keys ← joinTail "," (key.map raw) 1 (count - 1)
  let v ← value[0]?
  let values ← joinTail "," value 1 (count - 1)
  some (raw ("insert into " ++ table ++ "(") ++ raw k ++ keys ++ raw ") values(" ++ v ++ values ++ raw ");")

def Delete (table : String) (key : List String) (value : List Sql) (count : Nat) : Option Sql := do
  let k ← key[0]?
  let v ← value[0]?
  let conds ← joinPairs " and " key value 1 (count - 1)
  some (raw ("delete from " ++ table ++ " where ") ++ raw k ++ raw "=" ++ v ++ conds ++ raw ";")

/-- The assignments are counted by `count`, not by `setCount`, and the further
conditions are joined by "and " with no blank in front. -/
def Update (table : String) (key : List String) (value : List Sql) (setKey : List String)
    (setValue : List Sql) (count : Nat) (_setCount : Nat) : Option Sql := do
  let sk ← setKey[0]?
  let sv ← setValue[0]?
  let sets ← joinPairs "," setKey setValue 1 (count - 1)
  let k ← key[0]?
  let v ← value[0]?
  let conds ← joinPairs "and " key value 1 (count - 1)
  some (raw ("update " ++ table ++ " set ") ++ raw sk ++ raw "=" ++ sv ++ sets ++ raw " where " ++
    raw k ++ raw "=" ++ v ++ conds ++ raw ";")

def SelectWhere (table : String) (getKey : List String) (getValue : List Sql) (count : Nat) :
    Option Sql := do
  let k ← getKey[0]?
  let v ← getValue[0]?
  let conds ← joinPairs " and " getKey getValue 1 (count - 1)
  some (raw ("select * from " ++ table ++ " where ") ++ raw k ++ raw "=" ++ v ++ conds ++ raw ";")

end JiraGame.DBServer
