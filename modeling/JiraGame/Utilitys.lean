import Mathlib.Data.List.Basic

namespace JiraGame.Utilitys

/-- The decimal text of six `rand()` outputs reduced to 1..10, concatenated. -/
def GenrateRandomID (rand : List Nat) : String :=
  rand.foldl (fun CServerRandomID r => CServerRandomID ++ toString (r % 10 + 1)) ""

def int2String (iValue : Int) : String := toString iValue

def isSpace (c : Char) : Bool := c = ' ' || ('\t' ≤ c && c ≤ '\r')

/-- The leading digits of a text, read in base ten. -/
def digits (acc : Nat) : List Char → Nat
  | [] => acc
  | c :: cs => if c.isDigit then digits (acc * 10 + (c.toNat - '0'.toNat)) cs else acc

/-- `atoi`: blanks, a sign, digits; a value out of range comes back as
`INT_MAX` or `INT_MIN`. -/
def string2Int (str : String) : Int :=
  match str.toList.dropWhile isSpace with
  | '-' :: cs => max (-(digits 0 cs : Int)) (-2147483648)
  | '+' :: cs => min (digits 0 cs : Int) 2147483647
  | cs => min (digits 0 cs : Int) 2147483647

end JiraGame.Utilitys
