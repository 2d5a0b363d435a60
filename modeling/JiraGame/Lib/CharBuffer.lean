import Mathlib.Data.Fintype.Basic
import Mathlib.Data.List.OfFn

namespace JiraGame.Lib.CharBuffer

abbrev CharArray (N : Nat) := Fin N → UInt8

variable {N : Nat}

def load (bs : List UInt8) (b : CharArray N) : CharArray N := fun i => bs[i.val]?.getD (b i)

/-- A write to one byte. Outside the array it hits something else. -/
def store (i : Int) (v : UInt8) (b : CharArray N) : CharArray N :=
  fun j => if (j : Int) = i then v else b j

def first (n : Nat) (b : CharArray N) : List UInt8 := (List.ofFn b).take n

/-- A string is copied up to its terminator. A debug runtime fills the rest of the
destination with a fixed byte, a release runtime leaves it alone. -/
def copy (fill : Option UInt8) (dest src : CharArray N) : CharArray N :=
  fun i => if ∀ j < i, src j ≠ 0 then src i else fill.getD (dest i)

/-- Without a terminator there is no copy, and the runtime ends the process. -/
def strcpy_s (fill : Option UInt8) (dest src : CharArray N) : Option (CharArray N) :=
  if ∃ i, src i = 0 then some (copy fill dest src) else none

theorem store_self (i : Fin N) (v : UInt8) (b : CharArray N) : store i.val v b i = v := if_pos rfl

theorem store_of_ne {i : Fin N} {k : Int} (h : (i : Int) ≠ k) (v : UInt8) (b : CharArray N) :
    store k v b i = b i := if_neg h

theorem first_length (b : CharArray N) {n : Nat} (h : n ≤ N) : (first n b).length = n := by
  rw [first, List.length_take, List.length_ofFn]
  exact Nat.min_eq_left h

theorem first_eq_iff {bs : List UInt8} {b : CharArray N} (h : bs.length ≤ N) :
    first bs.length b = bs ↔ ∀ i : Fin N, i.val < bs.length → bs[i.val]? = some (b i) := by
  have hlen := first_length b h
  have hget : ∀ i : Fin N, i.val < bs.length → (first bs.length b)[i.val]? = some (b i) := by
    intro i hi
    rw [first, List.getElem?_take_of_lt hi, List.getElem?_ofFn, dif_pos i.isLt]
  constructor
  · intro heq i hi
    have hi' := hget i hi
    rwa [heq] at hi'
  · intro hall
    apply List.ext_getElem?
    intro i
    obtain hlt | hle := Nat.lt_or_ge i bs.length
    · rw [hget ⟨i, by omega⟩ hlt, hall ⟨i, by omega⟩ hlt]
    · rw [List.getElem?_eq_none hle, List.getElem?_eq_none (by omega)]

theorem strcpy_s_terminated {src : CharArray N} {i : Fin N} (h : src i = 0) (fill : Option UInt8)
    (dest : CharArray N) : strcpy_s fill dest src = some (copy fill dest src) := if_pos ⟨i, h⟩

theorem copy_reached {src : CharArray N} {i : Fin N} (h : ∀ j < i, src j ≠ 0)
    (fill : Option UInt8) (dest : CharArray N) : copy fill dest src i = src i := if_pos h

theorem copy_beyond {src : CharArray N} {i : Fin N} (h : ¬∀ j < i, src j ≠ 0)
    (fill : Option UInt8) (dest : CharArray N) : copy fill dest src i = fill.getD (dest i) := if_neg h

end JiraGame.Lib.CharBuffer
