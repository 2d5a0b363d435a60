import JiraGame.Lib.EraseLoop

namespace JiraGame.Lib.Iterators

open JiraGame.Lib.EraseLoop

/-- An iterator of a vector: a position, at most the one behind the last
element, or what an erasure of its element leaves. -/
inductive Iterator
  | pos (i : Nat)
  | erased

namespace Iterator

variable {α : Type}

def first : Iterator := .pos 0

/-- The comparison with the end, which an erased iterator does not allow. -/
def atEnd (v : List α) : Iterator → Option Bool
  | .pos i => some (decide (i = v.length))
  | .erased => none

def deref (v : List α) : Iterator → Option α
  | .pos i => v[i]?
  | .erased => none

def next (v : List α) : Iterator → Option Iterator
  | .pos i => if i < v.length then some (.pos (i + 1)) else none
  | .erased => none

def write (v : List α) (x : α) : Iterator → Option (List α)
  | .pos i => if i < v.length then some (v.set i x) else none
  | .erased => none

def erase (v : List α) : Iterator → Option (List α × Iterator)
  | .pos i => if i < v.length then some (v.eraseIdx i, .erased) else none
  | .erased => none

end Iterator

/-- What the body of a loop does with the element under the iterator. -/
inductive Turn (α : Type)
  | keep
  | put (x : α)
  | drop

/-- A loop over a vector that starts again after an erasure and then still takes
the step of the loop head, unless the vector is empty. There is no result when an
iterator is used that stands on no element, or after more turns than the first
number. -/
def walk {α : Type} (turn : α → Option (Turn α)) : Nat → List α → Iterator → Option (List α)
  | 0, _, _ => none
  | n + 1, v, it => do
    if ← it.atEnd v then some v
    else
      match ← turn (← it.deref v) with
      | .keep => walk turn n v (← it.next v)
      | .put x =>
        let v ← it.write v x
        walk turn n v (← it.next v)
      | .drop =>
        let (v, _) ← it.erase v
        let it := Iterator.first
        if ← it.atEnd v then some v else walk turn n v (← it.next v)

section Steps

variable {α : Type} {turn : α → Option (Turn α)} {n i : Nat} {v : List α} {y : α}

theorem walk_end (h : v[i]? = none) (hi : i ≤ v.length) :
    walk turn (n + 1) v (.pos i) = some v := by
  have hlen : i = v.length := Nat.le_antisymm hi (List.getElem?_eq_none_iff.mp h)
  simp [walk, Iterator.atEnd, hlen]

theorem walk_stop (h : v[i]? = some y) (ht : turn y = none) :
    walk turn (n + 1) v (.pos i) = none := by
  obtain ⟨hlt, rfl⟩ := List.getElem?_eq_some_iff.mp h
  simp [walk, Iterator.atEnd, Iterator.deref, ht, hlt, Nat.ne_of_lt hlt]

theorem walk_keep (h : v[i]? = some y) (ht : turn y = some .keep) :
    walk turn (n + 1) v (.pos i) = walk turn n v (.pos (i + 1)) := by
  obtain ⟨hlt, rfl⟩ := List.getElem?_eq_some_iff.mp h
  simp [walk, Iterator.atEnd, Iterator.deref, Iterator.next, ht, hlt, Nat.ne_of_lt hlt]

theorem walk_put {x : α} (h : v[i]? = some y) (ht : turn y = some (.put x)) :
    walk turn (n + 1) v (.pos i) = walk turn n (v.set i x) (.pos (i + 1)) := by
  obtain ⟨hlt, rfl⟩ := List.getElem?_eq_some_iff.mp h
  simp [walk, Iterator.atEnd, Iterator.deref, Iterator.next, Iterator.write, ht, hlt,
    Nat.ne_of_lt hlt]

theorem walk_drop (h : v[i]? = some y) (ht : turn y = some .drop) :
    walk turn (n + 1) v (.pos i) =
      if v.eraseIdx i = [] then some [] else walk turn n (v.eraseIdx i) (.pos 1) := by
  obtain ⟨hlt, rfl⟩ := List.getElem?_eq_some_iff.mp h
  cases he : v.eraseIdx i <;>
    simp [walk, Iterator.atEnd, Iterator.deref, Iterator.next, Iterator.erase, Iterator.first, ht,
      hlt, he, Nat.ne_of_lt hlt]

end Steps

section Walks

variable {α κ : Type} [DecidableEq α] [DecidableEq κ] {n i : Nat}

def eraseTurn (x y : α) : Option (Turn α) := some (if x = y then .drop else .keep)

def eraseKeyTurn (k : κ) (f : List α → Option (List α)) (x : κ × List α) :
    Option (Turn (κ × List α)) :=
  if k = x.1 then (f x.2).map fun v => if v = [] then .drop else .put (x.1, v) else some .keep

/-- The loop over a vector uses its iterator on elements only. -/
theorem walk_eraseScan (x : α) {v : List α} (hi : i ≤ v.length) :
    walk (eraseTurn x) n v (.pos i) = eraseScan x n v i := by
  induction n generalizing v i with
  | zero => rfl
  | succ n ih =>
    rw [eraseScan]
    cases hv : v[i]? with
    | none => exact walk_end hv hi
    | some y =>
      obtain ⟨hlt, -⟩ := List.getElem?_eq_some_iff.mp hv
      by_cases hxy : x = y
      · rw [walk_drop hv (by rw [eraseTurn, if_pos hxy])]
        simp only [if_pos hxy]
        by_cases h0 : v.eraseIdx i = []
        · rw [if_pos h0, if_pos h0]
        · rw [if_neg h0, if_neg h0]
          exact ih (List.length_pos_of_ne_nil h0)
      · rw [walk_keep hv (by rw [eraseTurn, if_neg hxy]), ih hlt]
        simp only [if_neg hxy]

omit [DecidableEq α] in
theorem walk_eraseKeyScan (k : κ) (f : List α → Option (List α)) {m : List (κ × List α)}
    (hi : i ≤ m.length) : walk (eraseKeyTurn k f) n m (.pos i) = eraseKeyScan k f n m i := by
  induction n generalizing m i with
  | zero => rfl
  | succ n ih =>
    rw [eraseKeyScan]
    cases hm : m[i]? with
    | none => exact walk_end hm hi
    | some x =>
      obtain ⟨hlt, -⟩ := List.getElem?_eq_some_iff.mp hm
      by_cases hkx : k = x.1
      · simp only [if_pos hkx]
        cases hf : f x.2 with
        | none => exact walk_stop hm (by simp [eraseKeyTurn, hkx, hf])
        | some v =>
          cases v with
          | nil =>
            rw [walk_drop hm (by simp [eraseKeyTurn, hkx, hf])]
            by_cases h0 : m.eraseIdx i = []
            · rw [if_pos h0]
              exact (if_pos h0).symm
            · rw [if_neg h0, ih (List.length_pos_of_ne_nil h0)]
              exact (if_neg h0).symm
          | cons y ys =>
            have hput : eraseKeyTurn k f x = some (.put (x.1, y :: ys)) := by
              simp [eraseKeyTurn, hkx, hf]
            rw [walk_put hm hput]
            exact ih (by rw [List.length_set]; exact hlt)
      · rw [walk_keep hm (by rw [eraseKeyTurn, if_neg hkx]), ih hlt]
        simp only [if_neg hkx]

end Walks

end JiraGame.Lib.Iterators
