import Mathlib.Data.List.Basic
import Mathlib.Data.List.Nodup
import Mathlib.Data.List.Perm.Basic

namespace JiraGame.Lib.SwapRemove

theorem perm_set_dropLast {α : Type} {l : List α} {i : Nat} (hi : i < l.length) {x : α}
    (hx : l.getLast? = some x) : (l[i] :: (l.set i x).dropLast).Perm l := by
  have hlast : (l.set i x).getLast? = some x := by
    rw [List.getLast?_eq_getElem?, List.length_set, List.getElem?_set]
    split
    · rfl
    · rw [← List.getLast?_eq_getElem?, hx]
  have hset := (List.perm_append_singleton x (l.set i x).dropLast).symm
  rw [List.dropLast_append_getLast? x hlast] at hset
  have hrest := (hset.trans (List.set_perm_cons_eraseIdx hi x)).cons_inv
  exact (hrest.cons _).trans (List.getElem_cons_eraseIdx_perm hi)

theorem mem_set_dropLast {α : Type} {l : List α} (hnd : l.Nodup) {i : Nat} (hi : i < l.length)
    {x : α} (hx : l.getLast? = some x) {y : α} :
    y ∈ (l.set i x).dropLast ↔ y ∈ l ∧ y ≠ l[i] := by
  have hperm := perm_set_dropLast hi hx
  have hnot := (List.nodup_cons.mp (hperm.nodup_iff.mpr hnd)).1
  rw [← hperm.mem_iff, List.mem_cons]
  refine ⟨fun hy => ⟨.inr hy, ?_⟩, fun ⟨hy, hne⟩ => hy.resolve_left hne⟩
  rintro rfl
  exact hnot hy

/-- The element that moves into the cell is the only new one in front. -/
theorem countP_take_set_dropLast {α : Type} {l : List α} {i : Nat} (hi : i < l.length) (x : α)
    (P : α → Bool) :
    ((l.set i x).dropLast.take (i + 1)).countP P ≤ (l.take i).countP P + 1 := by
  have htake : (l.set i x).take (i + 1) = l.take i ++ [x] := by
    have hlen : (l.take i).length ≤ i := by
      rw [List.length_take]
      exact Nat.min_le_left _ _
    rw [List.take_add_one, List.take_set, List.set_eq_of_length_le hlen, List.getElem?_set_self hi]
    rfl
  have hprefix : ((l.set i x).dropLast.take (i + 1)) <+: (l.set i x).take (i + 1) := by
    refine List.prefix_take_iff.mpr ⟨?_, List.length_take_le _ _⟩
    exact (List.take_prefix _ _).trans (List.dropLast_prefix _)
  rw [htake] at hprefix
  calc ((l.set i x).dropLast.take (i + 1)).countP P ≤ (l.take i ++ [x]).countP P :=
        hprefix.sublist.countP_le
    _ = (l.take i).countP P + [x].countP P := List.countP_append
    _ ≤ (l.take i).countP P + 1 := Nat.add_le_add_left List.countP_le_length _

theorem map_replace {α : Type} [DecidableEq α] {l : List α} (hnd : l.Nodup) {i : Nat}
    (hi : i < l.length) (x : α) : (l.map fun t => if t = l[i] then x else t) = l.set i x := by
  apply List.ext_getElem
  · simp
  · intro j hj _
    rw [List.getElem_map, List.getElem_set]
    have hj' : j < l.length := by simpa using hj
    by_cases hij : i = j
    · subst hij
      rw [if_pos rfl, if_pos rfl]
    · rw [if_neg hij, if_neg fun he => hij (hnd.getElem_inj_iff.mp he).symm]

/-- The first `count` cells of an array. -/
structure ArrayPrefix (α : Type) where
  cells : List α
  count : Nat
  fits : count ≤ cells.length

namespace ArrayPrefix

variable {α : Type} (a : ArrayPrefix α) {i : Nat}

def live : List α := a.cells.take a.count

def get (i : Nat) (h : i < a.count) : α :=
  have hlt : i < a.cells.length := Nat.lt_of_lt_of_le h a.fits
  a.cells[i]

def back (h : i < a.count) : α := a.get (a.count - 1) (by omega)

def dropAt (i : Nat) (h : i < a.count) : ArrayPrefix α where
  cells := a.cells.set i (a.back h)
  count := a.count - 1
  fits := by
    rw [List.length_set]
    exact Nat.le_trans (Nat.sub_le _ _) a.fits

theorem count_dropAt (h : i < a.count) : (a.dropAt i h).count = a.count - 1 := rfl

theorem length_live : a.live.length = a.count := List.length_take_of_le a.fits

variable {a}

theorem live_get (h : i < a.count) : a.live[i]? = some (a.get i h) := by
  simp [live, get, h, Nat.lt_of_lt_of_le h a.fits]

theorem get_mem (h : i < a.count) : a.get i h ∈ a.live := List.mem_of_getElem? (live_get h)

theorem take_succ (h : i < a.count) : a.live.take (i + 1) = a.live.take i ++ [a.get i h] := by
  rw [List.take_add_one, live_get h]
  rfl

theorem get_notMem_take (hnd : a.live.Nodup) (h : i < a.count) :
    a.get i h ∉ a.live.take i := by
  have hsub : (a.live.take i ++ [a.get i h]).Nodup := by
    rw [← take_succ h]
    exact hnd.sublist (List.take_sublist _ _)
  intro hin
  exact (List.nodup_append.mp hsub).2.2 _ hin _ List.mem_cons_self rfl

theorem getLast?_live (h : i < a.count) : a.live.getLast? = some (a.back h) := by
  rw [List.getLast?_eq_getElem?, length_live]
  exact live_get _

theorem live_dropAt (h : i < a.count) :
    (a.dropAt i h).live = (a.live.set i (a.back h)).dropLast := by
  rw [List.dropLast_eq_take, List.length_set, length_live, live, live, dropAt, ← List.take_set,
    List.take_take, Nat.min_eq_left (Nat.sub_le _ _)]

/-- The other elements stay, in some order. -/
theorem dropAt_perm (h : i < a.count) : (a.get i h :: (a.dropAt i h).live).Perm a.live := by
  have hi : i < a.live.length := by rwa [length_live]
  have hget : a.get i h = a.live[i] := by
    rw [← Option.some_inj, ← live_get, List.getElem?_eq_getElem]
  rw [hget, live_dropAt]
  exact perm_set_dropLast hi (getLast?_live h)

theorem take_dropAt (h : i < a.count) : (a.dropAt i h).live.take i = a.live.take i := by
  rw [live_dropAt, List.dropLast_eq_take, List.length_set, length_live, List.take_take,
    Nat.min_eq_left (by omega), List.take_set_of_le (Nat.le_refl i)]

end ArrayPrefix

end JiraGame.Lib.SwapRemove
