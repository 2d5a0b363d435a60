import Mathlib.Data.List.Nodup
import Mathlib.Logic.Function.Basic

namespace JiraGame.Lib.Families

variable {κ β : Type} {F G : κ → List β}

/-- No element occurs twice over all lists of the family taken together. -/
def Exclusive (F : κ → List β) : Prop :=
  (∀ k, (F k).Nodup) ∧ ∀ j k x, x ∈ F j → x ∈ F k → j = k

theorem exclusive_nil : Exclusive fun _ : κ => ([] : List β) := by
  refine ⟨?_, ?_⟩
  · intro k
    exact List.nodup_nil
  · intro j k x hx
    cases hx

theorem Exclusive.sublist (h : Exclusive F) (hs : ∀ k, (G k).Sublist (F k)) : Exclusive G := by
  obtain ⟨hnodup, hone⟩ := h
  refine ⟨?_, ?_⟩
  · intro k
    exact (hnodup k).sublist (hs k)
  · intro j k x hj hk
    exact hone j k x ((hs j).subset hj) ((hs k).subset hk)

variable [DecidableEq κ]

theorem Exclusive.append_iff (h : Exclusive F) (k : κ) (x : β) :
    Exclusive (Function.update F k (F k ++ [x])) ↔ ∀ j, x ∉ F j := by
  obtain ⟨hnodup, hone⟩ := h
  refine ⟨?_, ?_⟩
  · rintro ⟨hnodup', hone'⟩ j hx
    have hk : x ∈ Function.update F k (F k ++ [x]) k := by simp
    by_cases hj : j = k
    · subst hj
      have hnd := hnodup' j
      rw [Function.update_self, List.nodup_append] at hnd
      exact hnd.2.2 x hx x List.mem_cons_self rfl
    · have hxj : x ∈ Function.update F k (F k ++ [x]) j := by
        rw [Function.update_of_ne hj]
        exact hx
      exact hj (hone' j k x hxj hk)
  · intro hnew
    have hmem : ∀ j y, y ∈ Function.update F k (F k ++ [x]) j → y ∈ F j ∨ (y = x ∧ j = k) := by
      intro j y hy
      by_cases hj : j = k
      · subst hj
        simpa using hy
      · rw [Function.update_of_ne hj] at hy
        exact .inl hy
    refine ⟨?_, ?_⟩
    · intro j
      by_cases hj : j = k
      · subst hj
        rw [Function.update_self, List.nodup_append]
        refine ⟨hnodup j, List.nodup_singleton x, ?_⟩
        intro y hy z hz
        rw [List.mem_singleton.mp hz]
        rintro rfl
        exact hnew j hy
      · rw [Function.update_of_ne hj]
        exact hnodup j
    · intro i j y hi hj
      obtain hold | ⟨rfl, rfl⟩ := hmem i y hi
      · obtain hold' | ⟨rfl, rfl⟩ := hmem j y hj
        · exact hone i j y hold hold'
        · exact absurd hold (hnew i)
      · obtain hold' | ⟨-, rfl⟩ := hmem j y hj
        · exact absurd hold' (hnew j)
        · rfl

end JiraGame.Lib.Families
