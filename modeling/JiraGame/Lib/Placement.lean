import Mathlib.Data.List.Basic
import Mathlib.Logic.Function.Basic

namespace JiraGame.Lib.Placement

variable {κ α : Type} {z : κ} {place : α → Option κ} {F : κ → List α}

/-- Links both ways between the place of each known element and the lists kept
for the places; `z` stands for "nowhere" and needs no list. -/
structure Linked (z : κ) (place : α → Option κ) (F : κ → List α) : Prop where
  present : ∀ k, ∀ s ∈ F k, place s ≠ none
  listed : ∀ s k, place s = some k → k ≠ z → s ∈ F k

theorem linked_none (z : κ) : Linked z (fun _ : α => none) (fun _ => []) where
  present := by
    intro k s hs
    cases hs
  listed := by
    intro s k hk
    cases hk

variable [DecidableEq α]

theorem Linked.nowhere (h : Linked z place F) (s : α) :
    Linked z (Function.update place s (some z)) F where
  present := by
    intro k t ht
    by_cases hts : t = s
    · simp [hts]
    · rw [Function.update_of_ne hts]
      exact h.present k t ht
  listed := by
    intro t k hk hz
    by_cases hts : t = s
    · subst hts
      rw [Function.update_self, Option.some.injEq] at hk
      exact absurd hk.symm hz
    · rw [Function.update_of_ne hts] at hk
      exact h.listed t k hk hz

theorem Linked.forget_iff (h : Linked z place F) (s : α) :
    Linked z (Function.update place s none) F ↔ ∀ k, s ∉ F k := by
  refine ⟨?_, ?_⟩
  · rintro ⟨hpresent, -⟩ k hs
    exact hpresent k s hs (by simp)
  · intro hs
    refine ⟨?_, ?_⟩
    · intro k t ht
      have hts : t ≠ s := by
        rintro rfl
        exact hs k ht
      rw [Function.update_of_ne hts]
      exact h.present k t ht
    · intro t k hk hz
      have hts : t ≠ s := by
        rintro rfl
        simp at hk
      rw [Function.update_of_ne hts] at hk
      exact h.listed t k hk hz

variable [DecidableEq κ]

theorem Linked.append (h : Linked z place F) (s : α) (k : κ) :
    Linked z (Function.update place s (some k)) (Function.update F k (F k ++ [s])) where
  present := by
    intro j t ht
    by_cases hts : t = s
    · simp [hts]
    · rw [Function.update_of_ne hts]
      by_cases hj : j = k
      · subst hj
        have hold : t ∈ F j := by simpa [hts] using ht
        exact h.present j t hold
      · rw [Function.update_of_ne hj] at ht
        exact h.present j t ht
  listed := by
    intro t j ht hz
    by_cases hts : t = s
    · subst hts
      rw [Function.update_self, Option.some.injEq] at ht
      subst ht
      simp
    · rw [Function.update_of_ne hts] at ht
      have hold := h.listed t j ht hz
      by_cases hj : j = k
      · subst hj
        simp [hold]
      · rw [Function.update_of_ne hj]
        exact hold

/-- An element is placed nowhere while a list shrinks to `G`: everyone else
placed there has to be in `G`. -/
theorem Linked.shrink_iff (h : Linked z place F) (s : α) (k : κ) {G : List α} (hG : G ⊆ F k) :
    Linked z (Function.update place s (some z)) (Function.update F k G) ↔
      (k ≠ z → ∀ t, t ≠ s → place t = some k → t ∈ G) := by
  refine ⟨?_, ?_⟩
  · rintro ⟨-, hlisted⟩ hz t hts ht
    have hin := hlisted t k (by rw [Function.update_of_ne hts]; exact ht) hz
    rwa [Function.update_self] at hin
  · intro hstay
    have hn := h.nowhere s
    refine ⟨?_, ?_⟩
    · intro j t ht
      by_cases hj : j = k
      · subst hj
        rw [Function.update_self] at ht
        exact hn.present j t (hG ht)
      · rw [Function.update_of_ne hj] at ht
        exact hn.present j t ht
    · intro t j ht hz
      by_cases hj : j = k
      · subst hj
        have hts : t ≠ s := by
          rintro rfl
          rw [Function.update_self, Option.some.injEq] at ht
          exact hz ht.symm
        rw [Function.update_of_ne hts] at ht
        rw [Function.update_self]
        exact hstay hz t hts ht
      · rw [Function.update_of_ne hj]
        exact hn.listed t j ht hz

theorem Linked.clear (h : Linked z place F) (k : κ) :
    Linked z (fun t => if t ∈ F k then (place t).map fun _ => z else place t)
      (Function.update F k []) where
  present := by
    intro j t ht
    by_cases hj : j = k
    · subst hj
      simp at ht
    · rw [Function.update_of_ne hj] at ht
      have hold := h.present j t ht
      split
      · simpa using hold
      · exact hold
  listed := by
    intro t j ht hz
    split at ht
    · obtain ⟨_, _, hzj⟩ := Option.map_eq_some_iff.mp ht
      exact absurd hzj.symm hz
    · rename_i hout
      have hold := h.listed t j ht hz
      have hj : j ≠ k := by
        rintro rfl
        exact hout hold
      rw [Function.update_of_ne hj]
      exact hold

end JiraGame.Lib.Placement
