import Mathlib.Data.List.Pairwise
import Mathlib.Logic.Function.Basic

namespace JiraGame.Lib.Seniority

variable {β γ : Type} {now : Nat} {ps : List β} {stamps : List Nat} {flag : β → Bool}

/-- A list whose entries carry the times at which they were appended. -/
structure Aligned (now : Nat) (ps : List β) (stamps : List Nat) : Prop where
  length : stamps.length = ps.length
  sorted : stamps.Pairwise (· < ·)
  past : ∀ t ∈ stamps, t < now

/-- The stamps of the entries that pass a test. -/
def keep (p : β → Bool) (ps : List β) (stamps : List Nat) : List Nat :=
  ((ps.zip stamps).filter fun x => p x.1).map Prod.snd

theorem aligned_nil (now : Nat) : Aligned now ([] : List β) [] where
  length := rfl
  sorted := List.Pairwise.nil
  past := by
    intro t ht
    cases ht

theorem Aligned.congr (h : Aligned now ps stamps) {qs : List γ} (hlen : qs.length = ps.length) :
    Aligned now qs stamps where
  length := by rw [h.length, hlen]
  sorted := h.sorted
  past := h.past

theorem Aligned.wait (h : Aligned now ps stamps) : Aligned (now + 1) ps stamps where
  length := h.length
  sorted := h.sorted
  past := fun t ht => Nat.lt_succ_of_lt (h.past t ht)

theorem Aligned.append (h : Aligned now ps stamps) (b : β) :
    Aligned (now + 1) (ps ++ [b]) (stamps ++ [now]) where
  length := by simp [h.length]
  sorted := by
    rw [List.pairwise_append]
    refine ⟨h.sorted, List.pairwise_singleton _ _, ?_⟩
    intro t ht u hu
    rw [List.mem_singleton.mp hu]
    exact h.past t ht
  past := by
    intro t ht
    obtain ht | ht := List.mem_append.mp ht
    · exact Nat.lt_succ_of_lt (h.past t ht)
    · rw [List.mem_singleton.mp ht]
      exact Nat.lt_succ_self now

theorem aligned_update {κ : Type} [DecidableEq κ] {R : κ → List β} {S : κ → List Nat} {qs : List β}
    {ts : List Nat} (h : ∀ k, Aligned now (R k) (S k)) (k : κ) (hk : Aligned (now + 1) qs ts) (j : κ) :
    Aligned (now + 1) (Function.update R k qs j) (Function.update S k ts j) := by
  by_cases hj : j = k
  · subst hj
    rw [Function.update_self, Function.update_self]
    exact hk
  · rw [Function.update_of_ne hj, Function.update_of_ne hj]
    exact (h j).wait

theorem length_keep (p : β → Bool) (h : stamps.length = ps.length) :
    (keep p ps stamps).length = (ps.filter p).length := by
  have hfst : (ps.zip stamps).map Prod.fst = ps := List.map_fst_zip (Nat.le_of_eq h.symm)
  have hcount : (ps.zip stamps).countP (p ∘ Prod.fst) = ps.countP p := by
    rw [← List.countP_map, hfst]
  rw [keep, List.length_map, ← List.countP_eq_length_filter, ← List.countP_eq_length_filter]
  exact hcount

theorem keep_sublist (p : β → Bool) (h : stamps.length = ps.length) :
    (keep p ps stamps).Sublist stamps := by
  have hsnd : (ps.zip stamps).map Prod.snd = stamps := List.map_snd_zip (Nat.le_of_eq h)
  have hsub := (List.filter_sublist (p := fun x : β × Nat => p x.1) (l := ps.zip stamps)).map Prod.snd
  rwa [hsnd] at hsub

theorem Aligned.keep (h : Aligned now ps stamps) (p : β → Bool) :
    Aligned now (ps.filter p) (keep p ps stamps) where
  length := length_keep p h.length
  sorted := h.sorted.sublist (keep_sublist p h.length)
  past := fun t ht => h.past t ((keep_sublist p h.length).subset ht)

/-- Exactly one entry is flagged, and none was appended before it. -/
def EldestFlagged (flag : β → Bool) (ps : List β) (stamps : List Nat) : Prop :=
  ps.countP flag = 1 ∧ ∃ q t, (q, t) ∈ ps.zip stamps ∧ flag q = true ∧ ∀ u ∈ stamps, t ≤ u

/-- The first entry is flagged and no other. -/
def FirstFlagged (flag : β → Bool) : List β → Prop
  | [] => False
  | q :: rest => flag q = true ∧ ∀ x ∈ rest, flag x = false

theorem not_firstFlagged (h : ∀ x ∈ ps, flag x = false) : ¬ FirstFlagged flag ps := by
  cases ps with
  | nil => exact fun hfirst => hfirst
  | cons q rest =>
    rintro ⟨hflag, -⟩
    rw [h q List.mem_cons_self] at hflag
    cases hflag

theorem FirstFlagged.append (h : FirstFlagged flag ps) {b : β} (hb : flag b = false) :
    FirstFlagged flag (ps ++ [b]) := by
  cases ps with
  | nil => exact h.elim
  | cons q rest =>
    obtain ⟨hflag, hrest⟩ := h
    refine ⟨hflag, ?_⟩
    intro x hx
    obtain hx | hx := List.mem_append.mp hx
    · exact hrest x hx
    · rw [List.mem_singleton.mp hx]
      exact hb

theorem Aligned.eldest_iff (h : Aligned now ps stamps) :
    EldestFlagged flag ps stamps ↔ FirstFlagged flag ps := by
  obtain ⟨hlen, hsorted, -⟩ := h
  cases ps with
  | nil =>
    refine ⟨?_, ?_⟩
    · rintro ⟨hcount, -⟩
      cases hcount
    · intro hfirst
      cases hfirst
  | cons q rest =>
    cases stamps with
    | nil => cases hlen
    | cons t ts =>
      obtain ⟨hbelow, -⟩ := List.pairwise_cons.mp hsorted
      refine ⟨?_, ?_⟩
      · rintro ⟨hcount, q', t', hmem, hflag, hleast⟩
        rw [List.zip_cons_cons] at hmem
        have hq : q' = q := by
          obtain heq | hrest := List.mem_cons.mp hmem
          · exact congrArg Prod.fst heq
          · have hlt := hbelow t' (List.of_mem_zip hrest).2
            have hle := hleast t List.mem_cons_self
            omega
        rw [hq] at hflag
        rw [List.countP_cons_of_pos hflag, Nat.add_eq_right, List.countP_eq_zero] at hcount
        exact ⟨hflag, fun x hx => Bool.not_eq_true _ ▸ hcount x hx⟩
      · rintro ⟨hflag, hrest⟩
        refine ⟨?_, ?_⟩
        · rw [List.countP_cons_of_pos hflag, Nat.add_eq_right, List.countP_eq_zero]
          intro x hx
          simp [hrest x hx]
        · refine ⟨q, t, List.mem_cons_self, hflag, ?_⟩
          intro u hu
          obtain rfl | hu := List.mem_cons.mp hu
          · exact Nat.le_refl _
          · exact Nat.le_of_lt (hbelow u hu)

end JiraGame.Lib.Seniority
