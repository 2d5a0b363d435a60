import Mathlib.Data.List.Nodup

namespace JiraGame.Lib.Keyed

/-- The first separator splits a list in one way. -/
theorem separator_inj {α : Type} {c : α} {v w t rest : List α} (hv : c ∉ v) (hw : c ∉ w)
    (h : v ++ c :: t = w ++ c :: rest) : v = w ∧ t = rest := by
  induction v generalizing w with
  | nil =>
    cases w with
    | nil => exact ⟨rfl, (List.cons.inj h).2⟩
    | cons d w => exact absurd (List.cons.inj h).1 fun he => hw (he ▸ List.mem_cons_self)
  | cons d v ih =>
    cases w with
    | nil => exact absurd (List.cons.inj h).1 fun he => hv (he ▸ List.mem_cons_self)
    | cons e w =>
      rw [List.mem_cons, not_or] at hv hw
      obtain ⟨rfl, htail⟩ := List.cons.inj h
      obtain ⟨rfl, ht⟩ := ih hv.2 hw.2 htail
      exact ⟨rfl, ht⟩

variable {α κ : Type} [DecidableEq κ] {key : α → κ} {l : List α} {x : α} {k : κ}

theorem find_iff (h : (l.map key).Nodup) :
    l.find? (fun y => key y = k) = some x ↔ x ∈ l ∧ key x = k := by
  refine ⟨fun hx => ⟨List.mem_of_find?_eq_some hx, ?_⟩, ?_⟩
  · simpa using List.find?_some hx
  · rintro ⟨hx, rfl⟩
    cases hy : l.find? (fun y => key y = key x) with
    | none => exact absurd (List.find?_eq_none.mp hy x hx) (by simp)
    | some y =>
      have hkey : key y = key x := by simpa using List.find?_some hy
      rw [List.inj_on_of_nodup_map h (List.mem_of_find?_eq_some hy) hx hkey]

theorem find_eq_none_iff : l.find? (fun y => key y = k) = none ↔ ∀ y ∈ l, key y ≠ k := by
  simp

theorem filter_eq (h : (l.map key).Nodup) (hx : x ∈ l) :
    l.filter (fun y => key y = key x) = [x] := by
  induction l with
  | nil => exact absurd hx List.not_mem_nil
  | cons y l ih =>
    rw [List.map_cons, List.nodup_cons] at h
    obtain rfl | hx := List.mem_cons.mp hx
    · have hrest : l.filter (fun z => key z = key x) = [] := by
        rw [List.filter_eq_nil_iff]
        intro z hz he
        exact h.1 (List.mem_map.mpr ⟨z, hz, by simpa using he⟩)
      rw [List.filter_cons, if_pos (by simp), hrest]
    · have hne : key y ≠ key x := fun he => h.1 (List.mem_map.mpr ⟨x, hx, he.symm⟩)
      rw [List.filter_cons, if_neg (by simpa using hne), ih h.2 hx]

omit [DecidableEq κ] in
theorem nodup_concat : ((l ++ [x]).map key).Nodup ↔ (l.map key).Nodup ∧ ∀ y ∈ l, key y ≠ key x := by
  simp [List.nodup_append]

section Edit

variable {f : α → α}

def edit (key : α → κ) (k : κ) (f : α → α) (l : List α) : List α :=
  l.map fun y => if key y = k then f y else y

theorem edit_append (l l' : List α) :
    edit key k f (l ++ l') = edit key k f l ++ edit key k f l' := List.map_append

theorem mem_edit_iff : x ∈ edit key k f l ↔
    (∃ y ∈ l, key y = k ∧ x = f y) ∨ x ∈ l ∧ key x ≠ k := by
  rw [edit, List.mem_map]
  refine ⟨?_, ?_⟩
  · rintro ⟨y, hy, rfl⟩
    by_cases hk : key y = k
    · rw [if_pos hk]
      exact .inl ⟨y, hy, hk, rfl⟩
    · rw [if_neg hk]
      exact .inr ⟨hy, hk⟩
  · rintro (⟨y, hy, hk, rfl⟩ | ⟨hx, hk⟩)
    · exact ⟨y, hy, if_pos hk⟩
    · exact ⟨x, hx, if_neg hk⟩

theorem map_edit {γ : Type} {g : α → γ} (hg : ∀ y, g (f y) = g y) :
    (edit key k f l).map g = l.map g := by
  rw [edit, List.map_map]
  refine List.map_congr_left fun y _ => ?_
  rw [Function.comp]
  split
  · exact hg y
  · rfl

theorem find_edit (hf : ∀ y, key (f y) = key y) (k' : κ) :
    (edit key k f l).find? (fun y => key y = k') =
      (l.find? fun y => key y = k').map fun y => if k' = k then f y else y := by
  rw [edit, List.find?_map]
  have hcomp : ((fun y => decide (key y = k')) ∘ fun y => if key y = k then f y else y) =
      fun y => decide (key y = k') := by
    funext y
    rw [Function.comp]
    split
    · rw [hf]
    · rfl
  rw [hcomp]
  cases hy : l.find? fun y => key y = k' with
  | none => rfl
  | some y =>
    have hkey : key y = k' := by simpa using List.find?_some hy
    rw [Option.map_some, Option.map_some, hkey]

end Edit

end JiraGame.Lib.Keyed
