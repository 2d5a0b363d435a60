import Mathlib.Data.List.Basic
import Mathlib.Data.List.Nodup

namespace JiraGame.Lib.EraseLoop

variable {α κ : Type} [DecidableEq α] [DecidableEq κ]

/-- Walk a vector from position `i` and erase the elements equal to `x`. After
an erasure the iterator restarts at the beginning, and the loop's own increment
then moves it to position one; an emptied vector ends the loop. The first
argument bounds the number of turns. -/
def eraseScan (x : α) : Nat → List α → Nat → Option (List α)
  | 0, _, _ => none
  | n + 1, v, i =>
    match v[i]? with
    | none => some v
    | some y =>
      if x = y then
        if v.eraseIdx i = [] then some [] else eraseScan x n (v.eraseIdx i) 1
      else eraseScan x n v (i + 1)

/-- Walk a keyed vector the same way and rewrite the value under key `k`,
dropping the key when its value becomes empty. -/
def eraseKeyScan (k : κ) (f : List α → Option (List α)) :
    Nat → List (κ × List α) → Nat → Option (List (κ × List α))
  | 0, _, _ => none
  | n + 1, m, i =>
    match m[i]? with
    | none => some m
    | some (k', v) =>
      if k = k' then
        match f v with
        | none => none
        | some [] => if m.eraseIdx i = [] then some [] else eraseKeyScan k f n (m.eraseIdx i) 1
        | some (y :: ys) => eraseKeyScan k f n (m.set i (k', y :: ys)) (i + 1)
      else eraseKeyScan k f n m (i + 1)

/-- Past the last occurrence the walk only runs to the end. -/
theorem eraseScan_absent (x : α) (n : Nat) (v : List α) (i : Nat) (hx : x ∉ v.drop i)
    (hi : i ≤ v.length) (hn : v.length < n + i) : eraseScan x n v i = some v := by
  induction n generalizing i with
  | zero => omega
  | succ n ih =>
    cases hv : v[i]? with
    | none => simp [eraseScan, hv]
    | some y =>
      obtain ⟨hlt, hy⟩ := List.getElem?_eq_some_iff.mp hv
      rw [List.drop_eq_getElem_cons hlt, hy, List.mem_cons, not_or] at hx
      have ht := ih (i + 1) hx.2 hlt (by omega)
      simp [eraseScan, hv, hx.1, ht]

/-- On a vector without duplicates the restarting walk erases the element. -/
theorem eraseScan_erase (x : α) (n : Nat) (pre post : List α) (hnd : (pre ++ post).Nodup)
    (hx : x ∉ pre) (hn : (pre ++ post).length + post.length + 2 ≤ n) :
    eraseScan x n (pre ++ post) pre.length = some (pre ++ post.erase x) := by
  induction post generalizing pre n with
  | nil =>
    obtain ⟨n, rfl⟩ : ∃ m, n = m + 1 := ⟨n - 1, by omega⟩
    simp [eraseScan]
  | cons y post ih =>
    obtain ⟨n, rfl⟩ : ∃ m, n = m + 1 := ⟨n - 1, by omega⟩
    have hy : (pre ++ y :: post)[pre.length]? = some y := by simp
    by_cases hxy : x = y
    · subst hxy
      have he : (pre ++ x :: post).eraseIdx pre.length = pre ++ post := by
        rw [List.eraseIdx_append_of_length_le (Nat.le_refl _), Nat.sub_self,
          List.eraseIdx_cons_zero]
      have hm : x ∉ pre ++ post := (List.nodup_middle.mp hnd).notMem
      have hd : x ∉ (pre ++ post).drop 1 := fun h => hm (List.mem_of_mem_drop h)
      simp only [eraseScan, hy, he, if_true, List.erase_cons_head]
      by_cases h0 : pre ++ post = []
      · simp [h0]
      · have hl := List.length_pos_iff.mpr h0
        rw [if_neg h0, eraseScan_absent x n _ 1 hd hl]
        simp only [List.length_append, List.length_cons] at hn ⊢
        omega
    · have ht := ih n (pre ++ [y]) (by simpa using hnd) (by simp [hx, hxy])
        (by simp only [List.length_append, List.length_cons, List.length_nil] at hn ⊢; omega)
      rw [List.length_append, List.append_assoc, List.append_assoc] at ht
      simp only [eraseScan, hy, hxy, if_false]
      simpa [List.erase_cons, Ne.symm hxy] using ht

/-- What the walk over a keyed vector leaves behind: the value under `k`
rewritten by `g`, or no entry when `g` empties it. -/
def strike (k : κ) (g : List α → List α) (m : List (κ × List α)) : List (κ × List α) :=
  m.filterMap fun x =>
    if k = x.1 then (if g x.2 = [] then none else some (x.1, g x.2)) else some x

omit [DecidableEq α] in
theorem strike_absent (k : κ) (g : List α → List α) (m : List (κ × List α))
    (hk : ∀ x ∈ m, k ≠ x.1) : strike k g m = m := by
  induction m with
  | nil => rfl
  | cons x m ih =>
    have hm := ih fun y hy => hk y (List.mem_cons_of_mem _ hy)
    simp only [strike] at hm ⊢
    rw [List.filterMap_cons_some (by rw [if_neg (hk x List.mem_cons_self)]), hm]

theorem eraseKeyScan_absent (k : κ) (f : List α → Option (List α)) (n : Nat)
    (m : List (κ × List α)) (i : Nat) (hk : ∀ x ∈ m.drop i, k ≠ x.1) (hi : i ≤ m.length)
    (hn : m.length < n + i) : eraseKeyScan k f n m i = some m := by
  induction n generalizing i with
  | zero => omega
  | succ n ih =>
    cases hm : m[i]? with
    | none => simp [eraseKeyScan, hm]
    | some x =>
      obtain ⟨hlt, hx⟩ := List.getElem?_eq_some_iff.mp hm
      rw [List.drop_eq_getElem_cons hlt, hx] at hk
      have hne : k ≠ x.1 := hk x List.mem_cons_self
      have ht := ih (i + 1) (fun y hy => hk y (List.mem_cons_of_mem _ hy)) hlt (by omega)
      simp [eraseKeyScan, hm, hne, ht]

omit [DecidableEq α] in
theorem strike_found {k : κ} {g : List α → List α} {x : κ × List α} {post : List (κ × List α)}
    (hkx : k = x.1) (hpost : ∀ y ∈ post, k ≠ y.1) :
    strike k g (x :: post) = if g x.2 = [] then post else (x.1, g x.2) :: post := by
  have hs := strike_absent k g post hpost
  by_cases hg : g x.2 = []
  · rw [strike, List.filterMap_cons_none (by rw [if_pos hkx, if_pos hg]), if_pos hg]
    exact hs
  · rw [strike, List.filterMap_cons_some (by rw [if_pos hkx, if_neg hg]), if_neg hg]
    exact congrArg _ hs

theorem eraseKeyScan_found {k : κ} {f : List α → Option (List α)} {n : Nat}
    {pre post : List (κ × List α)} {x : κ × List α} {v : List α} (hkx : k = x.1)
    (hfx : f x.2 = some v) (hall : ∀ y ∈ pre ++ post, k ≠ y.1)
    (hn : (pre ++ post).length < n) :
    eraseKeyScan k f (n + 1) (pre ++ x :: post) pre.length =
      some (pre ++ if v = [] then post else (x.1, v) :: post) := by
  have hx : (pre ++ x :: post)[pre.length]? = some x := by simp
  rw [eraseKeyScan, hx]
  cases v with
  | nil =>
    have he : (pre ++ x :: post).eraseIdx pre.length = pre ++ post := by
      rw [List.eraseIdx_append_of_length_le (Nat.le_refl _), Nat.sub_self,
        List.eraseIdx_cons_zero]
    simp only [hkx, if_true, hfx, he]
    by_cases h0 : pre ++ post = []
    · simp [h0]
    · have hl := List.length_pos_iff.mpr h0
      rw [if_neg h0, ← hkx]
      exact eraseKeyScan_absent k f n _ 1 (fun y hy => hall y (List.mem_of_mem_drop hy)) hl
        (by omega)
  | cons z zs =>
    have hset : (pre ++ x :: post).set pre.length (x.1, z :: zs) =
        pre ++ (x.1, z :: zs) :: post := by
      rw [List.set_append_right _ _ (Nat.le_refl _), Nat.sub_self, List.set_cons_zero]
    have hd : (pre ++ (x.1, z :: zs) :: post).drop (pre.length + 1) = post := by
      simp [List.drop_append]
    rw [if_neg (List.cons_ne_nil z zs)]
    simp only [hkx, if_true, hfx, hset]
    rw [← hkx]
    refine eraseKeyScan_absent k f n _ _ ?_ ?_ ?_
    · rw [hkx, hd, ← hkx]
      exact fun y hy => hall y (List.mem_append_right _ hy)
    · simp only [List.length_append, List.length_cons]; omega
    · simp only [List.length_append, List.length_cons] at hn ⊢; omega

/-- With distinct keys the walk strikes the entry under `k`. -/
theorem eraseKeyScan_strike (k : κ) (f : List α → Option (List α)) (g : List α → List α)
    (n : Nat) (pre post : List (κ × List α)) (hf : ∀ x ∈ post, k = x.1 → f x.2 = some (g x.2))
    (hnd : ((pre ++ post).map Prod.fst).Nodup) (hk : ∀ x ∈ pre, k ≠ x.1)
    (hn : (pre ++ post).length + post.length + 2 ≤ n) :
    eraseKeyScan k f n (pre ++ post) pre.length = some (pre ++ strike k g post) := by
  induction post generalizing pre n with
  | nil =>
    obtain ⟨n, rfl⟩ : ∃ m, n = m + 1 := ⟨n - 1, by omega⟩
    simp [eraseKeyScan, strike]
  | cons x post ih =>
    obtain ⟨n, rfl⟩ : ∃ m, n = m + 1 := ⟨n - 1, by omega⟩
    simp only [List.length_append, List.length_cons] at hn
    by_cases hkx : k = x.1
    · have hpost : ∀ y ∈ post, k ≠ y.1 := by
        rw [List.map_append, List.map_cons] at hnd
        have hm := (List.nodup_middle.mp hnd).notMem
        rw [← hkx] at hm
        exact fun y hy he => hm (List.mem_append_right _ (List.mem_map.mpr ⟨y, hy, he.symm⟩))
      rw [strike_found hkx hpost]
      refine eraseKeyScan_found hkx (hf x List.mem_cons_self hkx) ?_ ?_
      · exact fun y hy => (List.mem_append.mp hy).elim (hk y) (hpost y)
      · rw [List.length_append]; omega
    · have hx : (pre ++ x :: post)[pre.length]? = some x := by simp
      have hpre : ∀ y ∈ pre ++ [x], k ≠ y.1 := by
        intro y hy
        obtain hy | hy := List.mem_append.mp hy
        · exact hk y hy
        · rw [List.mem_singleton.mp hy]; exact hkx
      have ht := ih n (pre ++ [x]) (fun y hy => hf y (List.mem_cons_of_mem _ hy))
        (by simpa using hnd) hpre
        (by simp only [List.length_append, List.length_cons, List.length_nil]; omega)
      have hst : strike k g (x :: post) = x :: strike k g post := by
        rw [strike, List.filterMap_cons_some (by rw [if_neg hkx])]
        rfl
      rw [List.length_append, List.append_assoc, List.append_assoc] at ht
      rw [hst, eraseKeyScan, hx]
      simpa [hkx] using ht

section Tables

/-- What is left of the list under a key when the pairs of `ps` are taken out. -/
def rest (ps : List (κ × α)) (x : κ × List α) : List α := x.2.filter fun y => (x.1, y) ∉ ps

/-- What is left of a table of lists; an empty list leaves no entry. -/
def remaining (m : List (κ × List α)) (ps : List (κ × α)) : List (κ × List α) :=
  m.filterMap fun x => if rest ps x = [] then none else some (x.1, rest ps x)

/-- Take one pair out of a table by the two walks. -/
def eraseEntry (m : List (κ × List α)) (p : κ × α) : Option (List (κ × List α)) :=
  eraseKeyScan p.1 (fun v => eraseScan p.2 (2 * v.length + 2) v 0) (2 * m.length + 2) m 0

variable {m : List (κ × List α)} {ps : List (κ × α)} {p : κ × α}

theorem rest_append_ne {x : κ × List α} (h : p.1 ≠ x.1) : rest (ps ++ [p]) x = rest ps x := by
  apply List.filter_congr
  intro y _
  have hne : (x.1, y) ≠ p := fun he => h (congrArg Prod.fst he).symm
  simp [hne]

theorem rest_append_eq {x : κ × List α} (hx : x.2.Nodup) (h : p.1 = x.1) :
    rest (ps ++ [p]) x = (rest ps x).erase p.2 := by
  have hnd : (rest ps x).Nodup := hx.filter _
  rw [hnd.erase_eq_filter, rest, rest, List.filter_filter]
  apply List.filter_congr
  intro y _
  by_cases hy : y = p.2
  · simp [hy, ← h]
  · have hne : (x.1, y) ≠ p := fun he => hy (congrArg Prod.snd he)
    simp [hne, hy]

theorem keys_remaining (hk : (m.map Prod.fst).Nodup) : ((remaining m ps).map Prod.fst).Nodup := by
  refine hk.sublist ?_
  induction m with
  | nil => exact List.Sublist.refl _
  | cons x m ih =>
    have hm := ih (List.nodup_cons.mp hk).2
    rw [remaining, List.filterMap_cons]
    by_cases h0 : rest ps x = []
    · rw [if_pos h0]
      exact hm.cons _
    · rw [if_neg h0]
      exact hm.cons_cons _

theorem strike_remaining (hv : ∀ x ∈ m, x.2.Nodup) :
    strike p.1 (fun v => v.erase p.2) (remaining m ps) = remaining m (ps ++ [p]) := by
  rw [strike, remaining, List.filterMap_filterMap, remaining]
  apply List.filterMap_congr
  intro x hx
  by_cases hk : p.1 = x.1
  · rw [rest_append_eq (hv x hx) hk]
    by_cases h0 : rest ps x = []
    · simp [h0]
    · simp [h0, hk]
  · rw [rest_append_ne hk]
    by_cases h0 : rest ps x = []
    · simp [h0]
    · simp [h0, hk]

theorem eraseEntry_remaining (hk : (m.map Prod.fst).Nodup) (hv : ∀ x ∈ m, x.2.Nodup) :
    eraseEntry (remaining m ps) p = some (remaining m (ps ++ [p])) := by
  have hf : ∀ x ∈ remaining m ps, p.1 = x.1 →
      eraseScan p.2 (2 * x.2.length + 2) x.2 0 = some (x.2.erase p.2) := by
    intro x hx _
    obtain ⟨y, hy, he⟩ := List.mem_filterMap.mp hx
    have hnd : x.2.Nodup := by
      by_cases h0 : rest ps y = []
      · simp [h0] at he
      · simp only [h0, if_false, Option.some.injEq] at he
        rw [← he]
        exact (hv y hy).filter _
    exact eraseScan_erase p.2 _ [] x.2 hnd (by simp) (by simp; omega)
  have h := eraseKeyScan_strike p.1 (fun v => eraseScan p.2 (2 * v.length + 2) v 0)
    (fun v => v.erase p.2) (2 * (remaining m ps).length + 2) [] (remaining m ps) hf
    (keys_remaining hk) (by simp) (by simp; omega)
  rw [strike_remaining hv] at h
  exact h

/-- The walks over a table whose lists are without duplicates take out exactly
the given pairs, however many there are and wherever they stand. -/
theorem foldlM_eraseEntry (ps : List (κ × α)) (hk : (m.map Prod.fst).Nodup)
    (hv : ∀ x ∈ m, x.2.Nodup) (hne : ∀ x ∈ m, x.2 ≠ []) :
    ps.foldlM eraseEntry m = some (remaining m ps) := by
  have hrun : ∀ qs : List (κ × α),
      ps.foldlM eraseEntry (remaining m qs) = some (remaining m (qs ++ ps)) := by
    induction ps with
    | nil => simp
    | cons p ps ih =>
      intro qs
      rw [List.foldlM_cons, eraseEntry_remaining hk hv]
      simpa using ih (qs ++ [p])
  have hnil : remaining m [] = m := by
    refine (List.filterMap_congr fun x hx => ?_).trans List.filterMap_some
    have hrest : rest [] x = x.2 := by simp [rest]
    rw [hrest, if_neg (hne x hx)]
  have h := hrun []
  rwa [hnil, List.nil_append] at h

end Tables

end JiraGame.Lib.EraseLoop
