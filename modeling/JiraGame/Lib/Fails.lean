import Mathlib.Data.List.Basic

namespace JiraGame.Lib.Fails

variable {ε α β : Type} {p : ε → Bool}

/-- A result is an error of a given kind. -/
def fails (p : ε → Bool) : Except ε α → Bool
  | .ok _ => false
  | .error f => p f

@[simp] theorem fails_ok (a : α) : fails p (.ok a : Except ε α) = false := rfl

@[simp] theorem fails_error (f : ε) : fails p (.error f : Except ε α) = p f := rfl

@[simp] theorem fails_map (g : α → β) (x : Except ε α) : fails p (x.map g) = fails p x := by
  cases x <;> rfl

theorem fails_iff (x : Except ε α) : fails p x = true ↔ ∃ f, x = .error f ∧ p f = true := by
  cases x <;> simp

theorem fails_mono {q : ε → Bool} (h : ∀ f, p f = true → q f = true) {x : Except ε α}
    (hx : fails p x = true) : fails q x = true := by
  cases x with
  | ok a => cases hx
  | error f => exact h f hx

theorem fails_bind (x : Except ε α) (k : α → Except ε β) (h : ∀ a, fails p (k a) = false) :
    fails p (x >>= k) = fails p x := by
  cases x with
  | error f => rfl
  | ok a => exact h a

theorem fails_bind_false {x : Except ε α} {k : α → Except ε β} (hx : fails p x = false)
    (hk : ∀ a, fails p (k a) = false) : fails p (x >>= k) = false := by
  rw [fails_bind x k hk, hx]

/-- When all errors are of the kind, a list fails as soon as one entry does. -/
theorem fails_mapM {g : α → Except ε β} (hall : ∀ x f, g x = .error f → p f = true) (xs : List α) :
    fails p (xs.mapM g) = true ↔ ∃ x ∈ xs, fails p (g x) = true := by
  induction xs with
  | nil => exact ⟨nofun, nofun⟩
  | cons x xs ih =>
    rw [List.mapM_cons]
    cases hx : g x with
    | error f => exact ⟨fun h => ⟨x, List.mem_cons_self, by rw [hx]; exact h⟩, fun _ => hall x f hx⟩
    | ok b =>
      have htail : fails p (Except.ok b >>= fun b => xs.mapM g >>= fun bs => pure (b :: bs)) =
          fails p (xs.mapM g) := fails_bind (xs.mapM g) _ fun _ => rfl
      rw [htail, ih]
      simp [hx]

theorem fails_mapM_false {g : α → Except ε β} (h : ∀ x, fails p (g x) = false) (xs : List α) :
    fails p (xs.mapM g) = false := by
  induction xs with
  | nil => rfl
  | cons x xs ih =>
    rw [List.mapM_cons]
    exact fails_bind_false (h x) fun _ => fails_bind_false ih fun _ => rfl

theorem of_bind_ok {x : Except ε α} {k : α → Except ε β} {b : β} (h : x >>= k = .ok b) :
    ∃ a, x = .ok a ∧ k a = .ok b := by
  cases x with
  | error f => cases h
  | ok a => exact ⟨a, rfl, h⟩

theorem of_map_ok {g : α → β} {x : Except ε α} {b : β} (h : x.map g = .ok b) :
    ∃ a, x = .ok a ∧ g a = b := by
  cases x with
  | error f => cases h
  | ok a => exact ⟨a, rfl, Except.ok.inj h⟩

theorem of_any_ok {P : α → Bool} {x : Except ε α} (h : x.toOption.any P = true) :
    ∃ a, x = .ok a ∧ P a = true := by
  cases x with
  | error f => cases h
  | ok a => exact ⟨a, rfl, h⟩

end JiraGame.Lib.Fails
