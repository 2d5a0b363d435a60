import Mathlib.Data.List.Basic

namespace JiraGame.Lib.History

variable {σ α ω : Type}

/-- The runs of a transition relation. A run is recorded by the states it left
and the actions it took there, latest first. -/
inductive Run (step : σ → α → σ → Prop) (start : σ) : List (σ × α) → σ → Prop
  | nil : Run step start [] start
  | cons {tr : List (σ × α)} {s s' : σ} {a : α} :
      Run step start tr s → step s a s' → Run step start ((s, a) :: tr) s'

/-- The points of a run: each state it visits, with the run up to there. -/
def points : List (σ × α) → σ → List (List (σ × α) × σ)
  | [], s => [([], s)]
  | (t, a) :: tr, s => ((t, a) :: tr, s) :: points tr t

/-- The steps of a run, each with the run up to there. -/
def moments : List (σ × α) → List (List (σ × α) × σ × α)
  | [] => []
  | x :: tr => (tr, x) :: moments tr

/-- What an observer knows after a run, when it starts from `init` and sees
each state that is left with the action taken there. -/
def observe (init : ω) (see : ω → σ → α → ω) : List (σ × α) → ω
  | [] => init
  | (s, a) :: tr => see (observe init see tr) s a

def execute (next : σ → α → Option σ) : List α → List (σ × α) × σ → Option (List (σ × α) × σ)
  | [], x => some x
  | a :: as, x => (next x.2 a).bind fun t => execute next as ((x.2, a) :: x.1, t)

def actions (tr : List (σ × α)) : List α := (tr.map Prod.snd).reverse

variable {step : σ → α → σ → Prop} {start : σ} {tr : List (σ × α)} {s : σ}

theorem self_mem_points : (tr, s) ∈ points tr s := by
  cases tr <;> exact List.mem_cons_self

theorem points_cons {t : σ} {a : α} {x : List (σ × α) × σ} :
    x ∈ points ((t, a) :: tr) s ↔ x = ((t, a) :: tr, s) ∨ x ∈ points tr t := by
  simp [points]

theorem suffix_of_mem_moments {x : List (σ × α) × σ × α} (h : x ∈ moments tr) :
    x.2 :: x.1 <:+ tr := by
  induction tr with
  | nil => cases h
  | cons y tr ih =>
    obtain rfl | h := List.mem_cons.mp h
    · exact List.suffix_refl _
    · exact (ih h).trans (List.suffix_cons y tr)

theorem forall_moments {C : σ → α → Prop} :
    (∀ x ∈ moments tr, C x.2.1 x.2.2) ↔ ∀ x ∈ tr, C x.1 x.2 := by
  induction tr with
  | nil => simp [moments]
  | cons y tr ih =>
    rw [moments, List.forall_mem_cons, List.forall_mem_cons, ih]

/-- Every point of a run ends a run of its own. -/
theorem Run.of_mem_points (h : Run step start tr s) :
    ∀ x ∈ points tr s, Run step start x.1 x.2 := by
  induction h with
  | nil =>
    intro x hx
    simp only [points, List.mem_singleton] at hx
    rw [hx]
    exact Run.nil
  | cons hr hstep ih =>
    intro x hx
    obtain rfl | hx := points_cons.mp hx
    · exact Run.cons hr hstep
    · exact ih x hx

theorem Run.of_mem (h : Run step start tr s) : ∀ x ∈ tr, ∃ pre t, Run step start pre x.1 ∧
    step x.1 x.2 t ∧ (pre, x.1) ∈ points tr s ∧ (x :: pre, t) ∈ points tr s := by
  induction h with
  | nil =>
    intro x hx
    cases hx
  | @cons tr s s' a hr hstep ih =>
    intro x hx
    obtain rfl | hx := List.mem_cons.mp hx
    · exact ⟨tr, s', hr, hstep, points_cons.mpr (.inr self_mem_points), points_cons.mpr (.inl rfl)⟩
    · obtain ⟨pre, t, hpre, hst, hx1, ht⟩ := ih x hx
      exact ⟨pre, t, hpre, hst, points_cons.mpr (.inr hx1), points_cons.mpr (.inr ht)⟩

theorem Run.invariant {I : σ → Prop} (h0 : I start)
    (hs : ∀ s a s', I s → step s a s' → I s') (h : Run step start tr s) : I s := by
  induction h with
  | nil => exact h0
  | cons _ hstep ih => exact hs _ _ _ ih hstep

/-- An invariant of a state and the run that led to it, under a condition on
the steps. -/
theorem Run.always {I : List (σ × α) → σ → Prop} {C : σ → α → Prop} (h0 : I [] start)
    (hs : ∀ tr s a s', Run step start tr s → I tr s → C s a → step s a s' → I ((s, a) :: tr) s')
    (h : Run step start tr s) (hc : ∀ x ∈ tr, C x.1 x.2) : I tr s := by
  induction h with
  | nil => exact h0
  | @cons tr s s' a hr hstep ih =>
    have hi := ih fun x hx => hc x (List.mem_cons_of_mem _ hx)
    exact hs tr s a s' hr hi (hc (s, a) List.mem_cons_self) hstep

/-- What the start does not have was put there by a step of the run, and every
state since then has it. -/
theorem Run.origin {H : σ → Prop} {G : List (σ × α) → σ → α → Prop} (h0 : ¬H start)
    (hs : ∀ tr s a s', Run step start tr s → step s a s' → H s' → H s ∨ G tr s a)
    (h : Run step start tr s) (hx : H s) : ∃ post pre t a, tr = post ++ (t, a) :: pre ∧
      Run step start pre t ∧ G pre t a ∧ ∀ y ∈ post, H y.1 := by
  induction h with
  | nil => exact absurd hx h0
  | @cons tr s s' a hr hstep ih =>
    obtain hold | hnew := hs tr s a s' hr hstep hx
    · obtain ⟨post, pre, t, b, rfl, hpre, hputs, hpost⟩ := ih hold
      exact ⟨(s, a) :: post, pre, t, b, rfl, hpre, hputs, List.forall_mem_cons.mpr ⟨hold, hpost⟩⟩
    · exact ⟨[], tr, s, a, rfl, hr, hnew, fun y hy => by cases hy⟩

theorem Run.before {post pre : List (σ × α)} {t : σ} {a : α}
    (h : Run step start (post ++ (t, a) :: pre) s) : Run step start pre t := by
  induction post generalizing s with
  | nil =>
    cases h with
    | cons hr _ => exact hr
  | cons y post ih =>
    cases h with
    | cons hr _ => exact ih hr

/-- What every step keeps holds from any state of a run on. -/
theorem Run.forward {P : σ → Prop} {post pre : List (σ × α)} {t : σ} {a : α}
    (hs : ∀ tr s a s', Run step start tr s → step s a s' → P s → P s')
    (h : Run step start (post ++ (t, a) :: pre) s) (ht : P t) : P s := by
  induction post generalizing s with
  | nil =>
    cases h with
    | cons hr hstep => exact hs _ _ _ _ hr hstep ht
  | cons y post ih =>
    cases h with
    | cons hr hstep => exact hs _ _ _ _ hr hstep (ih hr)

/-- A property that each step from a good point keeps exactly when the step
meets `C` holds at all points of a run exactly when all its steps meet `C`. -/
theorem Run.moments_iff {I : List (σ × α) → σ → Prop} {C : List (σ × α) → σ → α → Prop}
    (h0 : I [] start) (h : Run step start tr s)
    (hs : ∀ pre t a t', (pre, t, a) ∈ moments tr → Run step start pre t → I pre t → step t a t' →
      (I ((t, a) :: pre) t' ↔ C pre t a)) :
    (∀ x ∈ points tr s, I x.1 x.2) ↔ ∀ x ∈ moments tr, C x.1 x.2.1 x.2.2 := by
  induction h with
  | nil => simpa [points, moments] using h0
  | @cons tr s s' a hr hstep ih =>
    have hlast : (tr, s, a) ∈ moments ((s, a) :: tr) := List.mem_cons_self
    have ih := ih fun pre t b t' hx => hs pre t b t' (List.mem_cons_of_mem _ hx)
    refine ⟨?_, ?_⟩
    · intro hall x hx
      have hpre : ∀ x ∈ points tr s, I x.1 x.2 := fun x hx => hall x (points_cons.mpr (.inr hx))
      obtain rfl | hx := List.mem_cons.mp hx
      · have hnow : I ((s, a) :: tr) s' := hall _ (points_cons.mpr (.inl rfl))
        exact (hs tr s a s' hlast hr (hpre _ self_mem_points) hstep).mp hnow
      · exact ih.mp hpre x hx
    · intro hall x hx
      have hpre : ∀ x ∈ points tr s, I x.1 x.2 :=
        ih.mpr fun x hx => hall x (List.mem_cons_of_mem _ hx)
      obtain rfl | hx := points_cons.mp hx
      · exact (hs tr s a s' hlast hr (hpre _ self_mem_points) hstep).mpr (hall _ hlast)
      · exact hpre x hx

theorem Run.always_iff {I : List (σ × α) → σ → Prop} {C : σ → α → Prop} (h0 : I [] start)
    (hs : ∀ tr s a s', Run step start tr s → I tr s → step s a s' → (I ((s, a) :: tr) s' ↔ C s a))
    (h : Run step start tr s) :
    (∀ x ∈ points tr s, I x.1 x.2) ↔ ∀ x ∈ tr, C x.1 x.2 :=
  (Run.moments_iff (C := fun _ t a => C t a) h0 h fun pre t a t' _ => hs pre t a t').trans
    forall_moments

/-- Executing actions gives a run with exactly these actions. -/
theorem run_of_execute {next : σ → α → Option σ}
    (hn : ∀ s a s', next s a = some s' → step s a s') {as : List α} {x y : List (σ × α) × σ}
    (hr : Run step start x.1 x.2) (h : execute next as x = some y) :
    Run step start y.1 y.2 ∧ actions y.1 = actions x.1 ++ as := by
  induction as generalizing x with
  | nil =>
    cases h
    exact ⟨hr, (List.append_nil _).symm⟩
  | cons a as ih =>
    obtain ⟨t, ht, he⟩ := Option.bind_eq_some_iff.mp h
    obtain ⟨hrun, hact⟩ := ih (Run.cons hr (hn _ _ _ ht)) he
    refine ⟨hrun, ?_⟩
    rw [hact]
    simp [actions]

theorem Run.extend_execute {next : σ → α → Option σ}
    (hn : ∀ s a s', next s a = some s' → step s a s') (hr : Run step start tr s) {as : List α}
    {P : List (σ × α) → σ → Bool} (h : (execute next as (tr, s)).any (fun y => P y.1 y.2) = true) :
    ∃ tr' s', Run step start tr' s' ∧ actions tr' = actions tr ++ as ∧ P tr' s' = true := by
  obtain ⟨y, hy, hP⟩ := (Option.any_eq_true _ _).mp h
  obtain ⟨hrun, hact⟩ := run_of_execute hn hr hy
  exact ⟨y.1, y.2, hrun, hact, hP⟩

theorem exists_of_execute {next : σ → α → Option σ}
    (hn : ∀ s a s', next s a = some s' → step s a s') {as : List α} {P : List (σ × α) → σ → Bool}
    (h : (execute next as ([], start)).any (fun y => P y.1 y.2) = true) :
    ∃ tr s, Run step start tr s ∧ actions tr = as ∧ P tr s = true :=
  Run.extend_execute hn Run.nil h

end JiraGame.Lib.History
