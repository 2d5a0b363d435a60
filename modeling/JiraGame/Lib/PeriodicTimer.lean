import Mathlib.Data.List.Basic

namespace JiraGame.Lib.PeriodicTimer

/-- One poll of a timer: the period and the time it found, and whether it fired. -/
@[ext] structure Poll where
  period : Nat
  time : Nat
  fired : Bool
deriving DecidableEq

/-- When the timer last fired, else its first poll, for a poll at `now`. The polls
before it are latest first. -/
def since : List Poll → Nat → Nat
  | [], now => now
  | p :: ps, _ => if p.fired then p.time else since ps p.time

/-- The timer that fires whenever its period has passed, polled with the given
periods and times. -/
def timer : List (Nat × Nat) → List Poll
  | [] => []
  | (period, time) :: rest =>
    { period := period, time := time
      fired := decide (since (timer rest) time + period ≤ time) } :: timer rest

def asked (ps : List Poll) : List (Nat × Nat) := ps.map fun p => (p.period, p.time)

/-- The polls went as those of a timer that sees nothing else. -/
def Periodic (ps : List Poll) : Prop := ps = timer (asked ps)

instance : DecidablePred Periodic := fun ps => inferInstanceAs (Decidable (ps = timer (asked ps)))

variable {p : Poll} {ps : List Poll} {now last : Nat}

theorem since_le (h : ∀ p ∈ ps, p.time ≤ last) (hn : now ≤ last) : since ps now ≤ last := by
  induction ps generalizing now with
  | nil => exact hn
  | cons p ps ih =>
    rw [since]
    have hp := h p List.mem_cons_self
    split
    · exact hp
    · exact ih (fun q hq => h q (List.mem_cons_of_mem p hq)) hp

theorem periodic_nil : Periodic [] := rfl

theorem periodic_cons :
    Periodic (p :: ps) ↔ (p.fired = true ↔ since ps p.time + p.period ≤ p.time) ∧ Periodic ps := by
  have hstep : timer (asked (p :: ps)) =
      { p with fired := decide (since (timer (asked ps)) p.time + p.period ≤ p.time) } ::
        timer (asked ps) := rfl
  rw [Periodic, hstep, List.cons.injEq, Periodic]
  refine and_congr_left fun hps => ?_
  have hfired : p.fired = decide (since ps p.time + p.period ≤ p.time) ↔
      (p.fired = true ↔ since ps p.time + p.period ≤ p.time) := by
    rw [Bool.eq_iff_iff, decide_eq_true_iff]
  rw [← hps, Poll.ext_iff, ← hfired]
  simp

end JiraGame.Lib.PeriodicTimer
