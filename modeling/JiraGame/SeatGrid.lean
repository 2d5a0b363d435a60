import JiraGame.HallScene

namespace JiraGame.SeatGrid

open JiraGame.Scene JiraGame.HallScene JiraGame.Lib.EraseLoop

def taken (ps : List PlayerInfo) (t j : Int) : Bool :=
  ps.any fun p => p.team.toInt - 1 = t ∧ p.teamid = j

def free (ps : List PlayerInfo) (x : Int × List Int) : List Int :=
  x.2.filter fun j => !taken ps x.1 j

/-- The idle seats of a roster; a team with no idle seat has no key. -/
def idleSeats (ps : List PlayerInfo) : List (Int × List Int) :=
  allIdle.filterMap fun x => if free ps x = [] then none else some (x.1, free ps x)

/-- The key and the list entry that a member takes. -/
def gridPlace (p : PlayerInfo) : Int × Int := (p.team.toInt - 1, p.teamid)

theorem taken_iff (ps : List PlayerInfo) (t j : Int) :
    taken ps t j = true ↔ (t, j) ∈ ps.map gridPlace := by
  simp [taken, gridPlace]

theorem free_eq_rest (ps : List PlayerInfo) (x : Int × List Int) :
    free ps x = rest (ps.map gridPlace) x := by
  apply List.filter_congr
  intro j _
  rw [Bool.eq_iff_iff, Bool.not_eq_true', decide_eq_true_eq, ← taken_iff, Bool.not_eq_true]

theorem idleSeats_eq_remaining (ps : List PlayerInfo) :
    idleSeats ps = remaining allIdle (ps.map gridPlace) := by
  apply List.filterMap_congr
  intro x _
  rw [free_eq_rest]

theorem IdleTeam_ID_eq (ps : List PlayerInfo) : IdleTeam_ID ps = some (idleSeats ps) := by
  have h := foldlM_eraseEntry (m := allIdle) (ps.map gridPlace) (by decide) (by decide)
    (by decide)
  rw [List.foldlM_map] at h
  rw [idleSeats_eq_remaining]
  exact h

theorem toInt_teamOfKey (t : Int) (ht : t = 0 ∨ t = 1) : (teamOfKey t).toInt - 1 = t := by
  rcases ht with rfl | rfl <;> rfl

theorem first_idle (ps : List PlayerInfo) (t j : Int) (js : List Int)
    (more : List (Int × List Int)) (h : idleSeats ps = (t, j :: js) :: more) :
    j ∈ [0, 1, 2] ∧ ∀ p ∈ ps, p.seat ≠ (teamOfKey t, j) := by
  have hm : (t, j :: js) ∈ idleSeats ps := by rw [h]; exact List.mem_cons_self
  obtain ⟨x, hx, he⟩ := List.mem_filterMap.mp hm
  by_cases h0 : free ps x = []
  · simp [h0] at he
  · simp only [h0, if_false, Option.some.injEq, Prod.mk.injEq] at he
    obtain ⟨hxt, hxj⟩ := he
    have hj : j ∈ free ps x := by rw [hxj]; exact List.mem_cons_self
    obtain ⟨hj2, hfree⟩ := List.mem_filter.mp hj
    simp only [allIdle, List.mem_cons, List.not_mem_nil, or_false] at hx
    have ht : t = 0 ∨ t = 1 := by rcases hx with rfl | rfl <;> simp_all
    refine ⟨by rcases hx with rfl | rfl <;> exact hj2, ?_⟩
    intro p hp hseat
    have htaken : taken ps x.1 j = true := by
      rw [taken, List.any_eq_true]
      refine ⟨p, hp, ?_⟩
      rw [PlayerInfo.seat, Prod.mk.injEq] at hseat
      rw [hseat.1, hseat.2, toInt_teamOfKey t ht, hxt]
      simp
    rw [htaken] at hfree
    cases hfree

theorem idleSeats_cons_ne (ps : List PlayerInfo) (t : Int) (more : List (Int × List Int)) :
    idleSeats ps ≠ (t, []) :: more := by
  intro h
  have hm : (t, ([] : List Int)) ∈ idleSeats ps := by rw [h]; exact List.mem_cons_self
  obtain ⟨x, _, he⟩ := List.mem_filterMap.mp hm
  by_cases h0 : free ps x = []
  · simp [h0] at he
  · simp [h0] at he

end JiraGame.SeatGrid
