import JiraGame.Lib.PeriodicTimer
import JiraGame.Wiring

namespace JiraGame.Periods

open JiraGame.Scene JiraGame.Command JiraGame.DBServer JiraGame.Cache JiraGame.ServerState
open JiraGame.KeepAlive JiraGame.Server JiraGame.Heartbeats JiraGame.Wiring JiraGame.Runs
open JiraGame.Lib.History JiraGame.Lib.PeriodicTimer

/-- The period of loop `j`: that of its own entity. -/
def period (h : Heart) (j : Nat) : Nat :=
  (((h.loops[j]?).bind h.entity).map (·.m_iDeltaTime)).getD 0

def watchPolls (o : Nat → List Poll) (h : Heart) : Beat → Nat → List Poll
  | .look j now => Function.update o j ({ period := period h j, time := now, fired := false } :: o j)
  | .tick j now _ => Function.update o j ({ period := period h j, time := now, fired := true } :: o j)
  | _ => o

def polls {DB : Type} (tr : List (Process DB × Action)) : Nat → List Poll :=
  felt (fun _ => []) watchPolls tr

def reading : Beat → Option Nat
  | .look _ now | .tick _ now _ => some now
  | _ => none

def readings {DB : Type} (tr : List (Process DB × Action)) : List Nat :=
  tr.filterMap fun x =>
    match x.2 with
    | .poll _ now => some now
    | _ => none

/-- The time that passed since the latest callback of any loop fits to the time
since the loop's own one: when the own period of one second is over, the common one
is over, and in the very second of its start the common one is not over. -/
def OnTime (o : Nat → List Poll) (h : Heart) : Beat → Prop
  | .look j now | .tick j now _ =>
    (since (o j) now + 1 ≤ now → h.preTime.getD now + 1 < now) ∧
      (since (o j) now = now → now ≤ h.preTime.getD now + 1)
  | _ => True

instance (o : Nat → List Poll) (h : Heart) (b : Beat) : Decidable (OnTime o h b) :=
  match b with
  | .look j now | .tick j now _ => inferInstanceAs (Decidable
      ((since (o j) now + 1 ≤ now → h.preTime.getD now + 1 < now) ∧
        (since (o j) now = now → now ≤ h.preTime.getD now + 1)))
  | .rest | .connect _ _ | .reconnect _ | .keepAlive _ _ | .finish _ =>
    inferInstanceAs (Decidable True)

/-- Every entity with a callback has the period that `Start` sets. -/
def Paced (h : Heart) : Prop :=
  ∀ s e, h.client s = some e → e.m_pTimeFuncArg ≠ none → e.m_iDeltaTime = 1

section Beats

variable {h : Heart} {b : Beat} {o : Nat → List Poll} {s : SOCKET} {e : CClientEntity}
  {l : TimerLoop} {j now : Nat}

theorem Paced.setClient (hp : Paced h) (he : e.m_pTimeFuncArg ≠ none → e.m_iDeltaTime = 1) :
    Paced (h.setClient s (some e)) := by
  intro t f hf
  obtain ⟨-, rfl⟩ | ⟨-, hf⟩ := of_setClient hf
  · exact he
  · exact hp t f hf

theorem paced_apply (hw : Wired h) (hp : Paced h) (hb : h.Enabled b) : Paced (h.apply b) := by
  cases b with
  | rest => exact hp
  | connect s junk => exact hp.setClient fun hne => absurd rfl hne
  | reconnect s =>
    obtain ⟨e, hs⟩ := Option.ne_none_iff_exists'.mp hb
    rw [Heart.apply, hs]
    exact hp.setClient (hp s e hs)
  | keepAlive s m =>
    have hreport : Paced (h.report s m) := by
      rw [Paced, report_client]
      exact hp
    rw [Heart.apply]
    cases hs : h.client s with
    | none => exact hp
    | some e =>
      dsimp only
      split
      · exact hreport.setClient (hp s e hs)
      · exact hreport.setClient (e := timed _ (answered e)) fun _ => rfl
  | look j now => exact hp
  | finish j => exact hp
  | tick j now arg =>
    obtain ⟨l, e, ptr, info, -, -, hs, -, -, -, -, -, -, -, -, happ⟩ := hw.tick hb
    have hkept : Paced (if 30 ≤ e.m_iSendMsgCount then h.dismiss l.sockClient ptr e
        else h.setClient l.sockClient (some (counted e))) := by
      split
      · exact fun t f hf => hp t f (of_dismiss hf).1
      · exact hp.setClient (hp _ e hs)
    rw [happ]
    exact hkept

theorem period_eq (hw : Wired h) (hp : Paced h) (hl : h.loops[j]? = some l)
    (he : h.entity l = some e) (hpower : e.m_ThreadPower = false) :
    e.m_iDeltaTime = 1 ∧ period h j = 1 := by
  obtain ⟨hs, haddr⟩ := hw.stored_of_entity he hpower
  have hone : e.m_iDeltaTime = 1 := hp l.sockClient e hs
    (hw.loop_arg l (List.mem_of_getElem? hl) l.sockClient e hs haddr)
  refine ⟨hone, ?_⟩
  rw [period, hl, Option.bind_some, he, Option.map_some, Option.getD_some, hone]

theorem periodic_update {p : Poll} (ho : ∀ i, Periodic (o i)) :
    (∀ i, Periodic (Function.update o j (p :: o j) i)) ↔
      (p.fired = true ↔ since (o j) p.time + p.period ≤ p.time) := by
  refine ⟨fun hall => ?_, fun hp i => ?_⟩
  · have hj := hall j
    rw [Function.update_self, periodic_cons] at hj
    exact hj.1
  · by_cases hij : i = j
    · subst hij
      rw [Function.update_self, periodic_cons]
      exact ⟨hp, ho i⟩
    · rw [Function.update_of_ne hij]
      exact ho i

theorem mem_watchPolls {i : Nat} {p : Poll} (hp : p ∈ watchPolls o h b i) :
    p ∈ o i ∨ reading b = some p.time := by
  have hupdate : ∀ {j : Nat} {q : Poll}, p ∈ Function.update o j (q :: o j) i → p ∈ o i ∨ p = q := by
    intro j q hp
    by_cases hij : i = j
    · subst hij
      rw [Function.update_self] at hp
      exact (List.mem_cons.mp hp).symm
    · rw [Function.update_of_ne hij] at hp
      exact .inl hp
  cases b with
  | rest | connect | reconnect | keepAlive | finish => exact .inl hp
  | look k now =>
    refine (hupdate hp).imp_right fun hq => ?_
    rw [hq, reading]
  | tick k now arg =>
    refine (hupdate hp).imp_right fun hq => ?_
    rw [hq, reading]

theorem periodic_watch_iff (hw : Wired h) (hp : Paced h) (ho : ∀ i, Periodic (o i))
    (hb : h.Enabled b) (hpast : ∀ i now, reading b = some now → ∀ p ∈ o i, p.time ≤ now) :
    (∀ i, Periodic (watchPolls o h b i)) ↔ OnTime o h b := by
  cases b with
  | rest | connect | reconnect | keepAlive | finish => exact iff_of_true ho trivial
  | look j now =>
    obtain ⟨l, e, hl, he, -, hpower, hdue⟩ := hb
    obtain ⟨hone, hperiod⟩ := period_eq hw hp hl he hpower
    have hsince := since_le (hpast j now rfl) (Nat.le_refl now)
    rw [watchPolls, periodic_update ho, hperiod, OnTime]
    simp only [Bool.false_eq_true, false_iff]
    omega
  | tick j now arg =>
    obtain ⟨l, e, hl, he, -, hpower, hdue, -⟩ := hb
    obtain ⟨hone, hperiod⟩ := period_eq hw hp hl he hpower
    have hsince := since_le (hpast j now rfl) (Nat.le_refl now)
    rw [watchPolls, periodic_update ho, hperiod, OnTime]
    simp only [true_iff]
    omega

end Beats

section Runs

variable {DB : Type} {sqlite : Sqlite DB} {db : DB} {tr : List (Process DB × Action)}
  {st : Process DB}

theorem paced (h : ServerRun sqlite db tr st) : Paced (heart st) :=
  heart_invariant (fun _ _ hs => by cases hs) (fun _ _ => paced_apply) h

theorem reading_turn {h : Heart} {j now t : Nat} (ht : reading (h.turn j now) = some t) :
    t = now := by
  rw [Heart.turn] at ht
  repeat' split at ht
  all_goals cases ht
  all_goals rfl

theorem reading_beat {a : Action} {now : Nat} (h : reading (beat st a) = some now) :
    ∃ j, a = .poll j now := by
  cases a with
  | accept s junk =>
    rw [beat] at h
    repeat' split at h
    all_goals cases h
  | close s => cases h
  | packet s m rand =>
    rw [beat] at h
    split at h <;> cases h
  | poll j t => exact ⟨j, by rw [reading_turn h]⟩

theorem mem_readings {i : Nat} {p : Poll} (hp : p ∈ polls tr i) : p.time ∈ readings tr := by
  induction tr with
  | nil => cases hp
  | cons x tr ih =>
    obtain ⟨st, a⟩ := x
    obtain hp | hp := mem_watchPolls (o := polls tr) hp
    · rw [readings, List.filterMap_cons]
      split
      · exact ih hp
      · exact List.mem_cons_of_mem _ (ih hp)
    · obtain ⟨j, rfl⟩ := reading_beat hp
      exact List.mem_cons_self

/-- With a clock that does not go back, each loop of a run is a periodic timer of
its own if and only if all of its polls are on time. -/
theorem periodic_iff (h : ServerRun sqlite db tr st)
    (hclock : (readings tr).Pairwise fun later earlier => earlier ≤ later) :
    (∀ x ∈ points tr st, ∀ j, Periodic (polls x.1 j)) ↔
      ∀ x ∈ moments tr, OnTime (polls x.1) (heart x.2.1) (beat x.2.1 x.2.2) := by
  have hnone : ∀ j, Periodic ((fun _ => [] : Nat → List Poll) j) := fun _ => periodic_nil
  refine felt_moments_iff (I := fun o _ => ∀ j, Periodic (o j)) (J := fun _ h => Paced h)
    (C := OnTime) (fun _ _ hs => by cases hs) (fun _ _ _ => paced_apply) hnone h ?_
  intro pre st a hmem hw hp ho hb
  refine periodic_watch_iff hw hp ho hb fun i now hnow p hpast => ?_
  obtain ⟨j, rfl⟩ := reading_beat hnow
  have hpast := mem_readings hpast
  have hsub : (readings ((st, .poll j now) :: pre)).Sublist (readings tr) :=
    (suffix_of_mem_moments hmem).sublist.filterMap _
  exact (List.pairwise_cons.mp (hclock.sublist hsub)).1 p.time hpast

end Runs

section Example

def aloneLoop : List Action := [.accept 7 0, keepAlive 7 .CS_WaitRoom, .accept 8 0,
  keepAlive 8 .CS_WaitRoom, .poll 0 0, .poll 0 3]

theorem alone_loop_periodic : ∃ tr st, ServerRun noTables () tr st ∧ actions tr = aloneLoop ∧
    (∀ x ∈ points tr st, ∀ j, Periodic (polls x.1 j)) ∧
    (polls tr 0).map Poll.fired = [true, false] := by
  obtain ⟨tr, st, hrun, hact, hp⟩ := exists_run noTables () aloneLoop
    (fun tr _ => decide ((readings tr).Pairwise fun later earlier => earlier ≤ later) &&
      ((moments tr).all (fun x => decide (OnTime (polls x.1) (heart x.2.1) (beat x.2.1 x.2.2))) &&
        decide ((polls tr 0).map Poll.fired = [true, false]))) (by decide +kernel)
  obtain ⟨hclock, hp⟩ := Bool.and_eq_true_iff.mp hp
  obtain ⟨htime, hfired⟩ := Bool.and_eq_true_iff.mp hp
  refine ⟨tr, st, hrun, hact, (periodic_iff hrun (of_decide_eq_true hclock)).mpr fun x hx => ?_,
    of_decide_eq_true hfired⟩
  exact of_decide_eq_true (List.all_eq_true.mp htime x hx)

def sharedLoop : List Action := [.accept 7 0, keepAlive 7 .CS_WaitRoom, .accept 8 0,
  keepAlive 8 .CS_WaitRoom, .poll 0 0, .poll 1 0, .poll 1 2, .poll 0 3]

def exactSecond : List Action :=
  [.accept 7 0, keepAlive 7 .CS_WaitRoom, .poll 0 0, .poll 0 1]

/-- The callback of the second loop takes the first loop's callback away, and a loop
alone does not call back when exactly its period has passed. -/
theorem loops_disturb_each_other : (∃ tr st, ServerRun noTables () tr st ∧
      actions tr = sharedLoop ∧ (polls tr 0).map Poll.fired = [false, false] ∧
      asked (polls tr 0) = [(1, 3), (1, 0)] ∧
      ¬∀ x ∈ points tr st, ∀ j, Periodic (polls x.1 j)) ∧
    ∃ tr st, ServerRun noTables () tr st ∧ actions tr = exactSecond ∧
      ¬∀ x ∈ points tr st, ∀ j, Periodic (polls x.1 j) := by
  obtain ⟨tr, st, hrun, hact, hp⟩ := exists_run noTables () sharedLoop
    (fun tr _ => decide ((polls tr 0).map Poll.fired = [false, false]) &&
      (decide (asked (polls tr 0) = [(1, 3), (1, 0)]) &&
        !decide (Periodic (polls tr 0)))) (by decide +kernel)
  obtain ⟨tr', st', hrun', hact', hp'⟩ := exists_run noTables () exactSecond
    (fun tr _ => !decide (Periodic (polls tr 0))) (by decide +kernel)
  obtain ⟨hfired, hp⟩ := Bool.and_eq_true_iff.mp hp
  obtain ⟨htimes, hnot⟩ := Bool.and_eq_true_iff.mp hp
  refine ⟨⟨tr, st, hrun, hact, of_decide_eq_true hfired, of_decide_eq_true htimes, fun hall => ?_⟩,
    tr', st', hrun', hact', fun hall => ?_⟩
  · simp [hall _ self_mem_points 0] at hnot
  · simp [hall _ self_mem_points 0] at hp'

end Example

end JiraGame.Periods
