import JiraGame.Wiring

namespace JiraGame.TimerLoops

open JiraGame.Scene JiraGame.Command JiraGame.DBServer JiraGame.Cache JiraGame.ServerState
open JiraGame.KeepAlive JiraGame.Server JiraGame.Heartbeats JiraGame.Wiring JiraGame.Runs
open JiraGame.Lib.History

/-- Loop `j` runs for the entity at an address. -/
def RunsFor (h : Heart) (j addr : Nat) : Prop :=
  ∃ l, h.loops[j]? = some l ∧ l.running = true ∧ l.self = addr

def runningLoops (h : Heart) (addr : Nat) : List Nat :=
  (List.range h.loops.length).filter fun j =>
    (h.loops[j]?).any fun l => l.running && l.self = addr

def stopCall (h : Heart) : Beat → Option CClientEntity
  | .reconnect s => h.client s
  | .tick _ _ (some ptr) =>
    ((h.info ptr).bind fun info => h.client info.clientSocket).filter fun e =>
      30 ≤ e.m_iSendMsgCount
  | _ => none

/-- The loops that ran when `StopTimerMutex` was called for their entity, and
whether one of them called back later. -/
structure Stops where
  asked : List Nat := []
  late : Bool := false

def watchStops (o : Stops) (h : Heart) (b : Beat) : Stops where
  asked :=
    match stopCall h b with
    | some e => o.asked ++ runningLoops h e.addr
    | none => o.asked
  late :=
    match b with
    | .tick j _ _ => o.late || decide (j ∈ o.asked)
    | _ => o.late

def stops {DB : Type} (tr : List (Process DB × Action)) : Stops := felt {} watchStops tr

def Alive (h : Heart) (e : CClientEntity) : Prop := (∃ s, h.client s = some e) ∨ e ∈ h.erased

/-- At most one loop of an entity is alive and not asked to stop. -/
def Alone (h : Heart) : Prop := ∀ e, Alive h e → e.m_ThreadPower = false →
  ∀ j k, RunsFor h j e.addr → RunsFor h k e.addr → j = k

/-- Besides, a loop that was once asked to stop has not called back since. -/
structure SingleLoop (o : Stops) (h : Heart) : Prop where
  alone : Alone h
  obeyed : o.late = false

/-- A keep-alive message starts a loop only for an entity without a running loop. -/
def StartsAlone (h : Heart) : Beat → Prop
  | .keepAlive s _ => ∀ e, h.client s = some e → e.m_HasThread = false → ∀ j, ¬RunsFor h j e.addr
  | _ => True

/-- The flags of the stored entities and the loops that were asked to stop. -/
structure Flagged (o : Stops) (h : Heart) : Prop where
  asked_lt : ∀ j ∈ o.asked, j < h.loops.length
  threaded : ∀ s e, h.client s = some e → e.m_ThreadPower = false → e.m_HasThread = true →
    ∃ k, RunsFor h k e.addr ∧ k ∉ o.asked
  fresh : ∀ s e, h.client s = some e → e.m_ThreadPower = false → e.m_HasThread = false →
    ∀ l ∈ h.loops, l.self ≠ e.addr

section Loops

variable {h h' : Heart} {o : Stops} {s : SOCKET} {e e' : CClientEntity} {j k a : Nat}

theorem mem_runningLoops : j ∈ runningLoops h a ↔ RunsFor h j a := by
  rw [runningLoops, List.mem_filter, List.mem_range, Option.any_eq_true]
  refine ⟨?_, ?_⟩
  · rintro ⟨-, l, hl, hr⟩
    obtain ⟨hrun, hself⟩ := Bool.and_eq_true_iff.mp hr
    exact ⟨l, hl, hrun, of_decide_eq_true hself⟩
  · rintro ⟨l, hl, hrun, rfl⟩
    exact ⟨(List.getElem?_eq_some_iff.mp hl).1, l, hl, by simp [hrun]⟩

theorem runningLoops_eq_nil : runningLoops h a = [] ↔ ∀ j, ¬RunsFor h j a := by
  rw [List.eq_nil_iff_forall_not_mem]
  simp only [mem_runningLoops]

instance (h : Heart) (b : Beat) : Decidable (StartsAlone h b) :=
  match b with
  | .keepAlive s _ =>
    decidable_of_iff (∀ e ∈ h.client s, e.m_HasThread = false → runningLoops h e.addr = []) <| by
      simp only [runningLoops_eq_nil, StartsAlone, Option.mem_def]
  | .rest | .connect _ _ | .reconnect _ | .look _ _ | .finish _ | .tick _ _ _ =>
    inferInstanceAs (Decidable True)

theorem RunsFor.congr (hl : h'.loops = h.loops) : RunsFor h' j a ↔ RunsFor h j a := by
  rw [RunsFor, RunsFor, hl]

theorem RunsFor.inj {b : Nat} (ha : RunsFor h j a) (hb : RunsFor h j b) : a = b := by
  obtain ⟨l, hl, -, rfl⟩ := ha
  obtain ⟨l', hl', -, rfl⟩ := hb
  rw [hl] at hl'
  cases hl'
  rfl

@[simp] theorem report_loops (h : Heart) (s : SOCKET) (m : UnPacket) :
    (h.report s m).loops = h.loops := by
  rw [Heart.report]
  repeat' split
  all_goals rfl

theorem runsFor_startLoop (m : UnPacket) : RunsFor (h.startLoop s m e) j a ↔
    RunsFor h j a ∨ j = h.loops.length ∧ a = e.addr := by
  have hloops : (h.startLoop s m e).loops = h.loops ++ [{ self := e.addr, sockClient := s }] := rfl
  rw [RunsFor, hloops]
  refine ⟨?_, ?_⟩
  · rintro ⟨l, hl, hrun, rfl⟩
    obtain hlt | hge := Nat.lt_or_ge j h.loops.length
    · rw [List.getElem?_append_left hlt] at hl
      exact .inl ⟨l, hl, hrun, rfl⟩
    · rw [List.getElem?_append_right hge, List.getElem?_singleton] at hl
      split at hl
      · cases hl
        exact .inr ⟨by omega, rfl⟩
      · cases hl
  · rintro (⟨l, hl, hrun, rfl⟩ | ⟨rfl, rfl⟩)
    · refine ⟨l, ?_, hrun, rfl⟩
      rw [List.getElem?_append_left (List.getElem?_eq_some_iff.mp hl).1]
      exact hl
    · exact ⟨_, List.getElem?_concat_length, rfl, rfl⟩

theorem runsFor_finish : RunsFor (h.apply (.finish k)) j a ↔ RunsFor h j a ∧ j ≠ k := by
  have hloops : (h.apply (.finish k)).loops =
      h.loops.modify k fun l => { l with running := false } := rfl
  rw [RunsFor, hloops]
  simp only [List.getElem?_modify]
  refine ⟨?_, ?_⟩
  · rintro ⟨l, hl, hrun, rfl⟩
    obtain ⟨l₀, hl₀, rfl⟩ := Option.map_eq_some_iff.mp hl
    by_cases hjk : k = j
    · simp [hjk] at hrun
    · simp only [if_neg hjk] at hrun ⊢
      exact ⟨⟨l₀, hl₀, hrun, rfl⟩, Ne.symm hjk⟩
  · rintro ⟨⟨l, hl, hrun, rfl⟩, hjk⟩
    exact ⟨l, by simp [hl, Ne.symm hjk], hrun, rfl⟩

end Loops

section Flags

variable {h h' : Heart} {o : Stops} {b : Beat} {s : SOCKET} {e e' : CClientEntity}

theorem Flagged.setClient (hf : Flagged o h) (hs : h.client s = some e) (haddr : e'.addr = e.addr)
    (hpower : e'.m_ThreadPower = e.m_ThreadPower) (hthread : e'.m_HasThread = e.m_HasThread) :
    Flagged o (h.setClient s (some e')) where
  asked_lt := hf.asked_lt
  threaded := by
    intro t f hc hp ht
    obtain ⟨-, rfl⟩ | ⟨-, hc⟩ := of_setClient hc
    · rw [haddr]
      exact hf.threaded s e hs (hpower.symm.trans hp) (hthread.symm.trans ht)
    · exact hf.threaded t f hc hp ht
  fresh := by
    intro t f hc hp ht
    obtain ⟨-, rfl⟩ | ⟨-, hc⟩ := of_setClient hc
    · rw [haddr]
      exact hf.fresh s e hs (hpower.symm.trans hp) (hthread.symm.trans ht)
    · exact hf.fresh t f hc hp ht

theorem Flagged.ask {late : Bool} (hw : Wired h) (hf : Flagged o h) (hs : h.client s = some e)
    (hothers : ∀ t f, h'.client t = some f → f.m_ThreadPower = false → h.client t = some f ∧ t ≠ s)
    (hl : h'.loops = h.loops) :
    Flagged { asked := o.asked ++ runningLoops h e.addr, late := late } h' where
  asked_lt := by
    intro j hj
    rw [hl]
    obtain hj | hj := List.mem_append.mp hj
    · exact hf.asked_lt j hj
    · obtain ⟨l, hl, -⟩ := mem_runningLoops.mp hj
      exact (List.getElem?_eq_some_iff.mp hl).1
  threaded := by
    intro t f hc hp ht
    obtain ⟨hc, hts⟩ := hothers t f hc hp
    obtain ⟨k, hk, hasked⟩ := hf.threaded t f hc hp ht
    refine ⟨k, (RunsFor.congr hl).mpr hk, fun hmem => ?_⟩
    obtain hmem | hmem := List.mem_append.mp hmem
    · exact hasked hmem
    · exact hts (hw.addr_inj t s f e hc hs (hk.inj (mem_runningLoops.mp hmem)))
  fresh := by
    intro t f hc hp ht
    rw [hl]
    exact hf.fresh t f (hothers t f hc hp).1 hp ht

theorem Flagged.startLoop (hw : Wired h) (hf : Flagged o h) (hs : h.client s = some e)
    (haddr : e'.addr = e.addr) (m : UnPacket) : Flagged o (h.startLoop s m e') where
  asked_lt := by
    intro j hj
    have hlt := hf.asked_lt j hj
    rw [Heart.startLoop, List.length_append]
    omega
  threaded := by
    intro t f hc hp ht
    obtain ⟨-, rfl⟩ | ⟨-, hc⟩ := of_startLoop hc
    · refine ⟨h.loops.length, (runsFor_startLoop m).mpr (.inr ⟨rfl, rfl⟩), fun hj => ?_⟩
      exact Nat.lt_irrefl _ (hf.asked_lt _ hj)
    · obtain ⟨k, hk, hasked⟩ := hf.threaded t f hc hp ht
      exact ⟨k, (runsFor_startLoop m).mpr (.inl hk), hasked⟩
  fresh := by
    intro t f hc hp ht l hl
    obtain ⟨-, rfl⟩ | ⟨hts, hc⟩ := of_startLoop hc
    · cases ht
    · obtain hl | hl := List.mem_append.mp hl
      · exact hf.fresh t f hc hp ht l hl
      · rw [List.mem_singleton.mp hl]
        exact fun heq => hts (hw.addr_inj t s f e hc hs (heq.symm.trans haddr))

theorem stopCall_tick {j now : Nat} {arg : Option Nat} (hw : Wired h)
    (hb : h.Enabled (.tick j now arg)) : ∃ l e ptr, h.loops[j]? = some l ∧ l.running = true ∧
      h.client l.sockClient = some e ∧ e.addr = l.self ∧ e.m_ThreadPower = false ∧
      e.m_pTimeFuncArg = some ptr ∧
      (stopCall h (.tick j now arg) = if 30 ≤ e.m_iSendMsgCount then some e else none) ∧
      h.apply (.tick j now arg) = { (if 30 ≤ e.m_iSendMsgCount then h.dismiss l.sockClient ptr e
        else h.setClient l.sockClient (some (counted e))) with preTime := some now } := by
  obtain ⟨l, e, ptr, info, hl, hrun, hs, haddr, hpower, -, hptr, rfl, -, hi, hsock, happ⟩ := hw.tick hb
  refine ⟨l, e, ptr, hl, hrun, hs, haddr, hpower, hptr, ?_, happ⟩
  rw [stopCall, hi, Option.bind_some, hsock, hs]
  by_cases hlate : 30 ≤ e.m_iSendMsgCount
  · rw [if_pos hlate, Option.filter_some, if_pos (decide_eq_true hlate)]
  · rw [if_neg hlate, Option.filter_some, if_neg (by simpa using hlate)]

theorem Flagged.of_time {now : Option Nat} (hf : Flagged o h) :
    Flagged o { h with preTime := now } := ⟨hf.asked_lt, hf.threaded, hf.fresh⟩

theorem Flagged.of_late {late : Bool} (hf : Flagged o h) :
    Flagged { o with late := late } h := ⟨hf.asked_lt, hf.threaded, hf.fresh⟩

theorem flagged_resting : Flagged {} restingHeart := by
  constructor <;> simp [restingHeart]

theorem Flagged.connect (hw : Wired h) (hf : Flagged o h) (junk : Int) :
    Flagged o (h.apply (.connect s junk)) where
  asked_lt := hf.asked_lt
  threaded := by
    intro t f hc hp ht
    obtain ⟨-, rfl⟩ | ⟨-, hc⟩ := of_connect hc
    · cases ht
    · exact hf.threaded t f hc hp ht
  fresh := by
    intro t f hc hp ht
    obtain ⟨-, rfl⟩ | ⟨-, hc⟩ := of_connect hc
    · exact fun l hl => Nat.ne_of_lt (hw.loop_lt l hl)
    · exact hf.fresh t f hc hp ht

theorem Flagged.report (hf : Flagged o h) (s : SOCKET) (m : UnPacket) :
    Flagged o (h.report s m) where
  asked_lt := by
    rw [report_loops]
    exact hf.asked_lt
  threaded := by
    intro t f hc hp ht
    rw [report_client] at hc
    obtain ⟨k, hk, hasked⟩ := hf.threaded t f hc hp ht
    exact ⟨k, (RunsFor.congr (report_loops h s m)).mpr hk, hasked⟩
  fresh := by
    intro t f hc hp ht
    rw [report_client] at hc
    rw [report_loops]
    exact hf.fresh t f hc hp ht

theorem Flagged.finish {j : Nat} (hw : Wired h) (hf : Flagged o h) (hb : h.Enabled (.finish j)) :
    Flagged o (h.apply (.finish j)) where
  asked_lt := by
    intro k hk
    rw [Heart.apply, List.length_modify]
    exact hf.asked_lt k hk
  threaded := by
    intro t f hc hp ht
    obtain ⟨l, e, hl, he, -, hstop⟩ := hb
    obtain ⟨k, hk, hasked⟩ := hf.threaded t f hc hp ht
    refine ⟨k, runsFor_finish.mpr ⟨hk, ?_⟩, hasked⟩
    rintro rfl
    obtain ⟨l₁, hl₁, -, hself⟩ := hk
    rw [hl] at hl₁
    cases hl₁
    have hc : h.client t = some f := hc
    have hsock := hw.loop_sock l (List.mem_of_getElem? hl) t f hc hself.symm
    have hentity : h.entity l = some f := by
      rw [Heart.entity, hsock, hc]
      simp [hself]
    rw [he] at hentity
    cases hentity
    rw [hstop] at hp
    cases hp
  fresh := by
    intro t f hc hp ht l hl
    obtain ⟨l₀, hl₀, hself, -⟩ := mem_modify hl
    rw [← hself]
    exact hf.fresh t f hc hp ht l₀ hl₀

theorem flagged_apply (hw : Wired h) (hf : Flagged o h) (hb : h.Enabled b) :
    Flagged (watchStops o h b) (h.apply b) := by
  cases b with
  | rest => exact hf
  | connect s junk => exact hf.connect hw junk
  | reconnect s =>
    obtain ⟨e, hs⟩ := Option.ne_none_iff_exists'.mp hb
    have hask : watchStops o h (.reconnect s) =
        { asked := o.asked ++ runningLoops h e.addr, late := o.late } := by
      simp only [watchStops, stopCall, hs]
    rw [hask, Heart.apply, hs]
    refine hf.ask hw hs (fun t f hc hp => ?_) rfl
    obtain ⟨-, rfl⟩ | ⟨hts, hc⟩ := of_setClient hc
    · cases hp
    · exact ⟨hc, hts⟩
  | keepAlive s m =>
    rw [Heart.apply]
    cases hs : h.client s with
    | none => exact hf
    | some e =>
      have hs' : (h.report s m).client s = some e := by rw [report_client, hs]
      dsimp only
      split
      · exact (hf.report s m).setClient hs' rfl rfl rfl
      · have haddr : (answered e).addr = e.addr := rfl
        exact (hf.report s m).startLoop (hw.report s m) hs' haddr m
  | look j now => exact ⟨hf.asked_lt, hf.threaded, hf.fresh⟩
  | finish j => exact hf.finish hw hb
  | tick j now arg =>
    obtain ⟨l, e, ptr, -, -, hs, -, -, -, hcall, happ⟩ := stopCall_tick hw hb
    rw [happ, watchStops, hcall]
    by_cases hlate : 30 ≤ e.m_iSendMsgCount
    · simp only [if_pos hlate]
      exact (hf.ask hw hs (fun t f hc _ => of_dismiss hc) rfl).of_time
    · simp only [if_neg hlate]
      have hkept : Flagged { asked := o.asked, late := o.late || decide (j ∈ o.asked) }
          (h.setClient l.sockClient (some (counted e))) := hf.of_late.setClient hs rfl rfl rfl
      exact hkept.of_time

end Flags

section Single

variable {h h' : Heart} {o : Stops} {b : Beat} {s : SOCKET} {e e' : CClientEntity}

theorem Alone.mono (ha : Alone h) (hr : ∀ j a, RunsFor h' j a → RunsFor h j a)
    (he : ∀ x, Alive h' x → x.m_ThreadPower = false →
      ∃ y, Alive h y ∧ y.m_ThreadPower = false ∧ y.addr = x.addr) : Alone h' := by
  intro x hx hp j k hj hk
  obtain ⟨y, hy, hpy, haddr⟩ := he x hx hp
  rw [← haddr] at hj hk
  exact ha y hy hpy j k (hr j _ hj) (hr k _ hk)

theorem Alone.congr (ha : Alone h) (hc : h'.client = h.client) (hg : h'.erased = h.erased)
    (hr : ∀ j a, RunsFor h' j a → RunsFor h j a) : Alone h' := by
  refine ha.mono hr fun x hx hp => ⟨x, ?_, hp, rfl⟩
  rw [Alive, hc, hg] at hx
  exact hx

theorem Alone.setClient (ha : Alone h) (hs : h.client s = some e) (haddr : e'.addr = e.addr)
    (hpower : e'.m_ThreadPower = false → e.m_ThreadPower = false) :
    Alone (h.setClient s (some e')) := by
  refine ha.mono (fun _ _ hj => hj) fun x hx hp => ?_
  obtain ⟨t, hc⟩ | hg := hx
  · obtain ⟨-, rfl⟩ | ⟨-, hc⟩ := of_setClient hc
    · exact ⟨e, .inl ⟨s, hs⟩, hpower hp, haddr.symm⟩
    · exact ⟨x, .inl ⟨t, hc⟩, hp, rfl⟩
  · exact ⟨x, .inr hg, hp, rfl⟩

theorem Alone.dismiss {ptr : Nat} (ha : Alone h) : Alone (h.dismiss s ptr e) := by
  refine ha.mono (fun _ _ hj => hj) fun x hx hp => ⟨x, ?_, hp, rfl⟩
  obtain ⟨t, hc⟩ | hg := hx
  · exact .inl ⟨t, (of_dismiss hc).1⟩
  · obtain hg | hg := List.mem_append.mp hg
    · exact .inr hg
    · rw [List.mem_singleton.mp hg] at hp
      cases hp

theorem Alone.connect (hw : Wired h) (ha : Alone h) (junk : Int) :
    Alone (h.apply (.connect s junk)) := by
  intro x hx hp j k hj hk
  obtain ⟨t, hc⟩ | hg := hx
  · obtain ⟨-, rfl⟩ | ⟨-, hc⟩ := of_connect hc
    · obtain ⟨l, hl, -, hself⟩ := hj
      exact absurd hself (Nat.ne_of_lt (hw.loop_lt l (List.mem_of_getElem? hl)))
    · exact ha x (.inl ⟨t, hc⟩) hp j k hj hk
  · exact ha x (.inr hg) hp j k hj hk

/-- Starting a loop clears the stop of all loops of the entity. -/
theorem alone_startLoop_iff (hw : Wired h) (ha : Alone h) (hs : h.client s = some e)
    (haddr : e'.addr = e.addr) (m : UnPacket) :
    Alone (h.startLoop s m e') ↔ ∀ j, ¬RunsFor h j e.addr := by
  have hself : (h.startLoop s m e').client s = some (timed h.nextAddr e') := by
    have hset : (h.setClient s (some (timed h.nextAddr e'))).client s = _ := client_setClient h s s _
    rw [if_pos rfl] at hset
    exact hset
  refine ⟨fun hall j hj => ?_, fun hnone x hx hp j k hj hk => ?_⟩
  · have hlt : j < h.loops.length := by
      obtain ⟨l, hl, -⟩ := hj
      exact (List.getElem?_eq_some_iff.mp hl).1
    have hold : RunsFor (h.startLoop s m e') j (timed h.nextAddr e').addr :=
      (runsFor_startLoop m).mpr (.inl (haddr ▸ hj))
    have hnew : RunsFor (h.startLoop s m e') h.loops.length (timed h.nextAddr e').addr :=
      (runsFor_startLoop m).mpr (.inr ⟨rfl, rfl⟩)
    have heq := hall _ (.inl ⟨s, hself⟩) rfl j h.loops.length hold hnew
    omega
  · rw [runsFor_startLoop] at hj hk
    obtain ⟨t, hc⟩ | hg := hx
    · obtain ⟨-, rfl⟩ | ⟨hts, hc⟩ := of_startLoop hc
      · have hnot : ∀ i, ¬RunsFor h i (timed h.nextAddr e').addr := fun i hi => by
          have haddr' : (timed h.nextAddr e').addr = e.addr := haddr
          rw [haddr'] at hi
          exact hnone i hi
        rw [(hj.resolve_left (hnot j)).1, (hk.resolve_left (hnot k)).1]
      · have hne : x.addr ≠ e'.addr := by
          rw [haddr]
          exact fun heq => hts (hw.addr_inj t s x e hc hs heq)
        exact ha x (.inl ⟨t, hc⟩) hp j k (hj.resolve_right fun h => hne h.2)
          (hk.resolve_right fun h => hne h.2)
    · rw [hw.gone_stopped x hg] at hp
      cases hp

/-- A loop that was asked to stop does not call back while its entity has no
second loop. -/
theorem not_asked_of_tick {j : Nat} {l : TimerLoop} (hf : Flagged o h) (ha : Alone h)
    (hl : h.loops[j]? = some l) (hrun : l.running = true) (hs : h.client l.sockClient = some e)
    (haddr : e.addr = l.self) (hpower : e.m_ThreadPower = false) : j ∉ o.asked := by
  have hj : RunsFor h j e.addr := ⟨l, hl, hrun, haddr.symm⟩
  cases hthread : e.m_HasThread with
  | false =>
    exact absurd haddr.symm
      (hf.fresh l.sockClient e hs hpower hthread l (List.mem_of_getElem? hl))
  | true =>
    obtain ⟨k, hk, hasked⟩ := hf.threaded l.sockClient e hs hpower hthread
    rw [ha e (.inl ⟨_, hs⟩) hpower j k hj hk]
    exact hasked

theorem single_apply_iff (hw : Wired h) (hf : Flagged o h) (hs : SingleLoop o h)
    (hb : h.Enabled b) : SingleLoop (watchStops o h b) (h.apply b) ↔ StartsAlone h b := by
  have hsingle : Alone (h.apply b) → (watchStops o h b).late = false → StartsAlone h b →
      (SingleLoop (watchStops o h b) (h.apply b) ↔ StartsAlone h b) :=
    fun ha hl hc => iff_of_true ⟨ha, hl⟩ hc
  cases b with
  | rest => exact hsingle hs.alone hs.obeyed trivial
  | connect s junk => exact hsingle (hs.alone.connect hw junk) hs.obeyed trivial
  | reconnect s =>
    obtain ⟨e, he⟩ := Option.ne_none_iff_exists'.mp hb
    refine hsingle ?_ hs.obeyed trivial
    rw [Heart.apply, he]
    exact hs.alone.setClient he rfl fun hp => by cases hp
  | keepAlive s m =>
    have hlate : (watchStops o h (.keepAlive s m)).late = false := hs.obeyed
    have hreport : Alone (h.report s m) := by
      refine hs.alone.congr (report_client h s m) ?_ fun j a hj => ?_
      · rw [Heart.report]
        repeat' split
        all_goals rfl
      · exact (RunsFor.congr (report_loops h s m)).mp hj
    have hboth : SingleLoop (watchStops o h (.keepAlive s m)) (h.apply (.keepAlive s m)) ↔
        Alone (h.apply (.keepAlive s m)) := ⟨fun h => h.alone, fun ha => ⟨ha, hlate⟩⟩
    rw [hboth, Heart.apply, StartsAlone]
    cases he : h.client s with
    | none => exact iff_of_true hs.alone fun e h => by cases h
    | some e =>
      have he' : (h.report s m).client s = some e := by rw [report_client, he]
      dsimp only
      by_cases hthread : e.m_HasThread = true
      · rw [if_pos hthread]
        refine iff_of_true (hreport.setClient he' rfl id) fun f hf ht => ?_
        cases hf
        rw [hthread] at ht
        cases ht
      · rw [if_neg hthread]
        have haddr : (answered e).addr = e.addr := rfl
        rw [alone_startLoop_iff (hw.report s m) hreport he' haddr]
        have hruns : ∀ j, RunsFor (h.report s m) j e.addr ↔ RunsFor h j e.addr :=
          fun j => RunsFor.congr (report_loops h s m)
        simp only [hruns]
        refine ⟨fun hnone f hf _ => ?_, fun hall => hall e rfl (by simpa using hthread)⟩
        cases hf
        exact hnone
  | look j now => exact hsingle (hs.alone.congr rfl rfl fun _ _ hj => hj) hs.obeyed trivial
  | finish j =>
    exact hsingle (hs.alone.congr rfl rfl fun _ _ hj => (runsFor_finish.mp hj).1) hs.obeyed trivial
  | tick j now arg =>
    obtain ⟨l, e, ptr, hl, hrun, he, haddr, hpower, -, -, happ⟩ := stopCall_tick hw hb
    have hasked := not_asked_of_tick hf hs.alone hl hrun he haddr hpower
    refine hsingle ?_ (by simp [watchStops, hs.obeyed, hasked]) trivial
    rw [happ]
    have hkept : Alone (if 30 ≤ e.m_iSendMsgCount then h.dismiss l.sockClient ptr e
        else h.setClient l.sockClient (some (counted e))) := by
      split
      · exact hs.alone.dismiss
      · exact hs.alone.setClient he rfl id
    exact hkept.congr rfl rfl fun _ _ hj => hj

end Single

section Runs

variable {DB : Type} {sqlite : Sqlite DB} {db : DB} {tr : List (Process DB × Action)}
  {st : Process DB}

/-- In all states of a run an entity has at most one loop that is alive and not
asked to stop, and no loop ever calls back after it was asked to, if and only if no
keep-alive message starts a loop while an old one of the entity still runs. -/
theorem single_loop_iff (h : ServerRun sqlite db tr st) :
    (∀ x ∈ points tr st, SingleLoop (stops x.1) (heart x.2)) ↔
      ∀ x ∈ tr, StartsAlone (heart x.1) (beat x.1 x.2) := by
  refine felt_always_iff (J := Flagged) (I := SingleLoop) (C := StartsAlone) flagged_resting
    (fun _ _ _ hw hf hb => flagged_apply hw hf hb) ?_
    (fun _ _ _ hw hf hs hb => single_apply_iff hw hf hs hb) h
  refine ⟨?_, rfl⟩
  rintro e (⟨s, hs⟩ | hs) <;> cases hs

end Runs

section Example

def orderlyReturn : List Action := [.accept 7 0, keepAlive 7 .CS_WaitRoom] ++ ticks 0 1 ++
  [.close 7, .accept 7 0, .poll 0 3, keepAlive 7 .CS_WaitRoom, .poll 1 5]

theorem orderly_return_single : ∃ tr st, ServerRun noTables () tr st ∧
    actions tr = orderlyReturn ∧ ∀ x ∈ points tr st, SingleLoop (stops x.1) (heart x.2) := by
  obtain ⟨tr, st, hrun, hact, hp⟩ := exists_run noTables () orderlyReturn
    (fun tr _ => tr.all fun x => decide (StartsAlone (heart x.1) (beat x.1 x.2)))
    (by decide +kernel)
  refine ⟨tr, st, hrun, hact, (single_loop_iff hrun).mpr fun x hx => ?_⟩
  exact of_decide_eq_true (List.all_eq_true.mp hp x hx)

/-- A client whose keep-alive message comes before its old loop has polled. -/
def hastyReturn : List Action := [.accept 7 0, keepAlive 7 .CS_WaitRoom, .close 7, .accept 7 0,
  keepAlive 7 .CS_WaitRoom, .poll 0 0, .poll 0 2]

/-- The accept stopped loop 0, but the new loop's start cleared the stop: both run,
and loop 0 calls back again. -/
theorem hasty_return_doubles : ∃ tr st, ServerRun noTables () tr st ∧ actions tr = hastyReturn ∧
    (stops tr).asked = [0] ∧ (stops tr).late = true ∧
    (∃ e, st.cache.GetEntity 7 = some e ∧ runningLoops (heart st) e.addr = [0, 1]) ∧
    ¬∀ x ∈ points tr st, SingleLoop (stops x.1) (heart x.2) := by
  obtain ⟨tr, st, hrun, hact, hp⟩ := exists_run noTables () hastyReturn
    (fun tr st => decide ((stops tr).asked = [0]) && ((stops tr).late &&
      (st.cache.GetEntity 7).any fun e => decide (runningLoops (heart st) e.addr = [0, 1])))
    (by decide +kernel)
  obtain ⟨hasked, hp⟩ := Bool.and_eq_true_iff.mp hp
  obtain ⟨hlate, hp⟩ := Bool.and_eq_true_iff.mp hp
  obtain ⟨e, he, hloops⟩ := (Option.any_eq_true _ _).mp hp
  refine ⟨tr, st, hrun, hact, of_decide_eq_true hasked, hlate,
    ⟨e, he, of_decide_eq_true hloops⟩, fun hall => ?_⟩
  have hobeyed := (hall _ self_mem_points).obeyed
  rw [hlate] at hobeyed
  cases hobeyed

end Example

end JiraGame.TimerLoops
