import JiraGame.Callbacks

namespace JiraGame.Deadlines

open JiraGame.Scene JiraGame.Command JiraGame.DBServer JiraGame.Cache JiraGame.HallScene
open JiraGame.ServerState JiraGame.KeepAlive JiraGame.Server JiraGame.Heartbeats JiraGame.Wiring JiraGame.Runs
open JiraGame.Refinement JiraGame.Callbacks JiraGame.Lib.History JiraGame.Lib.Fails

variable {DB : Type}

/-- The callbacks for each client since its last keep-alive message or accept. -/
def watchTicks (o : SOCKET → Nat) (h : Heart) : Beat → SOCKET → Nat
  | .connect s _ | .reconnect s | .keepAlive s _ => Function.update o s 0
  | .tick _ _ arg =>
    match arg.bind h.info with
    | some info => Function.update o info.clientSocket (o info.clientSocket + 1)
    | none => o
  | _ => o

def unanswered (tr : List (Process DB × Action)) : SOCKET → Nat := felt (fun _ => 0) watchTicks tr

/-- The count and the flag of an entity after `n` unanswered callbacks. -/
def Tracks (n : Nat) (e : CClientEntity) : Prop :=
  (e.m_pTimeFuncArg = none → n = 0) ∧ (e.m_pTimeFuncArg ≠ none →
    e.m_iSendMsgCount = n ∧ e.isBroken = decide (4 ≤ n ∧ n ≤ 10) ∧ n ≤ 30)

def Counted (o : SOCKET → Nat) (h : Heart) : Prop := ∀ s e, h.client s = some e → Tracks (o s) e

section Beats

variable {h : Heart} {b : Beat} {o : SOCKET → Nat} {s : SOCKET} {e : CClientEntity} {n : Nat}

theorem leaveBand_iff (hn : e.m_iSendMsgCount = n) : leaveBand e = true ↔ 3 ≤ n ∧ n < 10 := by
  rw [leaveBand, hn, Bool.and_eq_true, decide_eq_true_eq, decide_eq_true_eq]
  omega

theorem breakBand_iff (hn : e.m_iSendMsgCount = n) : breakBand e = true ↔ 10 ≤ n ∧ n < 30 := by
  rw [breakBand, hn, Bool.and_eq_true, decide_eq_true_eq, decide_eq_true_eq]
  omega

theorem tracks_welcomed (e : CClientEntity) : Tracks 0 (welcomed e) :=
  ⟨fun _ => rfl, fun _ => ⟨rfl, rfl, by omega⟩⟩

theorem tracks_answered (e : CClientEntity) : Tracks 0 (answered e) :=
  ⟨fun _ => rfl, fun _ => ⟨rfl, rfl, by omega⟩⟩

theorem tracks_timed (ptr : Nat) (e : CClientEntity) : Tracks 0 (timed ptr (answered e)) :=
  ⟨fun _ => rfl, fun _ => ⟨rfl, rfl, by omega⟩⟩

theorem Tracks.counted (ht : Tracks n e) (harg : e.m_pTimeFuncArg ≠ none)
    (hearly : e.m_iSendMsgCount < 30) : Tracks (n + 1) (counted e) := by
  obtain ⟨hcount, hbroken, -⟩ := ht.2 harg
  have hlt : n < 30 := by omega
  have hflag : (Heartbeats.counted e).isBroken = decide (4 ≤ n + 1 ∧ n + 1 ≤ 10) := by
    rw [Heartbeats.counted]
    dsimp only
    by_cases hleave : 3 ≤ n ∧ n < 10
    · rw [if_pos ((leaveBand_iff hcount).mpr hleave)]
      exact (decide_eq_true (by omega)).symm
    · rw [if_neg (mt (leaveBand_iff hcount).mp hleave)]
      by_cases hbreak : 10 ≤ n ∧ n < 30
      · rw [if_pos ((breakBand_iff hcount).mpr hbreak)]
        exact (decide_eq_false (by omega)).symm
      · rw [if_neg (mt (breakBand_iff hcount).mp hbreak), hbroken]
        exact decide_eq_decide.mpr (by omega)
  refine ⟨fun hnone => absurd hnone harg, fun _ => ⟨?_, hflag, by omega⟩⟩
  have hnext : (Heartbeats.counted e).m_iSendMsgCount = e.m_iSendMsgCount + 1 := rfl
  omega

theorem Counted.setClient (hc : Counted o h) (ht : Tracks n e) :
    Counted (Function.update o s n) (h.setClient s (some e)) := by
  intro t f hf
  obtain ⟨rfl, rfl⟩ | ⟨hts, hf⟩ := of_setClient hf
  · rw [Function.update_self]
    exact ht
  · rw [Function.update_of_ne hts]
    exact hc t f hf

theorem Counted.update_of_none (hc : Counted o h) (hs : h.client s = none) :
    Counted (Function.update o s n) h := by
  intro t f hf
  have hts : t ≠ s := by
    rintro rfl
    rw [hs] at hf
    cases hf
  rw [Function.update_of_ne hts]
  exact hc t f hf

theorem counted_apply (hw : Wired h) (hc : Counted o h) (hb : h.Enabled b) :
    Counted (watchTicks o h b) (h.apply b) := by
  cases b with
  | rest => exact hc
  | connect s junk =>
    have hnew : Tracks 0 (newcomer h.nextAddr s junk) := ⟨fun _ => rfl, fun hne => absurd rfl hne⟩
    exact hc.setClient hnew
  | reconnect s =>
    obtain ⟨e, hs⟩ := Option.ne_none_iff_exists'.mp hb
    rw [Heart.apply, hs]
    exact hc.setClient (tracks_welcomed e)
  | keepAlive s m =>
    rw [Heart.apply, watchTicks]
    cases hs : h.client s with
    | none => exact hc.update_of_none hs
    | some e =>
      have hreport : Counted o (h.report s m) := by
        rw [Counted, report_client]
        exact hc
      dsimp only
      split
      · exact hreport.setClient (tracks_answered e)
      · exact hreport.setClient (tracks_timed _ e)
  | look j now => exact hc
  | finish j => exact hc
  | tick j now arg =>
    obtain ⟨l, e, ptr, info, -, -, hs, -, -, -, hptr, rfl, -, hi, hsock, happ⟩ := hw.tick hb
    have harg : e.m_pTimeFuncArg ≠ none := by
      rw [hptr]
      exact Option.some_ne_none ptr
    rw [happ, watchTicks, Option.bind_some, hi]
    dsimp only
    rw [hsock]
    by_cases hlate : 30 ≤ e.m_iSendMsgCount
    · rw [if_pos hlate]
      have hgone : Counted o (h.dismiss l.sockClient ptr e) :=
        fun t f hf => hc t f (of_dismiss hf).1
      refine hgone.update_of_none ?_
      have hnone : (h.setClient l.sockClient none).client l.sockClient = none := by
        rw [client_setClient, if_pos rfl]
      exact hnone
    · rw [if_neg hlate]
      exact hc.setClient ((hc _ e hs).counted harg (by omega))

theorem erased_only (hw : Wired h) (hb : h.Enabled b) (hs : h.client s = some e)
    (hgone : (h.apply b).client s = none) :
    30 ≤ e.m_iSendMsgCount ∧ ∃ j now, b = .tick j now e.m_pTimeFuncArg := by
  have hkept : h.client s ≠ none := by
    rw [hs]
    exact Option.some_ne_none e
  have hreport : ∀ t m, (h.report t m).client s ≠ none := by
    intro t m
    rw [report_client]
    exact hkept
  cases b with
  | rest | look | finish => exact absurd hgone hkept
  | connect t junk => exact absurd hgone (setClient_ne_none hkept)
  | reconnect t =>
    obtain ⟨f, ht⟩ := Option.ne_none_iff_exists'.mp hb
    rw [Heart.apply, ht] at hgone
    exact absurd hgone (setClient_ne_none hkept)
  | keepAlive t m =>
    rw [Heart.apply] at hgone
    cases ht : h.client t with
    | none =>
      simp only [ht] at hgone
      exact absurd hgone hkept
    | some f =>
      simp only [ht] at hgone
      split at hgone
      · exact absurd hgone (setClient_ne_none (hreport t m))
      · exact absurd hgone (setClient_ne_none (hreport t m))
  | tick j now arg =>
    obtain ⟨l, f, ptr, info, -, -, ht, -, -, -, hptr, rfl, -, -, -, happ⟩ := hw.tick hb
    rw [happ] at hgone
    by_cases hlate : 30 ≤ f.m_iSendMsgCount
    · simp only [if_pos hlate] at hgone
      have hsame : s = l.sockClient := by
        have hset' : (h.setClient l.sockClient none).client s = none := hgone
        rw [client_setClient] at hset'
        split at hset'
        · assumption
        · exact absurd hset' hkept
      rw [hsame, ht] at hs
      cases hs
      exact ⟨hlate, j, now, by rw [hptr]⟩
    · simp only [if_neg hlate] at hgone
      exact absurd hgone (setClient_ne_none hkept)

end Beats

section Ticks

variable {c : CCache} {s : SOCKET} {scene : CurScene} {e : CClientEntity} {n : Nat}

theorem countedTick_eq (ht : Tracks n e) (harg : e.m_pTimeFuncArg ≠ none) (hn : n < 30) :
    countedTick s scene e c = numberedTick (n + 1) s scene c := by
  obtain ⟨hcount, hbroken, -⟩ := ht.2 harg
  have hleave := Bool.eq_iff_iff.mpr ((leaveBand_iff hcount).trans decide_eq_true_iff.symm)
  have hbreak := Bool.eq_iff_iff.mpr ((breakBand_iff hcount).trans decide_eq_true_iff.symm)
  rw [countedTick, hleave, hbreak, hbroken, numberedTick]
  have hbands : n < 3 ∨ n = 3 ∨ (4 ≤ n ∧ n < 10) ∨ n = 10 ∨ (11 ≤ n ∧ n < 30) := by omega
  obtain hearly | rfl | ⟨hfour, hten⟩ | rfl | ⟨heleven, hthirty⟩ := hbands
  · simp [show ¬(3 ≤ n ∧ n < 10) by omega, show ¬(10 ≤ n ∧ n < 30) by omega,
      show ¬n + 1 = 4 by omega, show ¬n + 1 = 11 by omega, show n + 1 < 4 by omega]
    rfl
  · -- the flag is still off, so the leave happens
    by_cases hscene : scene = .CS_WaitRoom
    · simp [hscene]
      cases KeepAlive.LeaveRoom s c with
      | error f => rfl
      | ok x => simp [bind, Except.bind]
    · simp [hscene]
      rfl
  · simp [show 3 ≤ n ∧ n < 10 by omega, show 4 ≤ n ∧ n ≤ 10 by omega,
      show ¬n + 1 = 4 by omega, show ¬n + 1 = 11 by omega, show ¬n + 1 < 4 by omega,
      show n + 1 ≤ 10 by omega]
    rfl
  · -- the flag is on since the fourth callback, so the notice is sent
    by_cases hscene : scene = .CS_MainScene
    · simp [hscene]
      rfl
    · simp [hscene]
      rfl
  · simp [show ¬(3 ≤ n ∧ n < 10) by omega, show 10 ≤ n ∧ n < 30 by omega,
      show ¬(4 ≤ n ∧ n ≤ 10) by omega, show ¬n + 1 = 4 by omega, show ¬n + 1 = 11 by omega,
      show ¬n + 1 < 4 by omega, show ¬n + 1 ≤ 10 by omega]
    rfl

theorem TimerFunc_numbered {st : Process DB} {ptr : Nat} {info : CKeepAliveInfo} (ht : Tracks n e)
    (harg : e.m_pTimeFuncArg ≠ none) (hi : st.infos[ptr]? = some info)
    (hsock : info.clientSocket = s) (he : st.cache.GetEntity s = some e) :
    NthCallback (n + 1) s info.RecMessage.keepalive.curscene ptr e st (TimerFunc (some ptr) st) := by
  obtain ⟨hcount, -, hle⟩ := ht.2 harg
  rw [TimerFunc, hi]
  dsimp only
  rw [hsock, he]
  dsimp only
  by_cases hlast : n = 30
  · have hstays : left (n + 1) info.RecMessage.keepalive.curscene e st.cache = none :=
      if_neg (by omega)
    rw [if_pos (by omega)]
    refine ⟨fun horphaned => ?_, fun _ => ⟨_, _, rfl, ?_, ?_, ?_, ?_⟩⟩
    · obtain ⟨q, hq, -⟩ := horphaned
      rw [heir, hstays] at hq
      cases hq
    · rw [if_pos (by omega)]
    · intro k
      rw [roomsAfter, hstays]
      rfl
    · intro t
      rw [if_pos (by omega)]
      by_cases hts : t = s
      · simp [evict, CCache.EraseEntity, CCache.GetEntity, hts]
      · simp [evict, CCache.EraseEntity, CCache.GetEntity, Std.TreeMap.getElem?_erase, hts, Ne.symm hts]
    · intro p
      by_cases hp : p = ptr
      · simp [evict, hlast, hp]
      · simp [evict, Std.TreeMap.getElem?_erase, hp, Ne.symm hp]
  · rw [if_neg (by omega), countedTick_eq ht harg (by omega)]
    have hnext : e.m_iSendMsgCount + 1 = (n + 1 : Nat) := by omega
    refine ⟨fun horphaned => ?_, fun hkept => ?_⟩
    · rw [numberedTick_orphaned he horphaned]
      rfl
    · obtain ⟨c', out, htick, hdoes⟩ := numberedTick_does he hnext hkept
      refine ⟨{ st with cache := c' }, out, ?_, ?_, ?_, ?_, ?_⟩
      · rw [htick]
        rfl
      · rw [if_neg (by omega)]
        exact hdoes.out
      · exact congrFun hdoes.room
      · intro t
        rw [if_neg (by omega)]
        exact congrFun hdoes.entity t
      · intro p
        rw [if_neg (by omega)]

end Ticks

section Runs

variable {sqlite : Sqlite DB} {db : DB} {tr : List (Process DB × Action)} {st : Process DB}
  {s : SOCKET} {e : CClientEntity} {ptr : Nat}

theorem counted (h : ServerRun sqlite db tr st) : Counted (unanswered tr) (heart st) :=
  felt_invariant (fun _ _ hs => by cases hs) (fun _ _ _ => counted_apply) h

theorem beat_tick {a : Action} {j now : Nat} (h : beat st a = .tick j now (some ptr)) :
    a = .poll j now ∧ dueArg j now st = some ptr := by
  cases a with
  | accept s junk =>
    rw [beat] at h
    repeat' split at h
    all_goals cases h
  | close s => cases h
  | packet s m rand =>
    rw [beat] at h
    split at h <;> cases h
  | poll j' now' =>
    obtain ⟨rfl, rfl⟩ := turn_tick h
    exact ⟨rfl, (turn_tick_iff st j now ptr).mp h⟩

/-- In every reachable state the count of an entity with a heartbeat record is the
number of its unanswered callbacks, the next callback is the one of that number, and
no step erases the entity but its thirty-first callback. -/
theorem heartbeat_deadlines (h : ServerRun sqlite db tr st) (he : st.cache.GetEntity s = some e)
    (hptr : e.m_pTimeFuncArg = some ptr) :
    e.m_iSendMsgCount = unanswered tr s ∧ unanswered tr s ≤ 30 ∧
    (∃ info : CKeepAliveInfo, st.infos[ptr]? = some info ∧ info.clientSocket = s ∧
      NthCallback (unanswered tr s + 1) s info.RecMessage.keepalive.curscene ptr e st
        (TimerFunc (some ptr) st)) ∧
    ∀ a st', Steps sqlite st a st' → st'.cache.GetEntity s = none →
      unanswered tr s + 1 = 31 ∧ ∃ j now, a = .poll j now ∧ dueArg j now st = some ptr := by
  have hs : (heart st).client s = some (pulse e) := pulses_of_entity he
  have htracks := counted h s (pulse e) hs
  have harg : e.m_pTimeFuncArg ≠ none := by
    rw [hptr]
    exact Option.some_ne_none ptr
  obtain ⟨hcount, hbroken, hle⟩ := htracks.2 harg
  have hcount : e.m_iSendMsgCount = unanswered tr s := hcount
  obtain ⟨-, info, hi, hsock⟩ := (wired h).record s (pulse e) ptr hs hptr
  refine ⟨hcount, hle, ⟨info, hi, hsock, ?_⟩, ?_⟩
  · have htracks : Tracks (unanswered tr s) e := htracks
    exact TimerFunc_numbered htracks harg hi hsock he
  · rintro a st' ⟨out, hstep⟩ hgone
    have hgone : (heart st').client s = none := pulses_eq_none.mpr hgone
    rw [step_heart hstep] at hgone
    obtain ⟨hlate, j, now, hbeat⟩ := erased_only (wired h) (beat_enabled st a) hs hgone
    have hlate : 30 ≤ e.m_iSendMsgCount := hlate
    have hbeat : beat st a = .tick j now (some ptr) := by
      rw [hbeat, ← hptr]
      rfl
    exact ⟨by omega, j, now, beat_tick hbeat⟩

end Runs

section Example

def tenTicks : List Action :=
  [.accept 7 0, .accept 8 0, createRoom 7, joinTeam 8 111111 .Team_A 1, keepAlive 7 .CS_MainScene] ++
    ticks 0 10

def playsOn (st : Process Unit) : Bool :=
  (st.cache.GetEntity 7).any fun e : CClientEntity => decide (e.m_pTimeFuncArg = some 2) &&
    decide (e.roleInfo.name = "") &&
    ((st.cache.FindEntityRoom e.roleInfo.roomid).any fun r =>
      r.playerinfo.any fun q => q.socket = 8) &&
    (st.infos[(2 : Nat)]?).any fun info : CKeepAliveInfo =>
      decide (info.RecMessage.keepalive.curscene = .CS_MainScene)

theorem eleventh_callback_tells : ∃ tr st, ∃ e : CClientEntity, ServerRun noTables () tr st ∧
    actions tr = tenTicks ∧ st.cache.GetEntity 7 = some e ∧ e.m_iSendMsgCount = 10 ∧
    ∃ st' out, TimerFunc (some 2) st = .ok (st', out) ∧ (8, breakNotice "") ∈ out := by
  obtain ⟨tr, st, hrun, hact, hp⟩ := exists_run noTables () tenTicks
    (fun tr st => decide (unanswered tr 7 = 10) && playsOn st) (by decide +kernel)
  obtain ⟨hten, hp⟩ := Bool.and_eq_true_iff.mp hp
  obtain ⟨e, he, hp⟩ := (Option.any_eq_true _ _).mp hp
  simp only [Bool.and_eq_true, Option.any_eq_true, decide_eq_true_eq, List.any_eq_true] at hp
  obtain ⟨⟨⟨hptr, hname⟩, r, hr, q, hq, hsocket⟩, info, hi, hscene⟩ := hp
  have hten : unanswered tr 7 = 10 := of_decide_eq_true hten
  obtain ⟨hcount, -, ⟨info', hi', -, htick⟩, -⟩ := heartbeat_deadlines hrun he hptr
  rw [hten] at hcount htick
  rw [hi] at hi'
  cases hi'
  obtain ⟨st', out, hok, hcalled⟩ := htick.2 fun ⟨x, hx, _⟩ => by
    rw [heir, left, if_neg (by omega)] at hx
    cases hx
  refine ⟨tr, st, e, hrun, hact, he, hcount, st', out, hok, ?_⟩
  rw [hcalled.out, if_neg (by omega), ← hname]
  exact told_iff.mpr ⟨rfl, hscene, r, hr, by decide, q, hq, hsocket⟩

end Example

end JiraGame.Deadlines
