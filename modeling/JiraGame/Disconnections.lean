import JiraGame.Deadlines

namespace JiraGame.Disconnections

open JiraGame.Scene JiraGame.Command JiraGame.DBServer JiraGame.Cache JiraGame.HallScene
open JiraGame.ServerState JiraGame.KeepAlive JiraGame.Server JiraGame.Heartbeats JiraGame.Wiring
open JiraGame.Refinement JiraGame.Deadlines JiraGame.Runs JiraGame.Lib.History

variable {DB : Type}

/-- Four or more callbacks without an answer. -/
def Disconnected (o : SOCKET → Nat) (s : SOCKET) : Prop := 4 ≤ o s

def onlineReply (listed : List (SOCKET × CClientEntity)) : Packet :=
  hallPacket
    { msgtype? := some .HST_OnlineFriend
      friendlist := listed.map fun x =>
        ((({} : PlayerInfo).set_roleid x.2.roleInfo.roleid).set_name x.2.roleInfo.name).set_roomstate
          x.2.roleInfo.roomstate }

/-- Disconnected entities are marked, and no player is shown them as online. -/
structure Marked (o : SOCKET → Nat) (st : Process DB) : Prop where
  broken : ∀ s e, st.cache.GetEntity s = some e → Disconnected o s → e.isBroken = true
  unlisted : ∀ asker req c out, OnlineFriend asker req st.cache = .ok (c, out) →
    ∃ listed : List (SOCKET × CClientEntity), out = [(asker, onlineReply listed)] ∧
      ∀ x ∈ listed, st.cache.GetEntity x.1 = some x.2 ∧ ¬Disconnected o x.1

/-- No callback finds its entity's count in the band of the break notice. -/
def Brief (st : Process DB) : Action → Prop
  | .poll j now => ∀ ptr ∈ dueArg j now st, ∀ info ∈ st.infos[ptr]?,
      ∀ e ∈ st.cache.GetEntity info.clientSocket, ¬(10 ≤ e.m_iSendMsgCount ∧ e.m_iSendMsgCount < 30)
  | _ => True

instance (st : Process DB) (a : Action) : Decidable (Brief st a) :=
  match a with
  | .poll j now => inferInstanceAs (Decidable (∀ ptr ∈ dueArg j now st, ∀ info ∈ st.infos[ptr]?,
      ∀ e ∈ st.cache.GetEntity info.clientSocket,
        ¬(10 ≤ e.m_iSendMsgCount ∧ e.m_iSendMsgCount < 30)))
  | .accept _ _ | .close _ | .packet _ _ _ => inferInstanceAs (Decidable True)

section Lists

variable {o : SOCKET → Nat} {st : Process DB}

theorem mem_GetEntitys {c : CCache} {x : SOCKET × CClientEntity} (hx : x ∈ c.GetEntitys) :
    c.GetEntity x.1 = some x.2 :=
  Std.TreeMap.mem_toList_iff_getElem?_eq_some.mp hx

/-- `OnlineFriend` skips exactly the broken entities and the asker's. -/
theorem marked_iff : Marked o st ↔
    ∀ s e, st.cache.GetEntity s = some e → Disconnected o s → e.isBroken = true := by
  refine ⟨Marked.broken, fun hb => ⟨hb, ?_⟩⟩
  intro asker req c out h
  cases h
  refine ⟨_, rfl, fun x hx => ?_⟩
  obtain ⟨hmem, hshown⟩ := List.mem_filter.mp hx
  have he := mem_GetEntitys hmem
  refine ⟨he, fun hgone => ?_⟩
  rw [hb x.1 x.2 he hgone] at hshown
  cases hshown

end Lists

section Beats

variable {h : Heart} {b : Beat} {o : SOCKET → Nat}

def Shown (o : SOCKET → Nat) (h : Heart) : Prop :=
  ∀ s e, h.client s = some e → Disconnected o s → e.isBroken = true

def Spared : Heart → Beat → Prop :=
  Finds fun e => ¬(10 ≤ e.m_iSendMsgCount ∧ e.m_iSendMsgCount < 30)

theorem shown_iff (hc : Counted o h) : Shown o h ↔ ∀ s e, h.client s = some e → o s ≤ 10 := by
  have hone : ∀ s e, h.client s = some e →
      ((Disconnected o s → e.isBroken = true) ↔ o s ≤ 10) := by
    intro s e hs
    obtain ⟨hnone, hsome⟩ := hc s e hs
    rw [Disconnected]
    by_cases harg : e.m_pTimeFuncArg = none
    · have hzero := hnone harg
      exact iff_of_true (fun h => by omega) (by omega)
    · obtain ⟨-, hbroken, -⟩ := hsome harg
      rw [hbroken, decide_eq_true_iff]
      omega
  refine ⟨fun h s e hs => (hone s e hs).mp (h s e hs), fun h s e hs => (hone s e hs).mpr (h s e hs)⟩

theorem le_of_update {h' : Heart} {s t : SOCKET} {e f : CClientEntity}
    (ho : ∀ s e, h.client s = some e → o s ≤ 10) (hf : (h'.setClient s (some f)).client t = some e)
    (hsame : h'.client = h.client) : Function.update o s 0 t ≤ 10 := by
  obtain ⟨rfl, -⟩ | ⟨hts, hf⟩ := of_setClient hf
  · rw [Function.update_self]
    omega
  · rw [Function.update_of_ne hts]
    rw [hsame] at hf
    exact ho t e hf

theorem shown_apply_iff (hw : Wired h) (hc : Counted o h) (hs : Shown o h) (hb : h.Enabled b) :
    Shown (watchTicks o h b) (h.apply b) ↔ Spared h b := by
  rw [shown_iff (counted_apply hw hc hb)]
  have ho := (shown_iff hc).mp hs
  cases b with
  | rest | look | finish => exact iff_of_true ho trivial
  | connect s junk => exact iff_of_true (fun t f hf => le_of_update ho hf rfl) trivial
  | reconnect s =>
    obtain ⟨e, he⟩ := Option.ne_none_iff_exists'.mp hb
    rw [Heart.apply, he]
    exact iff_of_true (fun t f hf => le_of_update ho hf rfl) trivial
  | keepAlive s m =>
    refine iff_of_true (fun t f hf => ?_) trivial
    rw [Heart.apply] at hf
    cases he : h.client s with
    | none =>
      simp only [he] at hf
      have hts : t ≠ s := by
        rintro rfl
        rw [he] at hf
        cases hf
      rw [watchTicks, Function.update_of_ne hts]
      exact ho t f hf
    | some e =>
      simp only [he] at hf
      split at hf
      · exact le_of_update ho hf (report_client h s m)
      · have hf : ((h.report s m).setClient s (some (timed (h.report s m).nextAddr
            (answered e)))).client t = some f := hf
        exact le_of_update ho hf (report_client h s m)
  | tick j now arg =>
    obtain ⟨l, e, ptr, info, -, -, he, -, -, -, hptr, rfl, -, hi, hsock, happ⟩ := hw.tick hb
    have harg : e.m_pTimeFuncArg ≠ none := by
      rw [hptr]
      exact Option.some_ne_none ptr
    obtain ⟨hcount, -, -⟩ := (hc _ e he).2 harg
    have hle := ho _ e he
    have hspared : Spared h (.tick j now (some ptr)) ↔ o l.sockClient < 10 := by
      refine ⟨fun hall => ?_, fun hlt info' e' hi' he' => ?_⟩
      · have hband := hall info e hi (by rw [hsock]; exact he)
        omega
      · rw [hi] at hi'
        cases hi'
        rw [hsock, he] at he'
        cases he'
        omega
    have hwatch : watchTicks o h (.tick j now (some ptr)) =
        Function.update o l.sockClient (o l.sockClient + 1) := by
      rw [watchTicks, Option.bind_some, hi]
      dsimp only
      rw [hsock]
    rw [hspared, happ, hwatch, if_neg (by omega)]
    refine ⟨fun hall => ?_, fun hlt t f hf => ?_⟩
    · have hself : (h.setClient l.sockClient (some (Heartbeats.counted e))).client l.sockClient =
          some (Heartbeats.counted e) := by
        rw [client_setClient, if_pos rfl]
      have hnext := hall l.sockClient _ hself
      rw [Function.update_self] at hnext
      omega
    · have hf : (h.setClient l.sockClient (some (Heartbeats.counted e))).client t = some f := hf
      obtain ⟨rfl, -⟩ | ⟨hts, hf⟩ := of_setClient hf
      · rw [Function.update_self]
        omega
      · rw [Function.update_of_ne hts]
        exact ho t f hf

end Beats

section Runs

variable {sqlite : Sqlite DB} {db : DB} {tr : List (Process DB × Action)} {st : Process DB}
  {o : SOCKET → Nat}

theorem marked_iff_shown : Marked o st ↔ Shown o (heart st) := by
  rw [marked_iff]
  refine ⟨fun hall s e hs => ?_, fun hall s e he => hall s (pulse e) (pulses_of_entity he)⟩
  obtain ⟨e, he, rfl⟩ := Option.map_eq_some_iff.mp hs
  exact hall s e he

theorem spared_iff_brief (st : Process DB) (a : Action) :
    Spared (heart st) (beat st a) ↔ Brief st a := by
  cases a with
  | accept s junk =>
    rw [beat]
    repeat' split
    all_goals exact Iff.rfl
  | close s => exact Iff.rfl
  | packet s m rand =>
    rw [beat]
    split <;> exact Iff.rfl
  | poll j now => exact finds_iff (fun _ => Iff.rfl) st j now

/-- In all states of a run the entities with four or more unanswered callbacks are
marked, and no reply shows them as online, if and only if no callback of the run
finds a count from 10 to 29. -/
theorem disconnected_marked_iff (h : ServerRun sqlite db tr st) :
    (∀ x ∈ points tr st, Marked (unanswered x.1) x.2) ↔ ∀ x ∈ tr, Brief x.1 x.2 := by
  simp only [marked_iff_shown, ← spared_iff_brief]
  exact felt_always_iff (J := Counted) (I := Shown) (C := Spared)
    (fun _ _ hs => by cases hs) (fun _ _ _ => counted_apply) (fun _ _ hs => by cases hs)
    (fun _ _ _ => shown_apply_iff) h

end Runs

section Example

def shortSilence : List Action := [.accept 7 0, keepAlive 7 .CS_MainScene] ++ ticks 0 5

theorem short_silence_marked : ∃ tr st, ServerRun noTables () tr st ∧ actions tr = shortSilence ∧
    ∀ x ∈ points tr st, Marked (unanswered x.1) x.2 := by
  obtain ⟨tr, st, hrun, hact, hp⟩ := exists_run noTables () shortSilence
    (fun tr _ => tr.all fun x => decide (Brief x.1 x.2)) (by decide +kernel)
  refine ⟨tr, st, hrun, hact, (disconnected_marked_iff hrun).mpr fun x hx => ?_⟩
  exact of_decide_eq_true (List.all_eq_true.mp hp x hx)

def longSilence : List Action := [.accept 7 0, keepAlive 7 .CS_MainScene] ++ ticks 0 11

/-- The eleventh callback marks the silent client as connected again, and another
player is shown it as online. -/
theorem long_silence_unmarks : ∃ tr st, ∃ e : CClientEntity, ServerRun noTables () tr st ∧
    actions tr = longSilence ∧ unanswered tr 7 = 11 ∧ st.cache.GetEntity 7 = some e ∧
    e.isBroken = false ∧
    OnlineFriend 8 { userid? := some 5 } st.cache = .ok (st.cache, [(8, onlineReply [(7, e)])]) ∧
    ¬∀ x ∈ points tr st, Marked (unanswered x.1) x.2 := by
  obtain ⟨tr, st, hrun, hact, hp⟩ := exists_run noTables () longSilence
    (fun tr st => decide (unanswered tr 7 = 11) &&
      (st.cache.GetEntity 7).any fun e : CClientEntity => !e.isBroken &&
        (decide (e.roleInfo.roleid = 0) && decide (st.cache.GetEntitys = [(7, e)])))
    (by decide +kernel)
  obtain ⟨heleven, hp⟩ := Bool.and_eq_true_iff.mp hp
  obtain ⟨e, he, hp⟩ := (Option.any_eq_true _ _).mp hp
  obtain ⟨hbroken, hp⟩ := Bool.and_eq_true_iff.mp hp
  obtain ⟨hrole, hlisted⟩ := Bool.and_eq_true_iff.mp hp
  have hrole : e.roleInfo.roleid = 0 := of_decide_eq_true hrole
  have hbroken : e.isBroken = false := by simpa using hbroken
  have heleven : unanswered tr 7 = 11 := of_decide_eq_true heleven
  refine ⟨tr, st, e, hrun, hact, heleven, he, hbroken, ?_, fun hall => ?_⟩
  · rw [OnlineFriend, of_decide_eq_true hlisted]
    simp [hbroken, hrole, HallRequest.userid, onlineReply]
  · have hmarked := (hall _ self_mem_points).broken 7 e he (by rw [Disconnected, heleven]; decide)
    rw [hbroken] at hmarked
    cases hmarked

end Example

end JiraGame.Disconnections
