import JiraGame.Connections
import JiraGame.Listeners
import JiraGame.Wiring

namespace JiraGame.Registries

open JiraGame.Scene JiraGame.Command JiraGame.DBServer JiraGame.Cache JiraGame.ServerState
open JiraGame.KeepAlive JiraGame.Server JiraGame.Refinement JiraGame.Heartbeats JiraGame.Wiring
open JiraGame.Connections JiraGame.Session JiraGame.Listeners JiraGame.Runs JiraGame.Lib.History
open JiraGame.Lib.Fails

variable {DB : Type}

/-- The registries of the connections agree: listeners and entities are on the
same sockets, an invalid handle has neither, and the heartbeat records that are
looked up are allocated and belong to entities. -/
structure Agree (st : Process DB) : Prop where
  listeners : ∀ s, (listener st s).isSome = (st.cache.GetEntity s).isSome
  invalid : listener st INVALID_SOCKET = none ∧ st.cache.GetEntity INVALID_SOCKET = none
  records : ∀ (s : SOCKET) (ptr : Nat), st.keepAliveInfoMap[s]? = some ptr →
    ∃ info : CKeepAliveInfo, st.infos[ptr]? = some info ∧ (st.cache.GetEntity info.clientSocket).isSome = true

/-- An accept succeeds, and a callback finds its entity's count below 30. -/
def Harmless (st : Process DB) : Action → Prop
  | .accept s _ => s ≠ INVALID_SOCKET
  | .poll j now => ∀ ptr ∈ dueArg j now st, ∀ info ∈ st.infos[ptr]?,
      ∀ e ∈ st.cache.GetEntity info.clientSocket, e.m_iSendMsgCount < 30
  | _ => True

instance (st : Process DB) (a : Action) : Decidable (Harmless st a) :=
  match a with
  | .accept s _ => inferInstanceAs (Decidable (s ≠ INVALID_SOCKET))
  | .poll j now => inferInstanceAs (Decidable (∀ ptr ∈ dueArg j now st, ∀ info ∈ st.infos[ptr]?,
      ∀ e ∈ st.cache.GetEntity info.clientSocket, e.m_iSendMsgCount < 30))
  | .close _ | .packet _ _ _ => inferInstanceAs (Decidable True)

section Hearts

variable {h : Heart} {b : Beat}

/-- What the heart shows of the registries. -/
structure Tidy (h : Heart) : Prop where
  invalid : h.client INVALID_SOCKET = none
  records : ∀ s ptr, h.keepAliveInfo s = some ptr →
    ∃ info, h.info ptr = some info ∧ h.client info.clientSocket ≠ none

/-- The beats that keep the registries tidy. -/
def Spares (h : Heart) : Beat → Prop
  | .connect s _ => s ≠ INVALID_SOCKET
  | b => Finds (fun e => e.m_iSendMsgCount < 30) h b

theorem Tidy.setClient {s : SOCKET} {e : CClientEntity} (ht : Tidy h) (hs : s ≠ INVALID_SOCKET) :
    Tidy (h.setClient s (some e)) where
  invalid := by
    rw [client_setClient, if_neg hs.symm]
    exact ht.invalid
  records := by
    intro t ptr hptr
    obtain ⟨info, hi, hsock⟩ := ht.records t ptr hptr
    exact ⟨info, hi, setClient_ne_none hsock⟩

theorem Tidy.valid {s : SOCKET} {e : CClientEntity} (ht : Tidy h) (hs : h.client s = some e) :
    s ≠ INVALID_SOCKET := by
  rintro rfl
  rw [ht.invalid] at hs
  cases hs

theorem Tidy.report (ht : Tidy h) (s : SOCKET) (m : UnPacket) : Tidy (h.report s m) where
  invalid := by
    rw [report_client]
    exact ht.invalid
  records := by
    intro t p hp
    rw [report_client]
    rw [Heart.report] at hp ⊢
    split at hp
    · rename_i hscene
      rw [if_pos hscene]
      split at hp
      · exact ht.records t p hp
      · rename_i ptr _
        obtain ⟨info, hi, hsock⟩ := ht.records t p hp
        rw [Heart.setInfo]
        dsimp only
        by_cases hpp : p = ptr
        · subst hpp
          rw [Function.update_self, hi]
          exact ⟨_, rfl, hsock⟩
        · rw [Function.update_of_ne hpp]
          exact ⟨info, hi, hsock⟩
    · rename_i hscene
      rw [if_neg hscene]
      exact ht.records t p hp

theorem Tidy.startLoop {s : SOCKET} {e e' : CClientEntity} (hw : Wired h) (ht : Tidy h)
    (hs : h.client s = some e) (m : UnPacket) : Tidy (h.startLoop s m e') where
  invalid := (ht.setClient (ht.valid hs)).invalid
  records := by
    intro t p hp
    have hsome : ∀ u, h.client u ≠ none → (h.startLoop s m e').client u ≠ none :=
      fun _ hu => setClient_ne_none (h := h) hu
    have hnew : (h.startLoop s m e').info =
        Function.update h.info h.nextAddr (some { clientSocket := s, RecMessage := m }) := rfl
    have hmap : (h.startLoop s m e').keepAliveInfo =
        Function.update h.keepAliveInfo s (some h.nextAddr) := rfl
    rw [hmap] at hp
    rw [hnew]
    by_cases hts : t = s
    · rw [hts, Function.update_self] at hp
      cases hp
      rw [Function.update_self]
      exact ⟨_, rfl, hsome s (by rw [hs]; exact Option.some_ne_none e)⟩
    · rw [Function.update_of_ne hts] at hp
      obtain ⟨info, hi, hsock⟩ := ht.records t p hp
      rw [Function.update_of_ne (Nat.ne_of_lt (hw.info_lt p info hi))]
      exact ⟨info, hi, hsome _ hsock⟩

/-- A dismissed entity leaves its record's pointer behind. -/
theorem not_tidy_dismiss {s : SOCKET} {e : CClientEntity} {ptr : Nat}
    (hmap : h.keepAliveInfo s = some ptr) : ¬Tidy (h.dismiss s ptr e) := by
  intro ht
  obtain ⟨info, hi, -⟩ := ht.records s ptr hmap
  rw [Heart.dismiss, Heart.setInfo] at hi
  dsimp only at hi
  rw [Function.update_self] at hi
  cases hi

theorem Tidy.of_time {now : Option Nat} : Tidy { h with preTime := now } ↔ Tidy h := by
  refine ⟨fun ht => ?_, fun ht => ?_⟩ <;> exact ⟨ht.invalid, ht.records⟩

theorem tidy_apply_iff (hw : Wired h) (ht : Tidy h) (hb : h.Enabled b) :
    Tidy (h.apply b) ↔ Spares h b := by
  cases b with
  | rest => exact iff_of_true ht trivial
  | connect s junk =>
    refine ⟨?_, fun hs => ?_⟩
    · rintro htidy rfl
      have hinvalid := htidy.invalid
      simp [Heart.apply, Heart.setClient] at hinvalid
    · have hset := ht.setClient (e := newcomer h.nextAddr s junk) hs
      exact ⟨hset.invalid, hset.records⟩
  | reconnect s =>
    obtain ⟨e, hs⟩ := Option.ne_none_iff_exists'.mp hb
    rw [Heart.apply, hs]
    exact iff_of_true (ht.setClient (ht.valid hs)) trivial
  | keepAlive s m =>
    refine iff_of_true ?_ trivial
    rw [Heart.apply]
    cases hs : h.client s with
    | none => exact ht
    | some e =>
      have hs' : (h.report s m).client s = some e := by rw [report_client, hs]
      dsimp only
      split
      · exact (ht.report s m).setClient (ht.valid hs)
      · exact (ht.report s m).startLoop (hw.report s m) hs' m
  | look j now => exact iff_of_true (Tidy.of_time.mpr ht) trivial
  | finish j => exact iff_of_true ⟨ht.invalid, ht.records⟩ trivial
  | tick j now arg =>
    obtain ⟨l, e, ptr, info, -, -, hs, -, -, -, -, rfl, hmap, hi, hsock, happ⟩ := hw.tick hb
    have hspares : Spares h (.tick j now (some ptr)) ↔ e.m_iSendMsgCount < 30 := by
      refine ⟨fun hall => hall info e hi (by rw [hsock]; exact hs), fun hlt info' e' hi' he' => ?_⟩
      rw [hi] at hi'
      cases hi'
      rw [hsock, hs] at he'
      cases he'
      exact hlt
    rw [happ, Tidy.of_time, hspares]
    split
    · rename_i hlate
      exact iff_of_false (not_tidy_dismiss hmap) (by omega)
    · rename_i hearly
      exact iff_of_true (ht.setClient (ht.valid hs)) (by omega)

end Hearts

section Runs

variable {sqlite : Sqlite DB} {db : DB} {tr : List (Process DB × Action)} {st st' : Process DB}

theorem agree_iff_tidy (hr : Registered st) : Agree st ↔ Tidy (heart st) := by
  have hlistener : ∀ s, (listener st s).isSome = (st.cache.GetEntity s).isSome := by
    intro s
    rw [hr s, sessions, Option.isSome_map, Option.isSome_map]
  have hclient : ∀ s, (heart st).client s ≠ none ↔ (st.cache.GetEntity s).isSome = true := by
    intro s
    rw [Option.isSome_iff_ne_none, Ne, Ne, ← pulses_eq_none]
    rfl
  refine ⟨fun ha => ⟨pulses_eq_none.mpr ha.invalid.2, fun s ptr hptr => ?_⟩,
    fun ht => ⟨hlistener, ?_, fun s ptr hptr => ?_⟩⟩
  · obtain ⟨info, hi, hsome⟩ := ha.records s ptr hptr
    exact ⟨info, hi, (hclient _).mpr hsome⟩
  · have hnone := pulses_eq_none.mp ht.invalid
    have hl := hlistener INVALID_SOCKET
    rw [hnone] at hl
    exact ⟨Option.not_isSome_iff_eq_none.mp (by rw [hl]; simp), hnone⟩
  · obtain ⟨info, hi, hsome⟩ := ht.records s ptr hptr
    exact ⟨info, hi, (hclient _).mp hsome⟩

theorem invalid_not_listed (h : ServerRun sqlite db tr st) :
    INVALID_SOCKET ∉ st.g_CliSocketArr := by
  refine Run.invariant (I := fun st : Process DB => INVALID_SOCKET ∉ st.g_CliSocketArr) ?_ ?_ h
  · exact List.not_mem_nil
  · intro st a st' hi hstep hmem
    rw [step_array hstep] at hmem
    cases a with
    | accept s junk =>
      rw [arrayAfter] at hmem
      split at hmem
      · exact hi hmem
      · rename_i hs
        obtain hmem | hmem := List.mem_append.mp hmem
        · exact hi hmem
        · exact hs (.inr (List.mem_singleton.mp hmem).symm)
    | close s =>
      rw [arrayAfter] at hmem
      split at hmem
      · exact hi (mem_of_dropSocket hmem)
      · exact hi hmem
    | packet | poll => exact hi hmem

theorem spares_iff_harmless (ht : Tidy (heart st)) (hl : INVALID_SOCKET ∉ st.g_CliSocketArr)
    (a : Action) : Spares (heart st) (beat st a) ↔ Harmless st a := by
  cases a with
  | accept s junk =>
    rw [beat, Harmless]
    by_cases hs : s ∈ st.g_CliSocketArr
    · rw [if_pos hs]
      refine iff_of_true trivial ?_
      rintro rfl
      exact hl hs
    · rw [if_neg hs]
      cases he : st.cache.GetEntity s with
      | none => exact Iff.rfl
      | some e => exact iff_of_true trivial (ht.valid (pulses_of_entity he))
  | close s => exact Iff.rfl
  | packet s m rand =>
    rw [beat]
    split <;> exact Iff.rfl
  | poll j now =>
    have hspares : Spares (heart st) (beat st (.poll j now)) ↔
        Finds (fun e => e.m_iSendMsgCount < 30) (heart st) ((heart st).turn j now) := by
      rw [beat, Heart.turn]
      repeat' split
      all_goals exact Iff.rfl
    rw [hspares, Harmless]
    exact finds_iff (fun _ => Iff.rfl) st j now

/-- The registries agree in all states of a run if and only if every accept
succeeds and no callback finds its entity's count at 30. -/
theorem registries_agree_iff (h : ServerRun sqlite db tr st) :
    (∀ x ∈ points tr st, Agree x.2) ↔ ∀ x ∈ tr, Harmless x.1 x.2 := by
  refine Run.always_iff (I := fun _ st => Agree st) (C := Harmless) ?_ ?_ h
  · have hnil : ServerRun sqlite db [] (start db) := Run.nil
    rw [agree_iff_tidy (registered hnil), heart_start]
    exact ⟨rfl, fun s ptr hptr => by cases hptr⟩
  · intro tr st a st' hrun ha hstep
    have htidy := (agree_iff_tidy (registered hrun)).mp ha
    rw [agree_iff_tidy (registered (Run.cons hrun hstep))]
    obtain ⟨out, hstep⟩ := hstep
    rw [step_heart hstep, tidy_apply_iff (wired hrun) htidy (beat_enabled st a),
      spares_iff_harmless htidy (invalid_not_listed hrun)]

end Runs

section Example

def oneBeat : List Action := [.accept 7 0, keepAlive 7 .CS_WaitRoom] ++ ticks 0 1

theorem one_beat_agrees : ∃ tr st, ServerRun noTables () tr st ∧ actions tr = oneBeat ∧
    ∀ x ∈ points tr st, Agree x.2 := by
  obtain ⟨tr, st, hrun, hact, hp⟩ := exists_run noTables () oneBeat
    (fun tr _ => tr.all fun x => decide (Harmless x.1 x.2)) (by decide +kernel)
  refine ⟨tr, st, hrun, hact, (registries_agree_iff hrun).mpr fun x hx => ?_⟩
  exact of_decide_eq_true (List.all_eq_true.mp hp x hx)

/-- A client that is silent until its entity is deleted, and whose handle is then
given to a new connection. -/
def silentThenBack : List Action :=
  [.accept 7 0, keepAlive 7 .CS_WaitRoom] ++ ticks 0 31 ++ [.close 7, .accept 7 0]

/-- The heartbeat of the new connection writes through the pointer to the deleted
record. A failed accept stores an entity and a listener for the invalid handle. -/
theorem registries_part : (∃ tr st, ServerRun noTables () tr st ∧ actions tr = silentThenBack ∧
      (∃ ptr : Nat, st.keepAliveInfoMap[(7 : SOCKET)]? = some ptr ∧ st.infos[ptr]? = none) ∧
      step noTables st (keepAlive 7 .CS_WaitRoom) = .error .danglingInfo ∧
      ¬∀ x ∈ points tr st, Agree x.2) ∧
    ∃ tr st, ServerRun noTables () tr st ∧ actions tr = [.accept INVALID_SOCKET 0] ∧
      (st.cache.GetEntity INVALID_SOCKET).isSome = true ∧
      listener st INVALID_SOCKET = some INVALID_SOCKET ∧ ¬∀ x ∈ points tr st, Agree x.2 := by
  obtain ⟨tr, st, hrun, hact, hp⟩ := exists_run noTables () silentThenBack
    (fun _ st => (st.keepAliveInfoMap[(7 : SOCKET)]?).any (fun ptr => (st.infos[ptr]?).isNone) &&
      fails (fun f : Fault => decide (f = .danglingInfo)) (step noTables st (keepAlive 7 .CS_WaitRoom)))
    (by decide +kernel)
  obtain ⟨tr', st', hrun', hact', hp'⟩ := exists_run noTables () [.accept INVALID_SOCKET 0]
    (fun _ st => (st.cache.GetEntity INVALID_SOCKET).isSome &&
      decide (listener st INVALID_SOCKET = some INVALID_SOCKET)) (by decide +kernel)
  refine ⟨⟨tr, st, hrun, hact, ?_⟩, tr', st', hrun', hact', ?_⟩
  · obtain ⟨hdangling, hnext⟩ := Bool.and_eq_true_iff.mp hp
    obtain ⟨ptr, hmap, hi⟩ := (Option.any_eq_true _ _).mp hdangling
    have hi := Option.isNone_iff_eq_none.mp hi
    refine ⟨⟨ptr, hmap, hi⟩, ?_, fun hall => ?_⟩
    · obtain ⟨f, hstep, hf⟩ := (fails_iff _).mp hnext
      rw [hstep, of_decide_eq_true hf]
    · obtain ⟨info, hi', -⟩ := (hall _ self_mem_points).records 7 ptr hmap
      rw [hi] at hi'
      cases hi'
  · obtain ⟨hentity, hl⟩ := Bool.and_eq_true_iff.mp hp'
    refine ⟨hentity, of_decide_eq_true hl, fun hall => ?_⟩
    have hnone := (hall _ self_mem_points).invalid.2
    rw [hnone] at hentity
    cases hentity

end Example

end JiraGame.Registries
