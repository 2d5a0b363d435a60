import JiraGame.Server
import JiraGame.Lib.Fails

namespace JiraGame.ProcessFrame

open JiraGame.Scene JiraGame.Command JiraGame.DBServer JiraGame.Cache JiraGame.HallScene
open JiraGame.ServerState JiraGame.KeepAlive JiraGame.Server JiraGame.Lib.Fails

variable {DB : Type} {sqlite : Sqlite DB} {st st' : Process DB} {s : SOCKET} {m : UnPacket}
  {rand : List Nat} {out : Outbox}

theorem storeMessage_frame (h : storeMessage s m st = .ok st') :
    ∃ infos, st' = { st with infos := infos } := by
  rw [storeMessage] at h
  split at h
  · cases h
    exact ⟨st.infos, rfl⟩
  · split at h
    · cases h
    · cases h
      exact ⟨_, rfl⟩

theorem storeReport_frame (h : storeReport s m st = .ok st') :
    ∃ infos, st' = { st with infos := infos } := by
  rw [storeReport] at h
  split at h
  · exact storeMessage_frame h
  · split at h
    · exact storeMessage_frame h
    · cases h
      exact ⟨st.infos, rfl⟩

theorem Start_frame (h : Start s m st = .ok (st', out)) : ∃ c map infos addr loops,
    st' = { st with cache := c, keepAliveInfoMap := map, infos := infos, nextAddr := addr,
                    loops := loops } := by
  rw [Start] at h
  split at h
  · cases h
    exact ⟨_, _, _, _, _, rfl⟩
  · obtain ⟨st₁, hst, h⟩ := of_bind_ok h
    obtain ⟨infos, rfl⟩ := storeReport_frame hst
    dsimp only at h
    split at h <;> cases h <;> exact ⟨_, _, _, _, _, rfl⟩

/-- A callback finds no entity and does nothing, evicts the entity, or counts one tick. -/
theorem TimerFunc_spec {ptr : Nat} (h : TimerFunc (some ptr) st = .ok (st', out)) :
    ∃ info, st.infos[ptr]? = some info ∧
      (st.cache.GetEntity info.clientSocket = none ∧ st' = st ∧ out = [] ∨
      ∃ e, st.cache.GetEntity info.clientSocket = some e ∧
        (30 ≤ e.m_iSendMsgCount ∧ st' = evict info.clientSocket ptr e st ∧ out = [] ∨
        ¬30 ≤ e.m_iSendMsgCount ∧ ∃ c, countedTick info.clientSocket
          info.RecMessage.keepalive.curscene e st.cache = .ok (c, out) ∧
          st' = { st with cache := c })) := by
  rw [TimerFunc] at h
  dsimp only at h
  cases hi : st.infos[ptr]? with
  | none => simp [hi] at h
  | some info =>
    simp only [hi] at h
    refine ⟨info, rfl, ?_⟩
    cases he : st.cache.GetEntity info.clientSocket with
    | none =>
      simp only [he] at h
      cases h
      exact .inl ⟨rfl, rfl, rfl⟩
    | some e =>
      simp only [he] at h
      by_cases hlate : 30 ≤ e.m_iSendMsgCount
      · rw [if_pos hlate] at h
        cases h
        exact .inr ⟨e, rfl, .inl ⟨hlate, rfl, rfl⟩⟩
      · rw [if_neg hlate] at h
        obtain ⟨x, ht, h⟩ := of_bind_ok h
        cases h
        exact .inr ⟨e, rfl, .inr ⟨hlate, x.1, ht, rfl⟩⟩

theorem TimerFunc_frame {arg : Option Nat} (h : TimerFunc arg st = .ok (st', out)) :
    ∃ c listeners infos erased, st' = { st with cache := c, m_CObCServers := listeners,
                                                infos := infos, erased := erased } := by
  cases arg with
  | none =>
    cases h
    exact ⟨_, _, _, _, rfl⟩
  | some ptr =>
    obtain ⟨_, -, ⟨-, rfl, -⟩ | ⟨_, -, ⟨-, rfl, -⟩ | ⟨-, _, -, rfl⟩⟩⟩ := TimerFunc_spec h
    all_goals exact ⟨_, _, _, _, rfl⟩

/-- A turn of a loop calls back at most, and writes the loops and the time. -/
theorem poll_cases {j now : Nat} (h : poll j now st = .ok (st', out)) : ∃ st₁ loops preTime,
    st' = { st₁ with loops := loops, preTime := preTime } ∧
    (st₁ = st ∧ out = [] ∨ ∃ arg, TimerFunc arg st = .ok (st₁, out)) := by
  rw [poll] at h
  split at h
  · cases h
    exact ⟨st, _, _, rfl, .inl ⟨rfl, rfl⟩⟩
  · split at h
    · cases h
      exact ⟨st, _, _, rfl, .inl ⟨rfl, rfl⟩⟩
    · split at h
      · cases h
        exact ⟨st, _, _, rfl, .inl ⟨rfl, rfl⟩⟩
      · split at h
        · cases h
          exact ⟨st, _, _, rfl, .inl ⟨rfl, rfl⟩⟩
        · dsimp only at h
          split at h
          · obtain ⟨x, hx, h⟩ := of_bind_ok h
            cases h
            exact ⟨x.1, _, _, rfl, .inr ⟨_, hx⟩⟩
          · cases h
            exact ⟨st, _, _, rfl, .inl ⟨rfl, rfl⟩⟩

theorem poll_frame {j now : Nat} (h : poll j now st = .ok (st', out)) :
    ∃ c listeners infos erased loops preTime,
      st' = { st with cache := c, m_CObCServers := listeners, infos := infos, erased := erased,
                      loops := loops, preTime := preTime } := by
  obtain ⟨st₁, loops, preTime, rfl, ⟨rfl, -⟩ | ⟨arg, hx⟩⟩ := poll_cases h
  · exact ⟨_, _, _, _, _, _, rfl⟩
  · obtain ⟨c, listeners, infos, erased, rfl⟩ := TimerFunc_frame hx
    exact ⟨_, _, _, _, _, _, rfl⟩

theorem StartCServer_frame {junk : Int} (h : StartCServer s junk st = .ok st') :
    ∃ c listeners addr arr, st' = { st with cache := c, m_CObCServers := listeners,
                                            nextAddr := addr, g_CliSocketArr := arr } := by
  rw [StartCServer] at h
  split at h
  · cases h
    exact ⟨_, _, _, _, rfl⟩
  · cases he : st.cache.GetEntity s <;> simp only [he] at h
    all_goals
      split at h
      · cases h
        exact ⟨_, _, _, _, rfl⟩
      · split at h
        · cases h
        · cases h
          exact ⟨_, _, _, _, rfl⟩

theorem ProcessMsgLogic_scenes (hm : m.curscene ≠ .CS_KeepAlive)
    (h : ProcessMsgLogic sqlite s m rand st = .ok (st', out)) :
    ∃ db c, st' = { st with db := db, cache := c } := by
  rw [ProcessMsgLogic] at h
  split at h
  case h_1 hscene => exact absurd hscene hm
  case h_4 =>
    split at h
    · cases h
      exact ⟨_, _, rfl⟩
    · obtain ⟨x, -, h⟩ := of_bind_ok h
      cases h
      exact ⟨_, _, rfl⟩
  case h_8 =>
    cases h
    exact ⟨_, _, rfl⟩
  all_goals
    obtain ⟨x, -, h⟩ := of_bind_ok h
    cases h
    exact ⟨_, _, rfl⟩

theorem ProcessMsgLogic_frame (h : ProcessMsgLogic sqlite s m rand st = .ok (st', out)) :
    ∃ db c map infos addr loops,
      st' = { st with db := db, cache := c, keepAliveInfoMap := map, infos := infos,
                      nextAddr := addr, loops := loops } := by
  by_cases hm : m.curscene = .CS_KeepAlive
  · rw [ProcessMsgLogic, hm] at h
    obtain ⟨c, map, infos, addr, loops, rfl⟩ := Start_frame h
    exact ⟨_, _, _, _, _, _, rfl⟩
  · obtain ⟨db, c, rfl⟩ := ProcessMsgLogic_scenes hm h
    exact ⟨_, _, _, _, _, _, rfl⟩

theorem SendMsg_frame (p : SOCKET × Packet) (x : Process DB × Outbox) :
    ∃ listeners, (SendMsg p x).1 = { x.1 with m_CObCServers := listeners } := by
  rw [SendMsg]
  split <;> exact ⟨_, rfl⟩

theorem deliver_frame (x : Process DB × Outbox) :
    ∃ listeners, (deliver x).1 = { x.1 with m_CObCServers := listeners } := by
  have hfold : ∀ (ps : Outbox) (y : Process DB × Outbox), ∃ listeners,
      (ps.foldl (fun y p => SendMsg p y) y).1 = { y.1 with m_CObCServers := listeners } := by
    intro ps
    induction ps with
    | nil => exact fun y => ⟨_, rfl⟩
    | cons p ps ih =>
      intro y
      obtain ⟨listeners, h⟩ := ih (SendMsg p y)
      obtain ⟨listeners', h'⟩ := SendMsg_frame p y
      rw [List.foldl_cons, h, h']
      exact ⟨_, rfl⟩
  exact hfold x.2 (x.1, [])

theorem of_deliver {x : Process DB × Outbox} (h : deliver x = (st', out)) :
    ∃ listeners, st' = { x.1 with m_CObCServers := listeners } := by
  obtain ⟨listeners, hx⟩ := deliver_frame x
  rw [h] at hx
  exact ⟨listeners, hx⟩

end JiraGame.ProcessFrame
