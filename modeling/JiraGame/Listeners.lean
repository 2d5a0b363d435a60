import JiraGame.DatabaseFrame
import JiraGame.Session

namespace JiraGame.Listeners

open JiraGame.Scene JiraGame.Command JiraGame.DBServer JiraGame.Cache JiraGame.HallScene
open JiraGame.MainScene JiraGame.AccountScenes JiraGame.ServerState JiraGame.KeepAlive
open JiraGame.Server JiraGame.ProcessFrame JiraGame.Refinement JiraGame.Session JiraGame.Shells
open JiraGame.Runs JiraGame.Lib.History JiraGame.Lib.Fails

variable {DB : Type}

/-- The socket that packets for `s` are written to. -/
def listener (st : Process DB) (s : SOCKET) : Option SOCKET := (st.m_CObCServers[s]?).join

/-- Every stored entity has its own socket as its listener, and no other socket
has one. -/
def Registered (st : Process DB) : Prop :=
  ∀ s, listener st s = (sessions st.cache s).map fun _ => s

section Send

theorem SendMsg_listener (p : SOCKET × Packet) (x : Process DB × Outbox) (t : SOCKET) :
    listener (SendMsg p x).1 t = listener x.1 t := by
  rw [SendMsg]
  split
  · rfl
  · rfl
  · rename_i hnone
    rw [listener, listener, Std.TreeMap.getElem?_insert]
    split
    · rename_i ht
      have heq : p.1 = t := Std.LawfulEqCmp.compare_eq_iff_eq.mp ht
      rw [← heq, hnone]
      rfl
    · rfl

theorem deliver_listener (x : Process DB × Outbox) (t : SOCKET) :
    listener (deliver x).1 t = listener x.1 t := by
  have hfold : ∀ (ps : Outbox) (y : Process DB × Outbox),
      listener (ps.foldl (fun y p => SendMsg p y) y).1 t = listener y.1 t := by
    intro ps
    induction ps with
    | nil => exact fun y => rfl
    | cons p ps ih =>
      intro y
      rw [List.foldl_cons, ih, SendMsg_listener]
  exact hfold x.2 (x.1, [])

theorem SendMsg_own {x : Process DB × Outbox} {s : SOCKET} (h : listener x.1 s = some s)
    (p : Packet) : SendMsg (s, p) x = (x.1, x.2 ++ [(s, p)]) := by
  rw [listener, Option.join_eq_some_iff] at h
  simp only [SendMsg, h]

theorem deliver_own {x : Process DB × Outbox} {s : SOCKET} (h : listener x.1 s = some s)
    (hto : ∀ p ∈ x.2, p.1 = s) : deliver x = x := by
  have hfold : ∀ (ps acc : Outbox), (∀ p ∈ ps, p.1 = s) →
      ps.foldl (fun y p => SendMsg p y) (x.1, acc) = (x.1, acc ++ ps) := by
    intro ps
    induction ps with
    | nil =>
      intro acc _
      rw [List.foldl_nil, List.append_nil]
    | cons p ps ih =>
      intro acc hps
      obtain ⟨rfl, hps⟩ := List.forall_mem_cons.mp hps
      rw [List.foldl_cons, SendMsg_own (x := (x.1, acc)) h, ih _ hps, List.append_assoc]
      rfl
  rw [deliver, hfold x.2 [] hto, List.nil_append]

theorem mem_of_deliver {x : Process DB × Outbox} {q : SOCKET × Packet} (h : q ∈ (deliver x).2) :
    ∃ p ∈ x.2, p.2 = q.2 := by
  have hfold : ∀ (ps : Outbox) (y : Process DB × Outbox),
      q ∈ (ps.foldl (fun y p => SendMsg p y) y).2 → q ∈ y.2 ∨ ∃ p ∈ ps, p.2 = q.2 := by
    intro ps
    induction ps with
    | nil => exact fun y hq => .inl hq
    | cons p ps ih =>
      intro y hq
      obtain hy | ⟨p', hp', he⟩ := ih _ hq
      · dsimp only at hy
        rw [SendMsg] at hy
        split at hy
        · obtain hy | hy := List.mem_append.mp hy
          · exact .inl hy
          · exact .inr ⟨p, List.mem_cons_self, by rw [List.mem_singleton.mp hy]⟩
        · exact .inl hy
        · exact .inl hy
      · exact .inr ⟨p', List.mem_cons_of_mem _ hp', he⟩
  obtain hnil | h := hfold x.2 (x.1, []) h
  · cases hnil
  · exact h

end Send

section Steps

variable {sqlite : Sqlite DB} {st st' : Process DB} {s : SOCKET} {m : UnPacket} {rand : List Nat}
  {out : Outbox}

theorem Registered.of_map (hi : Registered st) (hmap : st'.m_CObCServers = st.m_CObCServers)
    (hs : ∀ t, (sessions st'.cache t).isSome = (sessions st.cache t).isSome) : Registered st' := by
  intro t
  rw [listener, hmap]
  refine (hi t).trans ?_
  have ht := hs t
  cases h : sessions st.cache t <;> cases h' : sessions st'.cache t <;> simp_all

theorem ProcessMsgLogic_listeners (h : ProcessMsgLogic sqlite s m rand st = .ok (st', out)) :
    st'.m_CObCServers = st.m_CObCServers := by
  obtain ⟨_, _, _, _, _, _, rfl⟩ := ProcessMsgLogic_frame h
  rfl

theorem registered_packet (hi : Registered st) (he : (st.cache.GetEntity s).isSome = true)
    (h : ProcessMsgLogic sqlite s m rand st = .ok (st', out)) : Registered st' := by
  obtain ⟨e, he⟩ := Option.isSome_iff_exists.mp he
  refine hi.of_map (ProcessMsgLogic_listeners h) fun t => ?_
  rw [ProcessMsgLogic_sessions he h]
  split
  · rfl
  · by_cases hts : t = s
    · rw [hts, Function.update_self, sessions_of_entity he]
      rfl
    · rw [Function.update_of_ne hts]

/-- The listener of a socket comes and goes with its entity. -/
theorem Registered.of_update (hi : Registered st) {o : Option String}
    (hs : sessions st'.cache = Function.update (sessions st.cache) s o)
    (hl : listener st' = Function.update (listener st) s (o.map fun _ => s)) : Registered st' := by
  intro t
  rw [hs, hl]
  by_cases hts : t = s
  · rw [hts, Function.update_self, Function.update_self]
  · rw [Function.update_of_ne hts, Function.update_of_ne hts]
    exact hi t

theorem registered_added (hi : Registered st) (he : st.cache.GetEntity s = none)
    (e : CClientEntity) : Registered { st with
      cache := st.cache.SetEntity s e
      m_CObCServers := st.m_CObCServers.insert s (some s)
      nextAddr := st.nextAddr + 1 } := by
  have hcache : sessions (st.cache.SetEntity s e) =
      Function.update (sessions st.cache) s (some e.SessionID) := by
    rw [CCache.SetEntity_new he]
    exact sessions_update (o := some e) (shells_writeEntity st.cache s e)
  refine hi.of_update hcache ?_
  funext t
  by_cases hts : t = s
  · simp [listener, hts]
  · rw [Function.update_of_ne hts]
    simp [listener, Std.TreeMap.getElem?_insert, Ne.symm hts]

theorem registered_accept {junk : Int} (hi : Registered st)
    (h : StartCServer s junk st = .ok st') : Registered st' := by
  rw [StartCServer] at h
  split at h
  · cases h
    exact hi
  · cases he : st.cache.GetEntity s with
    | none =>
      simp only [he] at h
      have hadded := registered_added hi he
        { addr := st.nextAddr, sockClient := s, m_iSendMsgCount := junk }
      split at h
      · cases h
        exact hadded
      · split at h
        · cases h
        · cases h
          exact hadded
    | some e =>
      simp only [he] at h
      have hsame : ∀ f : CClientEntity, f.SessionID = e.SessionID → ∀ t,
          (sessions (st.cache.writeEntity s f) t).isSome = (sessions st.cache t).isSome :=
        fun f hf t => by rw [sessions_writeEntity_same he hf]
      split at h
      · cases h
        exact hi.of_map rfl (hsame _ rfl)
      · split at h
        · cases h
        · cases h
          exact hi.of_map rfl (hsame _ rfl)

theorem registered_timer {arg : Option Nat} (hi : Registered st)
    (h : TimerFunc arg st = .ok (st', out)) : Registered st' := by
  cases arg with
  | none =>
    cases h
    exact hi
  | some ptr =>
    obtain ⟨info, -, ⟨-, rfl, -⟩ | ⟨e, -, ⟨-, rfl, -⟩ | ⟨-, c, ht, rfl⟩⟩⟩ := TimerFunc_spec h
    · exact hi
    · refine hi.of_update (s := info.clientSocket) (o := none)
        (sessions_update (o := none) (shells_eraseEntity st.cache info.clientSocket)) ?_
      funext t
      by_cases hts : t = info.clientSocket
      · simp [listener, evict, hts]
      · rw [Function.update_of_ne hts]
        simp [listener, evict, Std.TreeMap.getElem?_erase, Ne.symm hts]
    · exact hi.of_map rfl fun t => by rw [countedTick_sessions ht]

theorem registered_poll {j now : Nat} (hi : Registered st)
    (h : poll j now st = .ok (st', out)) : Registered st' := by
  obtain ⟨st₁, loops, preTime, rfl, ⟨rfl, -⟩ | ⟨arg, hx⟩⟩ := poll_cases h
  · exact hi
  · have hreg := registered_timer hi hx
    exact hreg

theorem Registered.deliver {x : Process DB × Outbox} (hi : Registered x.1)
    (h : Server.deliver x = (st', out)) : Registered st' := by
  have hst : st' = (Server.deliver x).1 := by rw [h]
  intro t
  rw [cache_of_deliver h, hst, deliver_listener]
  exact hi t

theorem registered_step {a : Action} (hi : Registered st)
    (h : step sqlite st a = .ok (st', out)) : Registered st' := by
  cases a with
  | accept s junk =>
    obtain ⟨st₁, hs, h⟩ := of_map_ok h
    cases h
    exact registered_accept hi hs
  | close s =>
    simp only [step] at h
    split at h <;> cases h <;> exact hi
  | packet s m rand =>
    obtain ⟨x, hp, h⟩ := of_map_ok h
    rw [receive] at hp
    split at hp
    · cases he : st.cache.GetEntity s with
      | none =>
        simp only [he] at hp
        cases hp
        exact Registered.deliver hi h
      | some e =>
        simp only [he] at hp
        exact (registered_packet hi (by rw [he]; rfl) hp).deliver h
    · cases hp
      exact Registered.deliver hi h
  | poll j now =>
    obtain ⟨x, hp, h⟩ := of_map_ok h
    exact (registered_poll hi hp).deliver h

theorem registered {db : DB} {tr : List (Process DB × Action)} (h : ServerRun sqlite db tr st) :
    Registered st := by
  refine Run.invariant (I := Registered) ?_ ?_ h
  · intro s
    simp [listener, sessions, start, CCache.GetEntity]
  · rintro st a st' hi ⟨out, hstep⟩
    exact registered_step hi hstep

end Steps

end JiraGame.Listeners
