import JiraGame.Runs
import JiraGame.Shells

namespace JiraGame.Session

open JiraGame.Scene JiraGame.Command JiraGame.DBServer JiraGame.Cache JiraGame.HallScene
open JiraGame.MainScene JiraGame.AccountScenes JiraGame.ServerState JiraGame.KeepAlive
open JiraGame.Server JiraGame.RoomTable JiraGame.Refinement JiraGame.Shells JiraGame.Runs
open JiraGame.ProcessFrame JiraGame.Lib.History JiraGame.Lib.Fails

def sessions (c : CCache) (s : SOCKET) : Option String := (c.GetEntity s).map (·.SessionID)

def carried (m : UnPacket) : Option String :=
  match m.curscene with
  | .CS_CreateRole => some m.createrolerequest.sessionid
  | .CS_SelectRole => some m.selectrolerequest.sessionid
  | .CS_WaitRoom => some m.hallrequest.sessionid
  | .CS_MainScene => some m.gamemainrequest.sessionid
  | _ => none

section Observer

variable {DB : Type} (sqlite : Sqlite DB)

/-- The client that a step logs in, with its session id. -/
def assigns (st : Process DB) : Action → Option (SOCKET × String)
  | .packet s m rand =>
    if readable s st && (st.cache.GetEntity s).isSome && m.curscene = .CS_Login then
      (loginOf sqlite m.loginrequest rand st.db).map fun sid => (s, sid)
    else none
  | _ => none

/-- The latest successful login on the current connection of each socket. -/
def see (o : SOCKET → Option String) (st : Process DB) (a : Action) : SOCKET → Option String :=
  match a with
  | .accept s _ => if s ∈ st.g_CliSocketArr then o else Function.update o s none
  | a =>
    match assigns sqlite st a with
    | some (s, sid) => Function.update o s (some sid)
    | none => o

def logins (tr : List (Process DB × Action)) : SOCKET → Option String :=
  observe (fun _ => none) (see sqlite) tr

/-- No connection is accepted over an entity that has a session id, and no
request without a session id comes from a client without one. -/
def Vouched (st : Process DB) : Action → Prop
  | .accept s _ => s ∈ st.g_CliSocketArr ∨ (sessions st.cache s).getD "" = ""
  | .packet s m _ => carried m = some "" → sessions st.cache s ≠ some ""
  | _ => True

instance (st : Process DB) : ∀ a, Decidable (Vouched st a)
  | .accept s _ => inferInstanceAs
      (Decidable (s ∈ st.g_CliSocketArr ∨ (sessions st.cache s).getD "" = ""))
  | .close _ => inferInstanceAs (Decidable True)
  | .packet s m _ => inferInstanceAs
      (Decidable (carried m = some "" → sessions st.cache s ≠ some ""))
  | .poll _ _ => inferInstanceAs (Decidable True)

end Observer

section Writes

variable {c c' : CCache} {s : SOCKET} {e : CClientEntity} {out : Outbox}

theorem sessions_of_entity (h : c.GetEntity s = some e) : sessions c s = some e.SessionID := by
  rw [sessions, h]
  rfl

theorem sessions_shells (c : CCache) : sessions c = fun s => (shells c s).map (·.SessionID) := by
  funext s
  rw [sessions, shells, Option.map_map]
  rfl

theorem sessions_congr (h : shells c' = shells c) : sessions c' = sessions c := by
  rw [sessions_shells, sessions_shells, h]

theorem sessions_update {o : Option CClientEntity}
    (h : shells c' = Function.update (shells c) s (o.map shell)) :
    sessions c' = Function.update (sessions c) s (o.map (·.SessionID)) := by
  rw [sessions_shells, sessions_shells, h]
  funext t
  by_cases ht : t = s
  · subst ht
    rw [Function.update_self, Function.update_self, Option.map_map]
    rfl
  · rw [Function.update_of_ne ht, Function.update_of_ne ht]

theorem sessions_writeEntity_same {e' : CClientEntity} (h : c.GetEntity s = some e)
    (he : e'.SessionID = e.SessionID) : sessions (c.writeEntity s e') = sessions c := by
  have hup : sessions (c.writeEntity s e') = _ :=
    sessions_update (o := some e') (shells_writeEntity c s e')
  rw [hup, Option.map_some, he, ← sessions_of_entity h, Function.update_eq_self]

theorem sessions_writeTimed (c : CCache) (f : CClientEntity → CClientEntity)
    (hf : ∀ e, (f e).SessionID = e.SessionID) : sessions (writeTimed s f c) = sessions c := by
  rw [writeTimed]
  cases he : c.GetEntity s with
  | none => rfl
  | some e => exact sessions_writeEntity_same he (hf e)

theorem sessions_setBroken (c : CCache) (b : Bool) :
    sessions (writeTimed s (fun e => { e with isBroken := b }) c) = sessions c :=
  sessions_writeTimed c _ fun _ => rfl

theorem sessions_endTick (scene : CurScene) (c : CCache) :
    sessions (endTick s scene c out).1 = sessions c :=
  sessions_writeTimed c _ fun _ => rfl

theorem countedTick_sessions {scene : CurScene} (h : countedTick s scene e c = .ok (c', out)) :
    sessions c' = sessions c := by
  obtain ⟨c₁, c₂, o, hleave, hflag, rfl⟩ := countedTick_spec h
  have hflag' : sessions c₂ = sessions c₁ := by
    obtain rfl | ⟨b, rfl⟩ := hflag
    · rfl
    · exact sessions_setBroken c₁ b
  rw [sessions_endTick, hflag']
  split at hleave
  · obtain ⟨o', hleave⟩ := hleave
    exact sessions_congr (leaveOwnRoom_shells hleave)
  · rw [hleave]

end Writes

section Steps

variable {DB : Type} {sqlite : Sqlite DB} {st st' : Process DB} {s t : SOCKET} {out : Outbox}
  {sid : String}

theorem TimerFunc_sessions {arg : Option Nat} (h : TimerFunc arg st = .ok (st', out))
    (ht : sessions st'.cache t = some sid) : sessions st.cache t = some sid := by
  cases arg with
  | none =>
    cases h
    exact ht
  | some ptr =>
    obtain ⟨info, -, ⟨-, rfl, -⟩ | ⟨e, -, ⟨-, rfl, -⟩ | ⟨-, c, hc, rfl⟩⟩⟩ := TimerFunc_spec h
    · exact ht
    · have hup : sessions (st.cache.EraseEntity info.clientSocket) = _ :=
        sessions_update (o := none) (shells_eraseEntity st.cache info.clientSocket)
      simp only [evict] at ht
      rw [hup] at ht
      by_cases hts : t = info.clientSocket
      · subst hts
        rw [Function.update_self] at ht
        cases ht
      · rwa [Function.update_of_ne hts] at ht
    · rwa [countedTick_sessions hc] at ht

theorem poll_sessions {j now : Nat} (h : KeepAlive.poll j now st = .ok (st', out))
    (ht : sessions st'.cache t = some sid) : sessions st.cache t = some sid := by
  have hspec := poll_spec h
  split at hspec
  · obtain ⟨st₁, hf, hcache⟩ := hspec
    rw [hcache] at ht
    exact TimerFunc_sessions hf ht
  · rwa [hspec.1] at ht

theorem Start_sessions {m : UnPacket} (h : Start s m st = .ok (st', out)) :
    sessions st'.cache = sessions st.cache := by
  obtain hcache | ⟨e, e', he, -, hsid, hcache⟩ := Start_spec h
  · rw [hcache]
  · rw [hcache]
    exact sessions_writeEntity_same he hsid

theorem StartCServer_sessions {junk : Int} (hs : s ∉ st.g_CliSocketArr)
    (h : StartCServer s junk st = .ok st') : sessions st'.cache = sessions st.cache ∨
      sessions st'.cache = Function.update (sessions st.cache) s (some "") := by
  have hspec := StartCServer_spec hs h
  split at hspec
  · right
    rw [hspec]
    exact sessions_update (o := some _) (shells_writeEntity st.cache s _)
  · rename_i e he
    left
    rw [hspec]
    exact sessions_writeEntity_same he rfl

theorem ProcessMsgLogic_sessions {m : UnPacket} {rand : List Nat} {e : CClientEntity}
    (he : st.cache.GetEntity s = some e)
    (h : ProcessMsgLogic sqlite s m rand st = .ok (st', out)) : sessions st'.cache =
      match (if m.curscene = .CS_Login then loginOf sqlite m.loginrequest rand st.db else none) with
      | none => sessions st.cache
      | some sid => Function.update (sessions st.cache) s (some sid) := by
  by_cases hm : m.curscene = .CS_KeepAlive
  · rw [ProcessMsgLogic, hm] at h
    rw [hm]
    exact Start_sessions h
  · have hshells := ProcessMsgLogic_shells he hm h
    cases hl : if m.curscene = .CS_Login then loginOf sqlite m.loginrequest rand st.db else none with
    | none =>
      rw [hl] at hshells
      exact sessions_congr hshells
    | some sid =>
      rw [hl] at hshells
      exact sessions_update (o := some { e with SessionID := sid }) hshells

/-- A packet writes the session id that it assigns, and no other. -/
theorem receive_sessions {m : UnPacket} {rand : List Nat}
    (h : receive sqlite s m rand st = .ok (st', out)) :
    (assigns sqlite st (.packet s m rand) = none ∧ sessions st'.cache = sessions st.cache) ∨
      ∃ sid, assigns sqlite st (.packet s m rand) = some (s, sid) ∧
        sessions st'.cache = Function.update (sessions st.cache) s (some sid) := by
  rw [receive] at h
  by_cases hr : readable s st = true
  · rw [if_pos hr] at h
    cases he : st.cache.GetEntity s with
    | none =>
      simp only [he] at h
      cases h
      exact .inl ⟨by simp [assigns, he], rfl⟩
    | some e =>
      simp only [he] at h
      have hsess := ProcessMsgLogic_sessions he h
      by_cases hm : m.curscene = .CS_Login
      · rw [if_pos hm] at hsess
        cases hl : loginOf sqlite m.loginrequest rand st.db with
        | none =>
          rw [hl] at hsess
          exact .inl ⟨by simp [assigns, hl], hsess⟩
        | some sid =>
          rw [hl] at hsess
          exact .inr ⟨sid, by simp [assigns, hr, he, hm, hl], hsess⟩
      · rw [if_neg hm] at hsess
        exact .inl ⟨by simp [assigns, hm], hsess⟩
  · rw [if_neg hr] at h
    cases h
    exact .inl ⟨by simp [assigns, hr], rfl⟩

end Steps

section Soundness

variable {DB : Type} {sqlite : Sqlite DB} {db : DB} {st st' : Process DB} {out : Outbox}
  {o : SOCKET → Option String}

/-- Every session id in use was assigned on the current connection. -/
def Known (o : SOCKET → Option String) (c : CCache) : Prop :=
  ∀ s sid, sessions c s = some sid → sid ≠ "" → o s = some sid

theorem known_accept {s : SOCKET} {junk : Int} (hi : Known o st.cache)
    (hc : Vouched st (.accept s junk)) (h : StartCServer s junk st = .ok st') :
    Known (see sqlite o st (.accept s junk)) st'.cache := by
  intro t sid ht hne
  by_cases hs : s ∈ st.g_CliSocketArr
  · rw [StartCServer, if_pos hs] at h
    cases h
    rw [see, if_pos hs]
    exact hi t sid ht hne
  · rw [see, if_neg hs]
    obtain hsame | hnew := StartCServer_sessions hs h
    · rw [hsame] at ht
      have hts : t ≠ s := by
        rintro rfl
        have hempty := hc.resolve_left hs
        rw [ht] at hempty
        exact hne hempty
      rw [Function.update_of_ne hts]
      exact hi t sid ht hne
    · rw [hnew] at ht
      have hts : t ≠ s := by
        rintro rfl
        rw [Function.update_self, Option.some.injEq] at ht
        exact hne ht.symm
      rw [Function.update_of_ne hts] at ht ⊢
      exact hi t sid ht hne

theorem known_packet {s : SOCKET} {m : UnPacket} {rand : List Nat} (hi : Known o st.cache)
    (h : receive sqlite s m rand st = .ok (st', out)) :
    Known (see sqlite o st (.packet s m rand)) st'.cache := by
  intro t sid ht hne
  obtain ⟨hno, hsame⟩ | ⟨sid', has, hupd⟩ := receive_sessions h
  · rw [hsame] at ht
    simp only [see, hno]
    exact hi t sid ht hne
  · rw [hupd] at ht
    simp only [see, has]
    by_cases hts : t = s
    · subst hts
      rwa [Function.update_self] at ht ⊢
    · rw [Function.update_of_ne hts] at ht ⊢
      exact hi t sid ht hne

theorem known_see {a : Action} (hi : Known o st.cache) (hc : Vouched st a)
    (h : step sqlite st a = .ok (st', out)) : Known (see sqlite o st a) st'.cache := by
  cases a with
  | accept s junk =>
    obtain ⟨st₁, hs, h⟩ := of_map_ok h
    cases h
    exact known_accept hi hc hs
  | close s =>
    have hcache : st'.cache = st.cache := by
      simp only [step] at h
      split at h <;> cases h <;> rfl
    rw [hcache]
    exact hi
  | packet s m rand =>
    obtain ⟨x, hp, h⟩ := of_map_ok h
    rw [cache_of_deliver h]
    exact known_packet hi hp
  | poll j now =>
    obtain ⟨x, hp, h⟩ := of_map_ok h
    rw [cache_of_deliver h]
    intro t sid ht hne
    exact hi t sid (poll_sessions hp ht) hne

/-- In a run whose steps are vouched for, the last of them a request of `s`
that passes the check, a login on the current connection of `s` has succeeded
and the latest one assigned the session id of the request. -/
theorem request_follows_login (tr : List (Process DB × Action)) (st : Process DB) (s : SOCKET)
    (m : UnPacket) (rand : List Nat) (sid : String) (h : ServerRun sqlite db tr st)
    (hc : ∀ x ∈ (st, .packet s m rand) :: tr, Vouched x.1 x.2) (hm : carried m = some sid)
    (hs : st.cache.CheckSessionValid s sid = true) : logins sqlite tr s = some sid := by
  have hknown : Known (logins sqlite tr) st.cache := by
    refine Run.always (I := fun tr st => Known (logins sqlite tr) st.cache) (C := Vouched) ?_ ?_ h
      fun x hx => hc x (List.mem_cons_of_mem _ hx)
    · intro t sid ht
      simp [sessions, start, CCache.GetEntity] at ht
    · rintro tr st a st' - hi hca ⟨out, hstep⟩
      exact known_see hi hca hstep
  have hsess : sessions st.cache s = some sid := by
    rw [CCache.CheckSessionValid] at hs
    split at hs
    · rename_i e he
      rw [sessions_of_entity he, of_decide_eq_true hs]
    · cases hs
  apply hknown s sid hsess
  rintro rfl
  exact hc _ List.mem_cons_self hm hsess

end Soundness

def oneUser : Sqlite Unit where
  exec := fun db q =>
    if some q = SelectWhere "userInfo" ["name", "password"] [quoted "ann", quoted "pw"] 2 then
      (db, some { rows := [{ column_text := fun _ => none, column_int := fun _ => 0 }] })
    else (db, some { done := true })

def login (s : SOCKET) (username password : String) : Action :=
  .packet s { curscene? := some .CS_Login
              loginrequest? := some { username? := some username, password? := some password } }
    (List.replicate 6 0)

def roomList (sid : String) : UnPacket :=
  { curscene? := some .CS_WaitRoom
    hallrequest? := some { sessionid? := some sid, msgtype? := some .HST_GetRoomList } }

theorem request_after_login : ∃ tr st, ServerRun oneUser () tr st ∧
    actions tr = [.accept 7 0, login 7 "ann" "pw"] ∧
    st.cache.CheckSessionValid 7 "ann_111111" = true ∧
    logins oneUser tr 7 = some "ann_111111" := by
  obtain ⟨tr, st, hrun, hact, hp⟩ := exists_run oneUser () [.accept 7 0, login 7 "ann" "pw"]
    (fun tr st => st.cache.CheckSessionValid 7 "ann_111111" &&
      ((st, .packet 7 (roomList "ann_111111") []) :: tr).all fun x => decide (Vouched x.1 x.2))
    (by decide +kernel)
  obtain ⟨hs, hvouched⟩ := Bool.and_eq_true_iff.mp hp
  have hc := fun x hx => of_decide_eq_true (List.all_eq_true.mp hvouched x hx)
  exact ⟨tr, st, hrun, hact, hs, request_follows_login tr st 7 (roomList "ann_111111") []
    "ann_111111" hrun hc rfl hs⟩

/-- A client that never logged in passes the check without a session id. -/
theorem request_without_login : ∃ tr st, ServerRun noTables () tr st ∧
    actions tr = [.accept 7 0] ∧ carried (roomList "") = some "" ∧
    st.cache.CheckSessionValid 7 "" = true ∧ logins noTables tr 7 = none := by
  obtain ⟨tr, st, hrun, hact, hp⟩ := exists_run noTables () [.accept 7 0]
    (fun tr st => st.cache.CheckSessionValid 7 "" && decide (logins noTables tr 7 = none))
    (by decide +kernel)
  obtain ⟨hs, hnone⟩ := Bool.and_eq_true_iff.mp hp
  exact ⟨tr, st, hrun, hact, rfl, hs, of_decide_eq_true hnone⟩

end JiraGame.Session
