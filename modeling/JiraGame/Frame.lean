import JiraGame.Links

namespace JiraGame.Frame

open JiraGame.Scene JiraGame.Command JiraGame.DBServer JiraGame.Cache JiraGame.HallScene
open JiraGame.ServerState JiraGame.KeepAlive JiraGame.Server JiraGame.RoomTable
open JiraGame.Refinement JiraGame.RoomChanges JiraGame.Runs JiraGame.Links JiraGame.Lib.History

section Lobby

def client : Event → Option SOCKET
  | .quiet => none
  | .enter s | .evict s | .select s _ _ | .wait s | .start s | .sync s _ | .create s _ _ => some s
  | .join s _ _ _ _ | .leave s _ _ | .gameOver s _ => some s

def target : Event → Option Int
  | .create _ id _ => some id
  | .join _ k _ _ _ | .leave _ k _ | .gameOver _ k => some k
  | _ => none

/-- What a step may do to the role infos of other clients than `actor`: nothing,
or it makes one member who stays in the room `key` its owner, or, when the game
is over, it takes the members of that room out of it. -/
inductive Others (l l' : Lobby) (actor : Option SOCKET) (key : Option Int) (ends : Prop) : Prop
  | kept : (∀ t, actor ≠ some t → l'.role t = l.role t) → Others l l' actor key ends
  | promoted (k : Int) (r' : RoomInfo) (q : PlayerInfo) :
      key = some k → l'.room k = some r' → q ∈ r'.playerinfo →
      (∀ t, actor ≠ some t → l'.role t =
        if t = q.socket then (l.role t).map (·.set_isroomctl true) else l.role t) →
      Others l l' actor key ends
  | cleared (k : Int) (r : RoomInfo) :
      ends → key = some k → l.room k = some r → l'.room k = none →
      (∀ t, actor ≠ some t → l'.role t =
        if t ∈ r.playerinfo.map PlayerInfo.socket then (l.role t).map (·.set_roomid 0)
        else l.role t) → Others l l' actor key ends

variable {l l' : Lobby} {ev : Event} {s : SOCKET} {k : Int}

theorem Others.imp {actor actor' : Option SOCKET} {key key' : Option Int} {ends ends' : Prop}
    (ha : ∀ t, actor = some t → actor' = some t) (hk : ∀ k, key = some k → key' = some k)
    (ho : ends → ends') (h : Others l l' actor key ends) : Others l l' actor' key' ends' := by
  have hne : ∀ t, actor' ≠ some t → actor ≠ some t := fun t hn he => hn (ha t he)
  cases h with
  | kept hrole => exact .kept fun t ht => hrole t (hne t ht)
  | promoted k r' q hkey hr hq hrole =>
    exact .promoted k r' q (hk k hkey) hr hq fun t ht => hrole t (hne t ht)
  | cleared k r hover hkey hr hr' hrole =>
    exact .cleared k r (ho hover) (hk k hkey) hr hr' fun t ht => hrole t (hne t ht)

theorem role_modify_of_ne (f : PlayerInfo → PlayerInfo) {t : SOCKET} (ht : some s ≠ some t) :
    (l.modify s f).role t = l.role t := by
  rw [Lobby.role_modify, if_neg fun he => ht (congrArg some he.symm)]

theorem room_frame (hk : Keyed l) {j : Int} (hj : target ev ≠ some j) :
    (l.apply ev).room j = l.room j := by
  cases ev with
  | create s id roomname =>
    have hne : j ≠ id := fun he => hj (congrArg some he.symm)
    cases hp : l.role s with
    | none => simp only [Lobby.apply, hp]
    | some p =>
      simp only [Lobby.apply, hp, Lobby.room_modify]
      split
      · rw [Lobby.room_setRoom, if_neg hne]
      · rfl
  | join s k team teamid via =>
    have hne : j ≠ k := fun he => hj (congrArg some he.symm)
    simp only [Lobby.apply]
    split
    · rw [Lobby.room_modify, Lobby.room_setRoom, if_neg hne]
    · rfl
  | leave s k via =>
    have hne : j ≠ k := fun he => hj (congrArg some he.symm)
    simp only [Lobby.apply]
    split
    · rename_i r p hr hp
      rw [leaveKey_eq hk hr]
      split
      · rw [Lobby.room_modify, Lobby.room_setRoom, if_neg hne]
      · rw [Lobby.room_setRoom, if_neg hne, Lobby.room_modify, Lobby.room_promote]
    · rfl
  | gameOver s k =>
    have hne : j ≠ k := fun he => hj (congrArg some he.symm)
    simp only [Lobby.apply]
    split
    · rfl
    · exact Function.update_of_ne hne _ _
  | _ => rfl

theorem role_frame (hk : Keyed l) (hen : l.Enabled ev) :
    Others l (l.apply ev) (client ev) (target ev) (∃ s k, ev = .gameOver s k) := by
  cases ev with
  | quiet => exact .kept fun t _ => rfl
  | start s => exact .kept fun t _ => rfl
  | enter s =>
    exact .kept fun t ht => by
      rw [Lobby.apply, Lobby.role_setRole, if_neg fun he => ht (congrArg some he.symm)]
  | evict s =>
    exact .kept fun t ht => by
      rw [Lobby.apply, Lobby.role_setRole, if_neg fun he => ht (congrArg some he.symm)]
  | select s roletype row => exact .kept fun t ht => role_modify_of_ne _ ht
  | wait s => exact .kept fun t ht => role_modify_of_ne _ ht
  | sync s payload => exact .kept fun t ht => role_modify_of_ne _ ht
  | create s id roomname =>
    obtain ⟨p, hp, -⟩ := hen
    refine .kept fun t ht => ?_
    simp only [Lobby.apply, hp]
    rw [role_modify_of_ne _ ht]
    split <;> rfl
  | join s k team teamid via =>
    obtain ⟨p, r, hp, hr, -⟩ := hen
    refine .kept fun t ht => ?_
    simp only [Lobby.apply, hp, hr]
    rw [role_modify_of_ne _ ht, Lobby.role_setRoom]
  | leave s k via =>
    obtain ⟨p, r, hp, hr, -⟩ := hen
    by_cases hlast : lastLeaves r = true
    · refine .kept fun t ht => ?_
      simp only [Lobby.apply, hp, hr, if_pos hlast]
      rw [role_modify_of_ne _ ht, Lobby.role_setRoom]
    · have hrole : ∀ t, client (.leave s k via) ≠ some t → (l.apply (.leave s k via)).role t =
          (l.promote (stay via p r.playerinfo).2).role t := by
        intro t ht
        simp only [Lobby.apply, hp, hr, if_neg hlast]
        rw [Lobby.role_setRoom, role_modify_of_ne _ ht]
      cases hq : (stay via p r.playerinfo).2 with
      | none =>
        refine .kept fun t ht => ?_
        rw [hrole t ht, hq]
        rfl
      | some q =>
        refine .promoted k _ q rfl (room_leave hk hp hr hlast) (stay_owner_mem hq) fun t ht => ?_
        rw [hrole t ht, hq, Lobby.promote, Lobby.role_modify]
        split
        · rename_i he
          rw [he]
        · rfl
  | gameOver s k =>
    cases hr : l.room k with
    | none =>
      refine .kept fun t _ => ?_
      simp only [Lobby.apply, hr]
    | some r =>
      refine .cleared k r ⟨s, k, rfl⟩ rfl hr ?_ fun t _ => ?_
      · simp only [Lobby.apply, hr]
        exact Function.update_self k none l.room
      · simp only [Lobby.apply, hr]

end Lobby

variable {DB : Type} {sqlite : Sqlite DB} {db : DB}

def actor (st : Process DB) : Action → Option SOCKET
  | .accept s _ | .close s | .packet s _ _ => some s
  | .poll j now => (dueArg j now st).bind fun ptr => st.infos[ptr]?.map (·.clientSocket)

/-- The room a step is about: the one with the generated id, the one named in
the request, or the one the acting client is in. -/
def namedRoom (st : Process DB) : Action → Option Int
  | .packet s m rand =>
    match m.curscene with
    | .CS_WaitRoom =>
      match m.hallrequest.msgtype with
      | .HST_CreateRoom => (GenrateOnlyRoomID st.cache rand).map Prod.fst
      | .HST_JoinTeam | .HST_JoinRoom => some m.hallrequest.inviteinfo.roomid
      | .HST_LeaveRoom => roomOf (lobby st.cache) s
      | _ => none
    | .CS_MainScene =>
      match m.gamemainrequest.msgtype with
      | .GMT_GameOver => roomOf (lobby st.cache) s
      | _ => none
    | _ => none
  | .poll j now => (actor st (.poll j now)).bind (roomOf (lobby st.cache))
  | _ => none

def gameOverRequest : Action → Bool
  | .packet _ m _ => m.curscene = .CS_MainScene && m.gamemainrequest.msgtype = .GMT_GameOver
  | _ => false

section Events

variable {c : CCache} {st : Process DB} {s t : SOCKET} {k : Int}

/-- The event is about no other client than `s` and no other room than `key`,
and it ends a game only if `ends`. -/
structure About (s : SOCKET) (key : Option Int) (ends : Bool) (ev : Event) : Prop where
  client_eq : ∀ t, client ev = some t → some s = some t
  target_eq : ∀ k, target ev = some k → key = some k
  ends_of : ∀ t k, ev = .gameOver t k → ends = true

theorem About.quiet (s : SOCKET) (key : Option Int) (ends : Bool) : About s key ends .quiet where
  client_eq := by intro t h; cases h
  target_eq := by intro k h; cases h
  ends_of := by intro t k h; cases h

theorem About.own (key : Option Int) (ends : Bool) {ev : Event} (hc : client ev = some s)
    (ht : target ev = none) : About s key ends ev where
  client_eq := by
    intro t h
    rw [← hc, h]
  target_eq := by
    intro k h
    rw [ht] at h
    cases h
  ends_of := by
    intro t k h
    rw [h] at ht
    cases ht

theorem About.join (s : SOCKET) (k : Int) (team : TeamType) (teamid : Int) (via : JoinPath)
    (ends : Bool) : About s (some k) ends (.join s k team teamid via) where
  client_eq := fun _ h => h
  target_eq := fun _ h => h
  ends_of := by intro t k h; cases h

theorem About.leave (s : SOCKET) (k : Int) (via : LeavePath) (ends : Bool) :
    About s (some k) ends (.leave s k via) where
  client_eq := fun _ h => h
  target_eq := fun _ h => h
  ends_of := by intro t k h; cases h

theorem roomOf_entity {e : CClientEntity} (h : c.GetEntity s = some e) :
    roomOf (lobby c) s = some e.roleInfo.roomid := by
  rw [roomOf, role_of_entity c h]
  rfl

variable (ends : Bool)

theorem createEvent_about (req : HallRequest) (rand : List Nat) (e : CClientEntity) (c : CCache) :
    About s ((GenrateOnlyRoomID c rand).map Prod.fst) ends (createEvent s req rand e c) := by
  rw [createEvent]
  split
  · exact About.quiet _ _ _
  · cases GenrateOnlyRoomID c rand with
    | none => exact About.quiet _ _ _
    | some x => exact ⟨fun _ h => h, fun _ h => h, by intro t k h; cases h⟩

theorem joinTeamEvent_about (invite : InviteInfo) (c : CCache) :
    About s (some invite.roomid) ends (joinTeamEvent s invite c) := by
  rw [joinTeamEvent]
  split
  · split
    · exact About.quiet _ _ _
    · exact About.join _ _ _ _ _ _
  · exact About.quiet _ _ _

theorem joinRoomEvent_about (invite : InviteInfo) (e : CClientEntity) (c : CCache) :
    About s (some invite.roomid) ends (joinRoomEvent s invite e c) := by
  rw [joinRoomEvent]
  split
  · split
    · exact About.leave _ _ _ _
    · split
      · exact About.join _ _ _ _ _ _
      · exact About.quiet _ _ _
  · exact About.quiet _ _ _

theorem leaveEvent_about (via : LeavePath) (c : CCache) :
    About s (roomOf (lobby c) s) ends (leaveEvent s via c) := by
  rw [leaveEvent]
  cases he : c.GetEntity s with
  | none => exact About.quiet _ _ _
  | some e =>
    rw [roomOf_entity he]
    dsimp only
    split
    · exact About.leave _ _ _ _
    · exact About.quiet _ _ _

theorem hallEvent_about {m : UnPacket} (hm : m.curscene = .CS_WaitRoom) (rand : List Nat) :
    About s (namedRoom st (.packet s m rand)) ends (hallEvent s m.hallrequest rand st.cache) := by
  rw [hallEvent]
  split
  · exact About.quiet _ _ _
  · split
    · simp only [namedRoom, hm]
      cases m.hallrequest.msgtype with
      | HST_CreateRoom => exact createEvent_about ends _ _ _ _
      | HST_JoinTeam => exact joinTeamEvent_about ends _ _
      | HST_JoinRoom => exact joinRoomEvent_about ends _ _ _
      | HST_LeaveRoom => exact leaveEvent_about ends _ _
      | HST_GameWaite => exact About.own _ _ rfl rfl
      | HST_GameStart => exact About.own _ _ rfl rfl
      | _ => exact About.quiet _ _ _
    · exact About.quiet _ _ _

theorem mainEvent_about {m : UnPacket} (hm : m.curscene = .CS_MainScene) (rand : List Nat) :
    About s (namedRoom st (.packet s m rand)) (gameOverRequest (.packet s m rand))
      (mainEvent s m.gamemainrequest st.cache) := by
  rw [mainEvent]
  split
  · exact About.quiet _ _ _
  · rename_i e he
    split
    · cases hreq : m.gamemainrequest.msgtype with
      | GMT_RsyncAttr | GMT_RsyncStatus =>
        dsimp only
        split
        · exact About.own _ _ rfl rfl
        · exact About.quiet _ _ _
      | GMT_GameOver =>
        simp only [namedRoom, gameOverRequest, hm, hreq, roomOf_entity he]
        exact ⟨fun _ h => h, fun _ h => h, fun _ _ _ => rfl⟩
      | _ => exact About.quiet _ _ _
    · exact About.quiet _ _ _

theorem selectEvent_about (req : SelectRoleRequest) (db : DB) (c : CCache) (key : Option Int) :
    About s key ends (selectEvent sqlite s req db c) := by
  rw [selectEvent]
  split
  · split
    · exact About.own _ _ rfl rfl
    · split
      · exact About.own _ _ rfl rfl
      · exact About.quiet _ _ _
  · exact About.quiet _ _ _

theorem packetEvent_about (m : UnPacket) (rand : List Nat) :
    About s (namedRoom st (.packet s m rand)) (gameOverRequest (.packet s m rand))
      (packetEvent sqlite s m rand st) := by
  rw [packetEvent]
  split
  · exact selectEvent_about _ _ _ _ _
  · rename_i hm
    exact hallEvent_about _ hm rand
  · rename_i hm
    exact mainEvent_about hm rand
  · exact About.quiet _ _ _

theorem tickEvent_about {ptr : Nat} {info : CKeepAliveInfo} (hi : st.infos[ptr]? = some info) :
    About info.clientSocket (roomOf (lobby st.cache) info.clientSocket) ends (tickEvent ptr st) := by
  simp only [tickEvent, hi]
  split
  · exact About.quiet _ _ _
  · split
    · exact About.own _ _ rfl rfl
    · split
      · exact leaveEvent_about _ _ _
      · exact About.quiet _ _ _

/-- The event of a step is about its client and about the room it names. -/
theorem event_about (st : Process DB) (a : Action) :
    event sqlite st a = .quiet ∨ ∃ s, actor st a = some s ∧
      About s (namedRoom st a) (gameOverRequest a) (event sqlite st a) := by
  cases a with
  | accept s junk =>
    simp only [event]
    split
    · exact .inl rfl
    · split
      · exact .inr ⟨s, rfl, About.own _ _ rfl rfl⟩
      · exact .inl rfl
  | close s => exact .inl rfl
  | packet s m rand =>
    simp only [event]
    split
    · split
      · exact .inl rfl
      · exact .inr ⟨s, rfl, packetEvent_about m rand⟩
    · exact .inl rfl
  | poll j now =>
    simp only [event]
    cases hd : dueArg j now st with
    | none => exact .inl rfl
    | some ptr =>
      cases hi : st.infos[ptr]? with
      | none =>
        simp only [tickEvent, hi]
        exact .inl trivial
      | some info =>
        have hactor : actor st (.poll j now) = some info.clientSocket := by
          rw [actor, hd, Option.bind_some, hi]
          rfl
        refine .inr ⟨info.clientSocket, hactor, ?_⟩
        rw [namedRoom, hactor]
        exact tickEvent_about _ hi

end Events

/-- A completed step changes no other room than the one it names, and of the
role infos besides the one of its client only an owner flag of one member who
stays in that room or, when the game is over, the room ids of its members. -/
theorem step_frame (tr : List (Process DB × Action)) (st st' : Process DB) (a : Action)
    (h : ServerRun sqlite db tr st) (hstep : Steps sqlite st a st') :
    (∀ j, st'.cache.FindEntityRoom j ≠ st.cache.FindEntityRoom j → namedRoom st a = some j) ∧
      Others (lobby st.cache) (lobby st'.cache) (actor st a) (namedRoom st a)
        (gameOverRequest a = true) := by
  have hk : Keyed (lobby st.cache) := lobby_invariant keyed_empty (fun _ _ => keyed_apply) h
  obtain ⟨out, hstep⟩ := hstep
  obtain ⟨hen, happ⟩ := step_refines hstep
  have hroom : ∀ j, target (event sqlite st a) ≠ some j →
      st'.cache.FindEntityRoom j = st.cache.FindEntityRoom j := by
    intro j hj
    rw [← room_lobby, happ]
    exact room_frame hk hj
  have hothers := role_frame hk hen
  rw [← happ] at hothers
  obtain hquiet | ⟨s, hactor, habout⟩ := @event_about DB sqlite st a
  · rw [hquiet] at hroom hothers
    refine ⟨?_, ?_⟩
    · intro j hj
      exact absurd (hroom j (by intro h; cases h)) hj
    · refine hothers.imp ?_ ?_ ?_
      · intro t ht
        cases ht
      · intro k hk
        cases hk
      · rintro ⟨t, k, hover⟩
        cases hover
  · refine ⟨?_, ?_⟩
    · intro j hj
      exact habout.target_eq j (by_contra fun hne => hj (hroom j hne))
    · rw [hactor]
      refine hothers.imp habout.client_eq habout.target_eq ?_
      rintro ⟨t, k, hover⟩
      exact habout.ends_of t k hover

/-- The owner of a room leaves it. -/
theorem owner_leaves_frame : ∃ tr st st', ServerRun noTables () tr st ∧
    Steps noTables st (leaveRoom 7) st' ∧ namedRoom st (leaveRoom 7) = some 111111 ∧
    (∀ j, st'.cache.FindEntityRoom j ≠ st.cache.FindEntityRoom j →
      namedRoom st (leaveRoom 7) = some j) ∧
    Others (lobby st.cache) (lobby st'.cache) (actor st (leaveRoom 7))
      (namedRoom st (leaveRoom 7)) (gameOverRequest (leaveRoom 7) = true) := by
  obtain ⟨tr, st, st', hrun, -, hstep, hkey⟩ := exists_step noTables ()
    [.accept 7 0, createRoom 7, .accept 8 0, joinTeam 8 111111 .Team_B 0] (leaveRoom 7)
    (fun st _ => decide (namedRoom st (leaveRoom 7) = some 111111)) (by decide +kernel)
  exact ⟨tr, st, st', hrun, hstep, of_decide_eq_true hkey,
    step_frame tr st st' (leaveRoom 7) hrun hstep⟩

end JiraGame.Frame
