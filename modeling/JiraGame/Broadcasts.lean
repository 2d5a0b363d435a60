import JiraGame.RoomRecord

namespace JiraGame.Broadcasts

open JiraGame.Scene JiraGame.Command JiraGame.DBServer JiraGame.Cache JiraGame.HallScene
open JiraGame.AccountScenes JiraGame.ServerState JiraGame.KeepAlive JiraGame.Server
open JiraGame.ProcessFrame JiraGame.RoomTable JiraGame.Refinement JiraGame.RoomChanges
open JiraGame.RoomRecord JiraGame.SeatGrid JiraGame.Runs JiraGame.Lib.History
open JiraGame.Lib.Fails

/-- The fields of a member that a join message repeats. -/
def shown (p : PlayerInfo) : Int × String × Int × Bool × RoomType × TeamType × Int :=
  (p.roleid, p.name, p.roletype, p.isroomctl, p.roomstate, p.team, p.teamid)

/-- All packets carry one message, and they go to exactly the sockets of a
roster. -/
structure Broadcast (ret : HallReturn) (ps : List PlayerInfo) (out : Outbox) : Prop where
  message : ∀ x ∈ out, x.2 = hallPacket ret
  addressees : ∀ t, t ∈ out.map Prod.fst ↔ t ∈ ps.map PlayerInfo.socket

/-- What a client makes of a leave message: whoever has the role id of the first
friend goes, and the second friend, if there is one, becomes owner. -/
def applyLeave (ret : HallReturn) (ps : List PlayerInfo) : List PlayerInfo :=
  match ret.friendlist with
  | [] => ps
  | leaver :: more =>
    (ps.filter fun p => p.roleid ≠ leaver.roleid).map (crown more.head?)

/-- The packets of a leave around its broadcast: `LeaveRoom` first answers the
leaver, and the heartbeat goes on to the notice of its tick. -/
def leavePackets (s : SOCKET) (via : LeavePath) (scene : CurScene) (out : Outbox) : Outbox :=
  match via with
  | .leaveRoom => (s, hallPacket { msgtype? := some .HST_LeaveRoom }) :: out
  | .joinRoom => out
  | .keepAlive => out ++ heartbeatNotice s scene

section Lists

variable {ps : List PlayerInfo}

theorem shown_friendOf (p : PlayerInfo) : shown (friendOf p) = shown p := rfl

/-- Over a roster without the seat, the loop collects all members. -/
theorem scanSeat_free {team : TeamType} {teamid : Int} (ret : HallReturn)
    (h : ∀ p ∈ ps, p.seat ≠ (team, teamid)) :
    scanSeat team teamid ps ret =
      (true, { ret with friendlist := ret.friendlist ++ ps.map friendOf }) := by
  induction ps generalizing ret with
  | nil => simp [scanSeat]
  | cons p ps ih =>
    have hp : ¬ (p.team = team ∧ p.teamid = teamid) := by
      rintro ⟨rfl, rfl⟩
      exact h p List.mem_cons_self rfl
    rw [scanSeat, if_neg hp, ih _ fun q hq => h q (List.mem_cons_of_mem _ hq)]
    simp

theorem broadcast_roster (ret : HallReturn) (ps : List PlayerInfo) :
    Broadcast ret ps (ps.map fun p => (p.socket, hallPacket ret)) where
  message := by
    intro x hx
    obtain ⟨p, -, rfl⟩ := List.mem_map.mp hx
    rfl
  addressees := by simp

theorem broadcast_others (ret : HallReturn) {s : SOCKET} (hs : s ∈ ps.map PlayerInfo.socket) :
    Broadcast ret ps
      ((((ps.map PlayerInfo.socket).filter (· ≠ s)) ++ [s]).map fun t => (t, hallPacket ret)) where
  message := by
    intro x hx
    obtain ⟨t, -, rfl⟩ := List.mem_map.mp hx
    rfl
  addressees := by
    intro t
    have hmap : ((((ps.map PlayerInfo.socket).filter (· ≠ s)) ++ [s]).map fun t =>
        (t, hallPacket ret)).map Prod.fst = ((ps.map PlayerInfo.socket).filter (· ≠ s)) ++ [s] := by
      rw [List.map_map]
      exact List.map_id _
    rw [hmap, List.mem_append, List.mem_filter, List.mem_singleton]
    by_cases ht : t = s
    · subst ht
      simp [hs]
    · simp [ht]

variable {roleid : Int} {fromRoster : Bool}

/-- The message of a leave turns the old roster into the new one. -/
theorem applyLeave_copyOthers {leaver : PlayerInfo} (hl : leaver.roleid = roleid)
    (isCaptain leader : Bool) (hnd : (ps.map PlayerInfo.seat).Nodup) {ret : HallReturn}
    (hret : ret.friendlist =
      leaver :: (copyOthers roleid fromRoster isCaptain leader ps).2.toList) :
    applyLeave ret ps = (copyOthers roleid fromRoster isCaptain leader ps).1 := by
  simp only [applyLeave, hret, hl]
  rw [copyOthers_crown isCaptain leader hnd]
  cases (copyOthers roleid fromRoster isCaptain leader ps).2 <;> rfl

end Lists

/-- The message of a join tells the roster of the room, and its members get it. -/
def JoinTold (k : Int) (c' : CCache) (out : Outbox) : Prop :=
  ∃ ret r', c'.FindEntityRoom k = some r' ∧ ret.msgtype? = some .HST_JoinTeam ∧
    Broadcast ret r'.playerinfo out ∧ ret.friendlist.map shown = r'.playerinfo.map shown

/-- When a leave keeps the room, its message turns the old roster into the new
one, and those who stay get it. -/
def LeaveTold (s : SOCKET) (k : Int) (via : LeavePath) (c c' : CCache) (out : Outbox) : Prop :=
  ∀ r r', c.FindEntityRoom k = some r → c'.FindEntityRoom k = some r' →
    ∃ ret scene sent, out = leavePackets s via scene sent ∧ ret.msgtype? = some .HST_LeaveRoom ∧
      Broadcast ret r'.playerinfo sent ∧ applyLeave ret r.playerinfo = r'.playerinfo

/-- What the packets of a handler have to tell about its event. -/
def Told (c c' : CCache) (out : Outbox) : Event → Prop
  | .join _ k _ _ _ => JoinTold k c' out
  | .leave s k via => LeaveTold s k via c c' out
  | _ => True

section Handlers

variable {c c' : CCache} {out : Outbox} {s t : SOCKET} {req : HallRequest} {e : CClientEntity}
  {k : Int} {team : TeamType} {teamid : Int}

theorem socket_mem_joined (via : JoinPath) (r : RoomInfo) (p : PlayerInfo) :
    s ∈ (joined r (entryOf via s p r team teamid)).playerinfo.map PlayerInfo.socket := by
  rw [joined, RoomInfo.add_playerinfo, List.map_append, List.map_singleton, List.mem_append,
    List.mem_singleton]
  exact .inr (by cases via <;> rfl)

theorem room_after_join {via : JoinPath} {p : PlayerInfo} {r : RoomInfo}
    (href : Refines (lobby c) (.join s k team teamid via) (lobby c'))
    (hp : (lobby c).role s = some p) (hr : c.FindEntityRoom k = some r) :
    c'.FindEntityRoom k = some (joined r (entryOf via s p r team teamid)) := by
  rw [← room_lobby, href.2]
  exact room_join hp hr

theorem JoinTeam_told (h : JoinTeam s req c = .ok (c', out)) :
    Told c c' out (joinTeamEvent s req.inviteinfo c) := by
  have href := JoinTeam_refines h
  rw [joinTeamEvent] at href ⊢
  rw [JoinTeam] at h
  cases hr : c.FindEntityRoom req.inviteinfo.roomid with
  | none => exact trivial
  | some r =>
    simp only [hr] at h href ⊢
    split
    · exact trivial
    · rename_i hseat
      rw [if_neg hseat] at href
      have hfree : ∀ p ∈ r.playerinfo, p.seat ≠ (req.inviteinfo.team, req.inviteinfo.teamid) := by
        simpa using hseat
      rw [scanSeat_free _ hfree] at h
      simp only [if_true] at h
      cases he : c.GetEntity s with
      | none => simp [he] at h
      | some e =>
        simp only [he, Except.ok.injEq, Prod.mk.injEq] at h
        obtain ⟨-, rfl⟩ := h
        refine ⟨_, _, room_after_join href (role_of_entity c he) hr, ?_,
          broadcast_others _ (socket_mem_joined _ _ _), ?_⟩
        · rfl
        · simp [joined, RoomInfo.add_playerinfo, entryOf, RoomInfo.set_freepersoncount,
            Function.comp_def, shown_friendOf]

theorem room_after_leave {via : LeavePath} {p : PlayerInfo} {r r' : RoomInfo}
    (hk : Keyed (lobby c)) (href : Refines (lobby c) (.leave s k via) (lobby c'))
    (hp : (lobby c).role s = some p) (hr : c.FindEntityRoom k = some r)
    (hr' : c'.FindEntityRoom k = some r') :
    lastLeaves r = false ∧ r'.playerinfo = (stay via p r.playerinfo).1 := by
  have hroom : ((lobby c).apply (.leave s k via)).room k = some r' := by
    rw [← href.2]
    exact hr'
  cases hlast : lastLeaves r with
  | true =>
    have hgone : ((lobby c).apply (.leave s k via)).room k = none := by
      simp only [Lobby.apply, hp, room_lobby, hr, hlast, if_true, leaveKey_eq hk hr]
      rw [Lobby.room_modify, Lobby.room_setRoom, if_pos rfl]
    rw [hgone] at hroom
    cases hroom
  | false =>
    rw [room_leave hk hp hr (by simp [hlast]), Option.some.injEq] at hroom
    rw [← hroom]
    exact ⟨rfl, rfl⟩

theorem leaveOwnRoom_told (hall : AllRecorded (lobby c)) (he : c.GetEntity s = some e)
    (h : leaveOwnRoom s c = .ok (c', out)) {r r' : RoomInfo}
    (hr : c.FindEntityRoom e.roleInfo.roomid = some r)
    (hr' : c'.FindEntityRoom e.roleInfo.roomid = some r') :
    ∃ ret, ret.msgtype? = some .HST_LeaveRoom ∧ Broadcast ret r'.playerinfo out ∧
      applyLeave ret r.playerinfo = r'.playerinfo := by
  have href := leaveOwnRoom_refines .leaveRoom (by decide) h
  simp only [leaveEvent, he, hr] at href
  obtain ⟨hlast, hroster⟩ :=
    room_after_leave hall.keyed href (role_of_entity c he) hr hr'
  have hnd := (hall _ _ hr).seats
  simp only [leaveOwnRoom, he, hr, hlast, Bool.false_eq_true, if_false] at h
  have htold : ∀ (leaver : PlayerInfo) (ret : HallReturn), ret.friendlist = leaver ::
      (copyOthers e.roleInfo.roleid false e.roleInfo.isroomctl false r.playerinfo).2.toList →
      leaver.roleid = e.roleInfo.roleid → applyLeave ret r.playerinfo = r'.playerinfo := by
    intro leaver ret hret hl
    rw [hroster]
    exact applyLeave_copyOthers hl _ _ hnd hret
  have hsent : ∀ ret : HallReturn, Broadcast ret r'.playerinfo
      ((copyOthers e.roleInfo.roleid false e.roleInfo.isroomctl false r.playerinfo).1.map fun p =>
        (p.socket, hallPacket ret)) := by
    intro ret
    rw [hroster]
    exact broadcast_roster ret _
  split at h
  · cases h
    refine ⟨_, ?_, hsent _, ?_⟩
    · rfl
    · exact htold _ _ rfl rfl
  · split at h
    · cases h
    · cases h
      refine ⟨_, ?_, hsent _, ?_⟩
      · rfl
      · exact htold _ _ rfl rfl

theorem LeaveRoom_told (hall : AllRecorded (lobby c)) (h : HallScene.LeaveRoom s c = .ok (c', out)) :
    Told c c' out (leaveEvent s .leaveRoom c) := by
  obtain ⟨⟨c₁, o⟩, hown, h⟩ := of_bind_ok h
  cases h
  rw [leaveEvent]
  cases he : c.GetEntity s with
  | none => exact trivial
  | some e =>
    dsimp only
    split
    · intro r₁ r' hr₁ hr'
      obtain ⟨ret, hmsg, hsent, happly⟩ := leaveOwnRoom_told hall he hown hr₁ hr'
      exact ⟨ret, .CS_None, o, rfl, hmsg, hsent, happly⟩
    · exact trivial

theorem JoinRoom_told (hall : AllRecorded (lobby c)) (he : c.GetEntity s = some e)
    (h : JoinRoom s req c = .ok (c', out)) :
    Told c c' out (joinRoomEvent s req.inviteinfo e c) := by
  have href := JoinRoom_refines he h
  rw [joinRoomEvent] at href ⊢
  rw [JoinRoom] at h
  cases hr : c.FindEntityRoom req.inviteinfo.roomid with
  | none => exact trivial
  | some r =>
    simp only [hr, he, IdleTeam_ID_eq] at h href ⊢
    cases hp : r.playerinfo.find? (fun p => p.roleid = e.roleInfo.roleid) with
    | some p =>
      have hid : p.roleid = e.roleInfo.roleid := by simpa using List.find?_some hp
      have hany : r.playerinfo.any (fun p => p.roleid = e.roleInfo.roleid) = true :=
        List.any_eq_true.mpr ⟨p, List.mem_of_find?_eq_some hp, by simpa using hid⟩
      rw [if_pos hany] at href ⊢
      intro r₁ r' hr₁ hr'
      rw [hr, Option.some.injEq] at hr₁
      subst hr₁
      obtain ⟨hlast, hroster⟩ := room_after_leave hall.keyed href (role_of_entity c he) hr hr'
      simp only [hp, leaveNamedRoom, hlast, Bool.false_eq_true, if_false, Except.ok.injEq,
        Prod.mk.injEq] at h
      obtain ⟨-, rfl⟩ := h
      refine ⟨{ msgtype? := some .HST_LeaveRoom
                friendlist := p :: (copyOthers e.roleInfo.roleid true false false
                  r.playerinfo).2.toList }, .CS_None, _, rfl, rfl, ?_, ?_⟩
      · rw [hroster]
        exact broadcast_roster _ _
      · rw [hroster]
        exact applyLeave_copyOthers hid false false (hall _ _ hr).seats rfl
    | none =>
      have hany : ¬ r.playerinfo.any (fun p => p.roleid = e.roleInfo.roleid) = true := by
        simpa using hp
      rw [if_neg hany] at href ⊢
      split
      · rename_i first pos js more hidle
        simp only [hidle] at href
        simp only [hp, hidle, Except.ok.injEq, Prod.mk.injEq] at h
        obtain ⟨-, rfl⟩ := h
        refine ⟨_, _, room_after_join href (role_of_entity c he) hr, ?_, broadcast_roster _ _, ?_⟩
        · rfl
        · rfl
      · exact trivial

theorem countedTick_leaves {scene : CurScene}
    (hband : (leaveBand e && (!e.isBroken && scene = .CS_WaitRoom)) = true)
    (h : countedTick s scene e c = .ok (c', out)) :
    ∃ c₁ o, leaveOwnRoom s c = .ok (c₁, o) ∧ out = o ++ heartbeatNotice s scene ∧
      lobby c' = lobby c₁ := by
  rw [Bool.and_eq_true] at hband
  obtain ⟨hl, hb⟩ := hband
  simp only [countedTick, hl, hb, if_true] at h
  obtain ⟨⟨c₁, o⟩, hleave, h⟩ := of_bind_ok h
  have hcache : c' = _ := (congrArg Prod.fst (Except.ok.inj h)).symm
  refine ⟨c₁, o, hleave, (congrArg Prod.snd (Except.ok.inj h)).symm, ?_⟩
  rw [hcache, lobby_endTick]
  exact lobby_setBroken true

theorem hallLogic_told (hall : AllRecorded (lobby c)) {rand : List Nat}
    (h : hallLogic s req rand c = .ok (c', out)) : Told c c' out (hallEvent s req rand c) := by
  rw [hallEvent]
  cases he : c.GetEntity s with
  | none => exact trivial
  | some e =>
    rw [hallLogic] at h
    dsimp only
    by_cases hs : e.SessionID = req.sessionid
    · rw [if_pos ((CheckSessionValid_iff he _).mpr hs)] at h
      rw [if_pos hs]
      cases hm : req.msgtype <;> simp only [hm] at h ⊢
      case HST_CreateRoom =>
        rw [createEvent]
        split
        · exact trivial
        · split <;> exact trivial
      case HST_JoinTeam => exact JoinTeam_told h
      case HST_JoinRoom => exact JoinRoom_told hall he h
      case HST_LeaveRoom => exact LeaveRoom_told hall h
      all_goals exact trivial
    · rw [if_neg hs]
      exact trivial

end Handlers

variable {DB : Type} {sqlite : Sqlite DB} {db : DB} {st st' : Process DB} {out : Outbox}

theorem TimerFunc_told (hall : AllRecorded (lobby st.cache)) {ptr : Nat}
    (h : TimerFunc (some ptr) st = .ok (st', out)) :
    Told st.cache st'.cache out (tickEvent ptr st) := by
  rw [tickEvent]
  obtain ⟨info, hi, ⟨he, rfl, rfl⟩ | ⟨e, he, ⟨hlate, rfl, rfl⟩ | ⟨hearly, c, ht, rfl⟩⟩⟩ :=
    TimerFunc_spec h
  · simp only [hi, he]
    exact trivial
  · simp only [hi, he, if_pos hlate]
    exact trivial
  · simp only [hi, he, if_neg hearly]
    split
    · rename_i hband
      obtain ⟨c₁, sent, hown, hout, hlob⟩ := countedTick_leaves hband ht
      simp only [leaveEvent, he]
      split
      · intro r₁ r' hr₁ hr'
        have hr₁' : c₁.FindEntityRoom e.roleInfo.roomid = some r' := by
          rw [← room_lobby, ← hlob]
          exact hr'
        obtain ⟨ret, hmsg, hsent, happly⟩ := leaveOwnRoom_told hall he hown hr₁ hr₁'
        exact ⟨ret, info.RecMessage.keepalive.curscene, sent, hout, hmsg, hsent, happly⟩
      · exact trivial
    · exact trivial

theorem mainEvent_told (c c' : CCache) (out : Outbox) (s : SOCKET) (req : GameMainRequest) :
    Told c c' out (mainEvent s req c) := by
  rw [mainEvent]
  split
  · exact trivial
  · split
    · split
      · split <;> exact trivial
      · split <;> exact trivial
      · exact trivial
      · exact trivial
    · exact trivial

theorem selectEvent_told (c c' : CCache) (out : Outbox) (s : SOCKET) (req : SelectRoleRequest)
    (db : DB) : Told c c' out (selectEvent sqlite s req db c) := by
  rw [selectEvent]
  split
  · split
    · exact trivial
    · split <;> exact trivial
  · exact trivial

theorem ProcessMsgLogic_told (hall : AllRecorded (lobby st.cache)) {s : SOCKET} {m : UnPacket}
    {rand : List Nat} (h : ProcessMsgLogic sqlite s m rand st = .ok (st', out)) :
    Told st.cache st'.cache out (packetEvent sqlite s m rand st) := by
  rw [packetEvent]
  split
  · exact selectEvent_told _ _ _ _ _ _
  · rename_i hm
    simp only [ProcessMsgLogic, hm] at h
    obtain ⟨x, hx, h⟩ := of_bind_ok h
    cases h
    exact hallLogic_told hall hx
  · exact mainEvent_told _ _ _ _ _
  · exact trivial

/-- What a packet or a timer turn hands to the listeners. -/
def handled (sqlite : Sqlite DB) (st : Process DB) : Action → Except Fault (Process DB × Outbox)
  | .packet s m rand => receive sqlite s m rand st
  | .poll j now => poll j now st
  | a => step sqlite st a

/-- Whatever a join or a leave sends in a reachable state agrees with the roster
it stores. -/
theorem broadcasts_told (tr : List (Process DB × Action)) (st st' : Process DB) (a : Action)
    (out : Outbox) (h : ServerRun sqlite db tr st) (ha : handled sqlite st a = .ok (st', out)) :
    Told st.cache st'.cache out (event sqlite st a) := by
  have hall : AllRecorded (lobby st.cache) :=
    lobby_invariant allRecorded_empty (fun _ _ => allRecorded_apply) h
  cases a with
  | accept s junk =>
    simp only [event]
    split
    · exact trivial
    · split <;> exact trivial
  | close s => exact trivial
  | packet s m rand =>
    simp only [handled, receive, event] at ha ⊢
    split
    · rename_i hr
      rw [if_pos hr] at ha
      cases he : st.cache.GetEntity s with
      | none => exact trivial
      | some e =>
        simp only [he] at ha
        exact ProcessMsgLogic_told hall ha
    · exact trivial
  | poll j now =>
    have hspec := poll_spec ha
    simp only [event]
    cases hd : dueArg j now st with
    | none => exact trivial
    | some ptr =>
      simp only [hd] at hspec ⊢
      obtain ⟨st₁, ht, hcache⟩ := hspec
      rw [hcache]
      exact TimerFunc_told hall ht

/-- A second client joins the first room, and both are told. -/
theorem second_member_told : ∃ tr st st' out, ServerRun noTables () tr st ∧
    actions tr = [.accept 7 0, createRoom 7, .accept 8 0] ∧
    handled noTables st (joinTeam 8 111111 .Team_B 0) = .ok (st', out) ∧
    event noTables st (joinTeam 8 111111 .Team_B 0) = .join 8 111111 .Team_B 0 .joinTeam ∧
    Told st.cache st'.cache out (event noTables st (joinTeam 8 111111 .Team_B 0)) := by
  obtain ⟨tr, st, st', hrun, hact, ⟨out, hstep⟩, hev⟩ := exists_step noTables ()
    [.accept 7 0, createRoom 7, .accept 8 0] (joinTeam 8 111111 .Team_B 0)
    (fun st _ => decide (event noTables st (joinTeam 8 111111 .Team_B 0) =
      .join 8 111111 .Team_B 0 .joinTeam)) (by decide +kernel)
  obtain ⟨x, hx, -⟩ := of_map_ok hstep
  exact ⟨tr, st, x.1, x.2, hrun, hact, hx, of_decide_eq_true hev,
    broadcasts_told tr st x.1 _ x.2 hrun hx⟩

end JiraGame.Broadcasts
