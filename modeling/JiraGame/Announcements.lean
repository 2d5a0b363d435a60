import JiraGame.SentPackets

namespace JiraGame.Announcements

open JiraGame.Scene JiraGame.Command JiraGame.DBServer JiraGame.Cache JiraGame.HallScene
open JiraGame.MainScene JiraGame.AccountScenes JiraGame.ServerState JiraGame.KeepAlive
open JiraGame.Server JiraGame.ProcessFrame JiraGame.SeatGrid JiraGame.RoomTable
open JiraGame.Refinement JiraGame.RoomChanges JiraGame.RoomRecord JiraGame.Broadcasts
open JiraGame.ReplySizes JiraGame.SentPackets JiraGame.Lib.Fails
open JiraGame.AccountStatements hiding text

/-- The messages that tell a client about the roster of its room. The notice to
a leaver names nobody. -/
def announces (ret : HallReturn) : Bool :=
  match ret.msgtype? with
  | some .HST_CreateRoom | some .HST_JoinTeam => true
  | some .HST_LeaveRoom => !ret.friendlist.isEmpty
  | _ => false

theorem announces_eq_false {ret : HallReturn} (h : announces ret = false) :
    ret.msgtype? ≠ some .HST_CreateRoom ∧ ret.msgtype? ≠ some .HST_JoinTeam ∧
      (ret.msgtype? = some .HST_LeaveRoom → ret.friendlist = []) := by
  rw [announces] at h
  refine ⟨fun hmsg => ?_, fun hmsg => ?_, fun hmsg => ?_⟩
  · simp only [hmsg] at h
    cases h
  · simp only [hmsg] at h
    cases h
  · simp only [hmsg, Bool.not_eq_false'] at h
    exact List.isEmpty_iff.mp h

def announcement (p : Packet) : Bool := p.hallreturn?.any announces

/-- The events that are announced: a leave when the room stays. -/
def Announced (l : Lobby) : Event → Prop
  | .create _ _ _ | .join _ _ _ _ _ => True
  | .leave _ k _ => ∃ r, l.room k = some r ∧ lastLeaves r = false
  | _ => False

/-- The reply to a creation, and the room that a join message names. -/
def Named (c : CCache) (out : Outbox) : Event → Prop
  | .create s id roomname => ∃ e, c.GetEntity s = some e ∧
      out = [(s, hallPacket (createReturn roomname (id, e.roleInfo)))]
  | .join _ k _ _ _ => ∀ r, c.FindEntityRoom k = some r → ∀ y ∈ out, ∃ ret,
      y.2 = hallPacket ret ∧ ret.roomid? = some r.roomid ∧ ret.roomname? = some r.roomname
  | _ => True

section Hall

variable {c c' : CCache} {out : Outbox} {s : SOCKET} {req : HallRequest} {rand : List Nat}
  {e : CClientEntity}

theorem created_announced (he : c.GetEntity s = some e) {x : Int × PlayerInfo}
    (h : created s req rand c = some x) :
    createEvent s req rand e c = .create s x.1 req.roomname ∧ x.2 = e.roleInfo := by
  rw [created] at h
  split at h
  · cases h
  · rename_i hname
    rw [he, Option.bind_some] at h
    split at h
    · cases h
    · rename_i hroom
      obtain ⟨y, hy, rfl⟩ := Option.map_eq_some_iff.mp h
      rw [createEvent, if_neg (by simp only [hname, hroom, or_self, not_false_eq_true]), hy]
      exact ⟨rfl, rfl⟩

theorem seated_announced {x : RoomInfo × Option PlayerInfo} (h : seated s req c = some x)
    (ha : announces (seatReturn s req x) = true) : joinTeamEvent s req.inviteinfo c =
      .join s req.inviteinfo.roomid req.inviteinfo.team req.inviteinfo.teamid .joinTeam := by
  obtain ⟨r, hr, h⟩ := Option.bind_eq_some_iff.mp h
  simp only [joinTeamEvent, hr]
  split at h
  · cases h
    cases ha
  · rename_i hseat
    rw [if_neg hseat]

theorem named_announced (he : c.GetEntity s = some e) {x : RoomInfo × PlayerInfo}
    (h : named s req c = some x) : ∃ team teamid, joinRoomEvent s req.inviteinfo e c =
      .join s req.inviteinfo.roomid team teamid .joinRoom := by
  obtain ⟨r, hr, h⟩ := Option.bind_eq_some_iff.mp h
  rw [he, Option.bind_some] at h
  split at h
  · cases h
  · rename_i hin
    rw [SeatGrid.IdleTeam_ID_eq, Option.bind_some] at h
    split at h
    · rename_i first pos js more hidle
      exact ⟨teamOfKey first, pos, by simp only [joinRoomEvent, hr, if_neg hin, hidle]⟩
    · cases h

theorem namedLeave_announced (he : c.GetEntity s = some e) {x : PlayerInfo × Option PlayerInfo}
    (h : namedLeave s req c = some x) :
    Announced (lobby c) (joinRoomEvent s req.inviteinfo e c) := by
  obtain ⟨r, hr, h⟩ := Option.bind_eq_some_iff.mp h
  rw [he, Option.bind_some] at h
  obtain ⟨p, hp, h⟩ := Option.bind_eq_some_iff.mp h
  have hid : p.roleid = e.roleInfo.roleid := by simpa using List.find?_some hp
  have hin : (r.playerinfo.any fun p => p.roleid = e.roleInfo.roleid) = true :=
    List.any_eq_true.mpr ⟨p, List.mem_of_find?_eq_some hp, by simpa using hid⟩
  simp only [joinRoomEvent, hr, hin, if_true]
  split at h
  · cases h
  · rename_i hlast
    exact ⟨r, hr, by simpa using hlast⟩

theorem ownLeave_announced (via : LeavePath) {x : PlayerInfo × Option PlayerInfo}
    (h : ownLeave s c = some x) : Announced (lobby c) (leaveEvent s via c) := by
  obtain ⟨e, he, h⟩ := Option.bind_eq_some_iff.mp h
  obtain ⟨r, hr, h⟩ := Option.bind_eq_some_iff.mp h
  simp only [leaveEvent, he, hr]
  split at h
  · cases h
  · rename_i hlast
    exact ⟨r, hr, by simpa using hlast⟩

theorem announced_hall (he : c.GetEntity s = some e) {ret : HallReturn}
    (h : ret ∈ builtHall s req rand c) (ha : announces ret = true) :
    Announced (lobby c) (hallEvent s req rand c) := by
  rw [builtHall] at h
  split at h
  · rename_i hs
    simp only [hallEvent, he, (CheckSessionValid_iff he _).mp hs, if_true]
    cases hm : req.msgtype <;> simp only [hm] at h ⊢
    case HST_CreateRoom =>
      obtain ⟨x, hx, rfl⟩ := Option.map_eq_some_iff.mp (Option.mem_toList.mp h)
      rw [(created_announced he hx).1]
      exact trivial
    case HST_OnlineFriend =>
      rw [List.mem_singleton.mp h] at ha
      cases ha
    case HST_RequestTeam =>
      obtain ⟨x, -, rfl⟩ := Option.map_eq_some_iff.mp (Option.mem_toList.mp h)
      cases ha
    case HST_JoinTeam =>
      obtain ⟨x, hx, rfl⟩ := Option.map_eq_some_iff.mp (Option.mem_toList.mp h)
      rw [seated_announced hx ha]
      exact trivial
    case HST_JoinRoom =>
      obtain h | h := List.mem_append.mp h
      · obtain ⟨x, hx, rfl⟩ := Option.map_eq_some_iff.mp (Option.mem_toList.mp h)
        exact namedLeave_announced he hx
      · obtain ⟨x, hx, rfl⟩ := Option.map_eq_some_iff.mp (Option.mem_toList.mp h)
        obtain ⟨team, teamid, hev⟩ := named_announced he hx
        rw [hev]
        exact trivial
    case HST_GetRoomList =>
      obtain ⟨x, -, rfl⟩ := Option.map_eq_some_iff.mp (Option.mem_toList.mp h)
      cases ha
    case HST_LeaveRoom =>
      obtain rfl | h := List.mem_cons.mp h
      · cases ha
      · obtain ⟨x, hx, rfl⟩ := Option.map_eq_some_iff.mp (Option.mem_toList.mp h)
        exact ownLeave_announced _ hx
    case HST_GameWaite =>
      obtain ⟨x, -, rfl⟩ := Option.map_eq_some_iff.mp (Option.mem_toList.mp h)
      cases ha
    case HST_GameStart =>
      obtain ⟨x, -, rfl⟩ := Option.map_eq_some_iff.mp (Option.mem_toList.mp h)
      cases ha
    all_goals cases h
  · cases h

theorem CreateRoom_named (he : c.GetEntity s = some e)
    (h : CreateRoom s req rand c = .ok (c', out)) : Named c out (createEvent s req rand e c) := by
  rw [CreateRoom] at h
  rw [createEvent]
  split
  · exact trivial
  · rename_i hquiet
    obtain ⟨hname, hroom⟩ := not_or.mp hquiet
    simp only [if_neg hname, he, if_neg hroom] at h
    cases hg : GenrateOnlyRoomID c rand with
    | none => exact trivial
    | some x =>
      simp only [hg] at h
      cases h
      exact ⟨e, he, rfl⟩

theorem JoinTeam_named (h : JoinTeam s req c = .ok (c', out)) :
    Named c out (joinTeamEvent s req.inviteinfo c) := by
  have hcarries := JoinTeam_carries h
  rw [joinTeamEvent]
  cases hr : c.FindEntityRoom req.inviteinfo.roomid with
  | none => exact trivial
  | some r =>
    dsimp only
    split
    · exact trivial
    · rename_i hseat
      intro r₁ hr₁ y hy
      rw [hr, Option.some.injEq] at hr₁
      subst hr₁
      obtain ⟨ret, hret, hpacket⟩ := List.mem_map.mp (hcarries y hy)
      obtain ⟨x, hx, rfl⟩ := Option.map_eq_some_iff.mp (Option.mem_toList.mp hret)
      rw [seated, hr, Option.bind_some, if_neg hseat] at hx
      obtain ⟨e, -, rfl⟩ := Option.map_eq_some_iff.mp hx
      exact ⟨_, hpacket.symm, rfl, rfl⟩

theorem JoinRoom_named (he : c.GetEntity s = some e) (h : JoinRoom s req c = .ok (c', out)) :
    Named c out (joinRoomEvent s req.inviteinfo e c) := by
  have hcarries := JoinRoom_carries h
  rw [joinRoomEvent]
  cases hr : c.FindEntityRoom req.inviteinfo.roomid with
  | none => exact trivial
  | some r =>
    dsimp only
    split
    · exact trivial
    · rename_i hin
      split
      · intro r₁ hr₁ y hy
        rw [hr, Option.some.injEq] at hr₁
        subst hr₁
        have hstays : namedLeave s req c = none := by
          have hfind : r.playerinfo.find? (fun p => p.roleid = e.roleInfo.roleid) = none := by
            simpa using hin
          rw [namedLeave, hr, Option.bind_some, he, Option.bind_some, hfind, Option.bind_none]
        rw [hstays] at hcarries
        obtain ⟨ret, hret, hpacket⟩ := List.mem_map.mp (hcarries y hy)
        obtain ⟨x, hx, rfl⟩ := Option.map_eq_some_iff.mp (Option.mem_toList.mp hret)
        rw [named, hr, Option.bind_some, he, Option.bind_some, if_neg hin] at hx
        obtain ⟨idle, -, hx⟩ := Option.bind_eq_some_iff.mp hx
        split at hx
        · cases hx
          exact ⟨_, hpacket.symm, rfl, rfl⟩
        · cases hx
      · exact trivial

theorem leaveEvent_named (via : LeavePath) : Named c out (leaveEvent s via c) := by
  rw [leaveEvent]
  repeat' split
  all_goals exact trivial

theorem hallLogic_named (he : c.GetEntity s = some e) (h : hallLogic s req rand c = .ok (c', out)) :
    Named c out (hallEvent s req rand c) := by
  rw [hallLogic] at h
  simp only [hallEvent, he]
  by_cases hs : e.SessionID = req.sessionid
  · rw [if_pos ((CheckSessionValid_iff he _).mpr hs)] at h
    rw [if_pos hs]
    cases hm : req.msgtype <;> simp only [hm] at h ⊢
    case HST_CreateRoom => exact CreateRoom_named he h
    case HST_JoinTeam => exact JoinTeam_named h
    case HST_JoinRoom => exact JoinRoom_named he h
    case HST_LeaveRoom => exact leaveEvent_named _
    all_goals exact trivial
  · rw [if_neg hs]
    exact trivial

end Hall

section Steps

variable {DB : Type} {sqlite : Sqlite DB} {st st' : Process DB} {out : Outbox} {a : Action}

theorem announced_scene {s : SOCKET} {m : UnPacket} {rand : List Nat} {e : CClientEntity}
    (he : st.cache.GetEntity s = some e) {p : Packet} (h : p ∈ builtScene s sqlite m rand st)
    (ha : announcement p = true) :
    Announced (lobby st.cache) (packetEvent sqlite s m rand st) := by
  rw [builtScene] at h
  rw [packetEvent]
  cases hm : m.curscene <;> simp only [hm] at h ⊢
  case CS_Login =>
    obtain ⟨x, -, rfl⟩ := Option.map_eq_some_iff.mp (Option.mem_toList.mp h)
    cases ha
  case CS_CreateRole =>
    obtain ⟨x, -, rfl⟩ := Option.map_eq_some_iff.mp (Option.mem_toList.mp h)
    cases ha
  case CS_WaitRoom =>
    obtain ⟨ret, hret, rfl⟩ := List.mem_map.mp h
    exact announced_hall he hret ha
  case CS_MainScene =>
    obtain ⟨ret, -, rfl⟩ := List.mem_map.mp h
    cases ha
  all_goals cases h

theorem heartbeatNotice_silent {s : SOCKET} {scene : CurScene} :
    ∀ y ∈ heartbeatNotice s scene, announcement y.2 = false := by
  intro y hy
  cases scene <;> simp only [heartbeatNotice, List.mem_singleton, List.not_mem_nil] at hy
  all_goals
    rw [hy]
    rfl

theorem announced_tick {ptr : Nat} {p : Packet} (h : p ∈ builtTick ptr st)
    (ha : announcement p = true) : Announced (lobby st.cache) (tickEvent ptr st) := by
  rw [builtTick] at h
  rw [tickEvent]
  cases hi : st.infos[ptr]? with
  | none =>
    simp only [hi] at h
    cases h
  | some info =>
    simp only [hi] at h ⊢
    cases he : st.cache.GetEntity info.clientSocket with
    | none =>
      simp only [he] at h
      cases h
    | some e =>
      simp only [he] at h ⊢
      split at h
      · cases h
      · rename_i hlate
        rw [if_neg hlate]
        rw [List.append_assoc] at h
        obtain h | h := List.mem_append.mp h
        · split at h
          · rename_i hband
            rw [if_pos hband]
            obtain ⟨x, hx, rfl⟩ := Option.map_eq_some_iff.mp (Option.mem_toList.mp h)
            exact ownLeave_announced _ hx
          · cases h
        · obtain h | h := List.mem_append.mp h
          · split at h
            · obtain ⟨x, -, rfl⟩ := Option.map_eq_some_iff.mp (Option.mem_toList.mp h)
              cases ha
            · cases h
          · obtain ⟨y, hy, rfl⟩ := List.mem_map.mp h
            rw [heartbeatNotice_silent y hy] at ha
            cases ha

theorem announced_handled (h : handled sqlite st a = .ok (st', out)) {y : SOCKET × Packet}
    (hy : y ∈ out) (ha : announcement y.2 = true) :
    Announced (lobby st.cache) (event sqlite st a) := by
  obtain hb | ⟨t, ht⟩ | ⟨s, m, rand, r, -, -, ht, -⟩ := handled_copied h y hy
  · cases a with
    | accept s junk => cases hb
    | close s => cases hb
    | packet s m rand =>
      rw [built] at hb
      split at hb
      · rename_i hread
        obtain ⟨hread, he⟩ := Bool.and_eq_true_iff.mp hread
        obtain ⟨e, he⟩ := Option.isSome_iff_exists.mp he
        simp only [event, hread, he, if_true]
        exact announced_scene he hb ha
      · cases hb
    | poll j now =>
      rw [built] at hb
      obtain ⟨ptr, hptr, hb⟩ := List.mem_flatMap.mp hb
      simp only [event, Option.mem_toList.mp hptr]
      exact announced_tick hb ha
  · rw [ht] at ha
    cases ha
  · rw [ht] at ha
    cases ha

theorem packetEvent_named {s : SOCKET} {m : UnPacket} {rand : List Nat} {e : CClientEntity}
    (he : st.cache.GetEntity s = some e)
    (h : ProcessMsgLogic sqlite s m rand st = .ok (st', out)) :
    Named st.cache out (packetEvent sqlite s m rand st) := by
  rw [packetEvent]
  split
  · rw [selectEvent]
    repeat' split
    all_goals exact trivial
  · rename_i hm
    simp only [ProcessMsgLogic, hm] at h
    obtain ⟨x, hx, h⟩ := of_bind_ok h
    cases h
    exact hallLogic_named he hx
  · rw [mainEvent]
    repeat' split
    all_goals exact trivial
  · exact trivial

theorem tickEvent_named (ptr : Nat) : Named st.cache out (tickEvent ptr st) := by
  rw [tickEvent]
  split
  · exact trivial
  · split
    · exact trivial
    · split
      · exact trivial
      · split
        · exact leaveEvent_named _
        · exact trivial

theorem handled_named (h : handled sqlite st a = .ok (st', out)) :
    Named st.cache out (event sqlite st a) := by
  cases a with
  | accept s junk =>
    simp only [event]
    repeat' split
    all_goals exact trivial
  | close s => exact trivial
  | packet s m rand =>
    simp only [event]
    split
    · rename_i hread
      cases he : st.cache.GetEntity s with
      | none => exact trivial
      | some e =>
        rw [handled_read (by rw [hread, he]; rfl)] at h
        exact packetEvent_named he h
    · exact trivial
  | poll j now =>
    simp only [event]
    split
    · exact tickEvent_named _
    · exact trivial

/-- What a join or a leave sends agrees with the roster that it stores. -/
theorem handled_told (hall : AllRecorded (lobby st.cache))
    (h : handled sqlite st a = .ok (st', out)) :
    Told st.cache st'.cache out (event sqlite st a) := by
  cases a with
  | accept s junk =>
    simp only [event]
    repeat' split
    all_goals exact trivial
  | close s => exact trivial
  | packet s m rand =>
    simp only [event]
    split
    · rename_i hread
      cases he : st.cache.GetEntity s with
      | none => exact trivial
      | some e =>
        rw [handled_read (by rw [hread, he]; rfl)] at h
        exact ProcessMsgLogic_told hall h
    · exact trivial
  | poll j now =>
    have hspec := poll_spec h
    simp only [event]
    cases hd : dueArg j now st with
    | none => exact trivial
    | some ptr =>
      simp only [hd] at hspec ⊢
      obtain ⟨st₁, ht, hcache⟩ := hspec
      rw [hcache]
      exact TimerFunc_told hall ht

end Steps

end JiraGame.Announcements
