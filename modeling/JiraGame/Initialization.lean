import JiraGame.AccountRefinement
import JiraGame.SentPackets
import JiraGame.Session

namespace JiraGame.Initialization

open JiraGame.Scene JiraGame.Command JiraGame.DBServer JiraGame.Cache JiraGame.HallScene
open JiraGame.MainScene JiraGame.AccountScenes JiraGame.ServerState JiraGame.KeepAlive
open JiraGame.Server JiraGame.RoomTable JiraGame.Refinement JiraGame.RoomChanges
open JiraGame.RoomRecord JiraGame.Broadcasts JiraGame.Replies JiraGame.ReplySizes
open JiraGame.SentPackets
open JiraGame.AccountStatements hiding text
open JiraGame.Encoding
open JiraGame.RelationalSqlite JiraGame.AccountRefinement JiraGame.Session
open JiraGame.Runs JiraGame.Lib.History JiraGame.Lib.Fails

variable {DB : Type}

/-- The required fields of the positions in a role info are there. -/
def Complete (p : PlayerInfo) : Prop :=
  ∀ o ∈ [p.pos?, p.rot?, p.scale?], ∀ m ∈ o, (m.x?.isSome && m.y?.isSome && m.z?.isSome) = true

/-- The members of the requester's room have complete positions; the requester's
are those of the request. -/
def SyncComplete (s : SOCKET) (req : GameMainRequest) (c : CCache) : Prop :=
  ∀ e ∈ c.GetEntity s, ∀ r ∈ c.FindEntityRoom e.roleInfo.roomid, ∀ p ∈ r.playerinfo,
    ∀ f ∈ c.GetEntity p.socket, Complete (if p.socket = s then req.playerinfo else f.roleInfo)

/-- A login finds the account and the choice of a role finds the role in the
database, and a sync finds complete positions. -/
def Answered (sqlite : Sqlite DB) (st : Process DB) : Action → Prop
  | .packet s m _ => readable s st = true → (st.cache.GetEntity s).isSome = true →
    match m.curscene with
    | .CS_Login => (firstRow (sqlite.exec st.db
        (Query.account m.loginrequest.username m.loginrequest.password).sql).2).isSome = true
    | .CS_SelectRole =>
      st.cache.CheckSessionValid s m.selectrolerequest.sessionid = true →
        (firstRow (sqlite.exec st.db (Query.role m.selectrolerequest.sessionid
          m.selectrolerequest.roletype).sql).2).isSome = true
    | .CS_MainScene =>
      st.cache.CheckSessionValid s m.gamemainrequest.sessionid = true →
        m.gamemainrequest.msgtype ∈ [.GMT_RsyncAttr, .GMT_RsyncStatus] →
        SyncComplete s m.gamemainrequest st.cache
    | _ => True
  | _ => True

/-- All packets that the handlers of a step send are initialised. -/
def Initialized (sqlite : Sqlite DB) (st : Process DB) (a : Action) : Prop :=
  ∀ st' out, handled sqlite st a = .ok (st', out) → ∀ y ∈ out, IsInitialized y.2 = true

section Entries

theorem ready_iff_complete (p : PlayerInfo) : playerInfo.ready p = true ↔ Complete p := by
  rw [ready_playerInfo]
  simp [Complete, ready_position3D, and_assoc]

theorem ready_bare {p : PlayerInfo} (hpos : p.pos? = none) (hrot : p.rot? = none)
    (hscale : p.scale? = none) : playerInfo.ready p = true := by
  rw [ready_playerInfo, hpos, hrot, hscale]
  simp

theorem ready_memberEntry (s : SOCKET) (p : PlayerInfo) (team : TeamType) (teamid : Int) :
    playerInfo.ready (memberEntry s p team teamid) = true := ready_bare rfl rfl rfl

theorem ready_entryOf (via : JoinPath) (s : SOCKET) (p : PlayerInfo) (r : RoomInfo)
    (team : TeamType) (teamid : Int) :
    playerInfo.ready (entryOf via s p r team teamid) = true := by
  cases via <;> exact ready_bare rfl rfl rfl

theorem ready_listedRole (withUser : Bool) (row : Row) :
    playerInfo.ready (listedRole withUser row) = true := by
  unfold listedRole
  repeat' split
  all_goals exact ready_bare rfl rfl rfl

theorem ready_waiteEntry (x : Bool × Option PlayerInfo) :
    playerInfo.ready (waiteEntry x) = true := by
  obtain ⟨b, o⟩ := x
  cases o <;> exact ready_bare rfl rfl rfl

theorem ready_crowned (p : PlayerInfo) :
    playerInfo.ready (p.set_isroomctl true) = playerInfo.ready p := by
  apply Bool.eq_iff_iff.mpr
  rw [ready_playerInfo, ready_playerInfo]
  exact Iff.rfl

theorem ready_copyOthers {roleid : Int} {fromRoster isCaptain leader : Bool} {ps : List PlayerInfo}
    (h : ∀ p ∈ ps, playerInfo.ready p = true) :
    ∀ q ∈ (copyOthers roleid fromRoster isCaptain leader ps).1, playerInfo.ready q = true := by
  intro q hq
  have hmem := List.mem_map_of_mem (f := playerInfo.ready) hq
  rw [map_copyOthers playerInfo.ready ready_crowned] at hmem
  obtain ⟨p, hp, heq⟩ := List.mem_map.mp hmem
  rw [← heq]
  exact h p (List.mem_of_mem_filter hp)

theorem ready_stay {via : LeavePath} {p : PlayerInfo} {ps : List PlayerInfo}
    (h : ∀ q ∈ ps, playerInfo.ready q = true) :
    ∀ q ∈ (stay via p ps).1, playerInfo.ready q = true := by
  cases via <;> exact ready_copyOthers h

end Entries

section Rosters

/-- The members of the rooms are initialised: a roster entry has no positions. -/
def AllReady (l : Lobby) : Prop :=
  ∀ k r, l.room k = some r → ∀ p ∈ r.playerinfo, playerInfo.ready p = true

theorem allReady_apply {l : Lobby} {ev : Event} (hk : Keyed l) (h : AllReady l)
    (hen : l.Enabled ev) : AllReady (l.apply ev) := by
  intro k r' hr'
  cases room_change hk hen hr' with
  | kept _ hr => exact h k r' hr
  | created s roomname p _ _ _ heq =>
    subst heq
    intro q hq
    rw [List.mem_singleton.mp hq]
    exact ready_bare rfl rfl rfl
  | joined s team teamid via p r _ hr _ _ heq =>
    subst heq
    intro q hq
    obtain hq | hq := List.mem_append.mp hq
    · exact h k r hr q hq
    · rw [List.mem_singleton.mp hq]
      exact ready_entryOf via s p r team teamid
  | left s via p r _ hr _ heq =>
    subst heq
    exact ready_stay (h k r hr)

variable {sqlite : Sqlite DB} {db : DB} {tr : List (Process DB × Action)} {st : Process DB}

theorem allReady (h : ServerRun sqlite db tr st) : AllReady (lobby st.cache) :=
  (lobby_invariant (I := fun l => AllRecorded l ∧ AllReady l)
    ⟨allRecorded_empty, fun _ _ hr => by cases hr⟩
    (fun _ _ hi hen => ⟨allRecorded_apply hi.1 hen, allReady_apply hi.1.keyed hi.2 hen⟩) h).2

end Rosters

section Built

variable {s : SOCKET} {c : CCache}

theorem ready_leaveReturn {p : PlayerInfo} {o : Option PlayerInfo}
    (hp : playerInfo.ready p = true) (ho : ∀ q ∈ o, playerInfo.ready q = true) :
    hallReturn.ready (leaveReturn (p, o)) = true := by
  rw [ready_hallReturn]
  refine ⟨fun _ hi => (Option.not_mem_none _ hi).elim, ?_⟩
  intro q hq
  obtain rfl | hq := List.mem_cons.mp hq
  · exact hp
  · exact ho q (Option.mem_toList.mp hq)

theorem ready_friends {r : HallReturn} (hr : r.hallinfo? = none)
    (h : ∀ p ∈ r.friendlist, playerInfo.ready p = true) : hallReturn.ready r = true := by
  rw [ready_hallReturn, hr]
  exact ⟨fun _ hi => (Option.not_mem_none _ hi).elim, h⟩

theorem ready_ownLeave (hall : AllReady (lobby c)) {x : PlayerInfo × Option PlayerInfo}
    (hx : ownLeave s c = some x) :
    hallReturn.ready (leaveReturn (leaverEntry x.1, x.2)) = true := by
  rw [ownLeave] at hx
  obtain ⟨e, he, hx⟩ := Option.bind_eq_some_iff.mp hx
  obtain ⟨r, hr, hx⟩ := Option.bind_eq_some_iff.mp hx
  split at hx
  · cases hx
  · dsimp only at hx
    split at hx
    · cases hx
      exact ready_leaveReturn (ready_bare rfl rfl rfl) fun q hq =>
        ready_copyOthers (hall _ r hr) q (copyOthers_owner_mem _ _ _ hq)
    · cases hx

theorem ready_namedLeave {req : HallRequest} (hall : AllReady (lobby c))
    {x : PlayerInfo × Option PlayerInfo} (hx : namedLeave s req c = some x) :
    hallReturn.ready (leaveReturn x) = true := by
  rw [namedLeave] at hx
  obtain ⟨r, hr, hx⟩ := Option.bind_eq_some_iff.mp hx
  obtain ⟨e, he, hx⟩ := Option.bind_eq_some_iff.mp hx
  obtain ⟨p, hp, hx⟩ := Option.bind_eq_some_iff.mp hx
  split at hx
  · cases hx
  · cases hx
    exact ready_leaveReturn (hall _ r hr p (List.mem_of_find?_eq_some hp)) fun q hq =>
      ready_copyOthers (hall _ r hr) q (copyOthers_owner_mem _ _ _ hq)

theorem ready_named {req : HallRequest} (hall : AllReady (lobby c)) {x : RoomInfo × PlayerInfo}
    (hx : named s req c = some x) : hallReturn.ready (joinReturn x) = true := by
  rw [named] at hx
  obtain ⟨r, hr, hx⟩ := Option.bind_eq_some_iff.mp hx
  obtain ⟨e, he, hx⟩ := Option.bind_eq_some_iff.mp hx
  split at hx
  · cases hx
  · obtain ⟨idle, -, hx⟩ := Option.bind_eq_some_iff.mp hx
    split at hx
    · cases hx
      refine ready_friends rfl fun p hp => ?_
      obtain hp | hp := List.mem_append.mp hp
      · exact hall _ r hr p hp
      · rw [List.mem_singleton.mp hp]
        exact ready_bare rfl rfl rfl
    · cases hx

theorem ready_seated {req : HallRequest} (x : RoomInfo × Option PlayerInfo) :
    hallReturn.ready (seatReturn s req x) = true := by
  obtain ⟨r, o⟩ := x
  cases o with
  | none => exact ready_friends rfl fun p hp => by cases hp
  | some e =>
    refine ready_friends rfl fun p hp => ?_
    obtain hp | hp := List.mem_append.mp hp
    · obtain ⟨q, -, rfl⟩ := List.mem_map.mp hp
      exact ready_bare rfl rfl rfl
    · rw [List.mem_singleton.mp hp]
      exact ready_memberEntry _ _ _ _

theorem ready_starting (hall : AllReady (lobby c)) {ps : List PlayerInfo}
    (hx : starting s c = some ps) : ∀ p ∈ ps, playerInfo.ready p = true := by
  rw [starting] at hx
  obtain ⟨e, he, hx⟩ := Option.bind_eq_some_iff.mp hx
  obtain ⟨r, hr, hx⟩ := Option.bind_eq_some_iff.mp hx
  split at hx
  · cases hx
    split
    · exact hall _ r hr
    · intro p hp
      cases hp
  · cases hx

theorem ready_rooms (xs : List (Int × RoomInfo × PlayerInfo)) :
    hallReturn.ready { msgtype? := some .HST_GetRoomList
                       hallinfo? := some ⟨xs.map roomEntry⟩ } = true := by
  rw [ready_hallReturn]
  refine ⟨?_, fun _ hp => by cases hp⟩
  rintro i ⟨⟩ room hroom
  obtain ⟨x, -, rfl⟩ := List.mem_map.mp hroom
  rw [ready_roomInfo]
  refine ⟨rfl, rfl, rfl, fun p hp => ?_⟩
  rw [List.mem_singleton.mp hp]
  exact ready_bare rfl rfl rfl

theorem ready_toList {α : Type} {f : α → HallReturn} {o : Option α}
    (h : ∀ x, o = some x → hallReturn.ready (f x) = true) :
    ∀ r ∈ (o.map f).toList, hallReturn.ready r = true := by
  intro r hr
  obtain ⟨x, hx, rfl⟩ := Option.map_eq_some_iff.mp (Option.mem_toList.mp hr)
  exact h x hx

theorem ready_builtHall (hall : AllReady (lobby c)) (req : HallRequest) (rand : List Nat) :
    ∀ r ∈ builtHall s req rand c, hallReturn.ready r = true := by
  rw [builtHall]
  split
  · cases hm : req.msgtype with
    | HST_CreateRoom =>
      refine ready_toList fun x _ => ready_friends rfl fun p hp => ?_
      rw [List.mem_singleton.mp hp]
      exact ready_bare rfl rfl rfl
    | HST_OnlineFriend =>
      intro r hr
      rw [List.mem_singleton.mp hr]
      refine ready_friends rfl fun p hp => ?_
      obtain ⟨q, -, rfl⟩ := List.mem_map.mp hp
      exact ready_bare rfl rfl rfl
    | HST_RequestTeam => exact ready_toList fun e _ => ready_friends rfl fun p hp => by cases hp
    | HST_JoinTeam => exact ready_toList fun x _ => ready_seated x
    | HST_JoinRoom =>
      intro r hr
      obtain hr | hr := List.mem_append.mp hr
      · exact ready_toList (fun x hx => ready_namedLeave hall hx) r hr
      · exact ready_toList (fun x hx => ready_named hall hx) r hr
    | HST_GetRoomList => exact ready_toList fun xs _ => ready_rooms xs
    | HST_LeaveRoom =>
      intro r hr
      obtain rfl | hr := List.mem_cons.mp hr
      · exact ready_friends rfl fun p hp => by cases hp
      · exact ready_toList (fun x hx => ready_ownLeave hall hx) r hr
    | HST_GameWaite =>
      refine ready_toList fun x _ => ready_friends rfl fun p hp => ?_
      rw [List.mem_singleton.mp hp]
      exact ready_waiteEntry x
    | HST_GameStart =>
      exact ready_toList fun ps hx => ready_friends rfl (ready_starting hall hx)
    | HST_AutoMatch | HST_WaitTimeout | HST_CreateRoomFail | HST_KeepAlive =>
      intro r hr
      cases hr
  · intro r hr
    cases hr

theorem initialized_hallPacket (r : HallReturn) :
    IsInitialized (hallPacket r) = hallReturn.ready r := by
  apply Bool.eq_iff_iff.mpr
  rw [ready_packet]
  simp [hallPacket]

theorem initialized_mainPacket (r : GameMainReturn) :
    IsInitialized (mainPacket r) = gameMainReturn.ready r := by
  apply Bool.eq_iff_iff.mpr
  rw [ready_packet]
  simp [mainPacket]

theorem initialized_loginPacket (r : LoginReturn) :
    IsInitialized (loginPacket r) = loginReturn.ready r := by
  apply Bool.eq_iff_iff.mpr
  rw [ready_packet]
  simp [loginPacket]

theorem initialized_createPacket (r : CreateRoleReturn) :
    IsInitialized (createPacket r) = createRoleReturn.ready r := by
  apply Bool.eq_iff_iff.mpr
  rw [ready_packet]
  simp [createPacket]

theorem initialized_selectPacket (r : SelectRoleReturn) :
    IsInitialized (selectPacket r) = r.userid?.isSome := by
  apply Bool.eq_iff_iff.mpr
  rw [ready_packet]
  simp [selectPacket, ready_selectRoleReturn]

theorem initialized_registerPacket (t : RegisterReturnType) :
    IsInitialized (registerPacket t) = true := by
  cases t <;> rfl

theorem initialized_sync (t : GameMainMsgType) (ps : List PlayerInfo) :
    IsInitialized (mainPacket { msgtype? := some t, friendlist := ps }) = true ↔
      ∀ p ∈ ps, Complete p := by
  rw [initialized_mainPacket, ready_gameMainReturn]
  simp [ready_iff_complete]

end Built

section Steps

variable {sqlite : Sqlite DB} {st : Process DB} {s : SOCKET}

theorem syncComplete_iff {req : GameMainRequest} {c : CCache} :
    SyncComplete s req c ↔ ∀ ps ∈ synced s req c, ∀ p ∈ ps, Complete p := by
  rw [synced]
  constructor
  · intro h ps hps q hq
    obtain ⟨e, he, hps⟩ := Option.bind_eq_some_iff.mp hps
    obtain ⟨r, hr, rfl⟩ := Option.map_eq_some_iff.mp hps
    obtain ⟨p, hp, hq⟩ := List.mem_filterMap.mp hq
    obtain ⟨f, hf, rfl⟩ := Option.map_eq_some_iff.mp hq
    have hone := h e he r hr p hp f hf
    split at hone
    · rename_i hps
      rw [if_pos hps]
      exact hone
    · rename_i hps
      rw [if_neg hps]
      exact hone
  · intro h e he r hr p hp f hf
    have hsynced : (c.GetEntity s).bind (fun e => (c.FindEntityRoom e.roleInfo.roomid).map fun r =>
        r.playerinfo.filterMap fun p => (c.GetEntity p.socket).map fun f =>
          if p.socket = s then resync req.playerinfo f.roleInfo else f.roleInfo) = some _ :=
      Option.bind_eq_some_iff.mpr ⟨e, he, Option.map_eq_some_iff.mpr ⟨r, hr, rfl⟩⟩
    have hone := h _ hsynced _ (List.mem_filterMap.mpr ⟨p, hp, Option.map_eq_some_iff.mpr ⟨f, hf, rfl⟩⟩)
    split
    · rename_i hps
      rw [if_pos hps] at hone
      exact hone
    · rename_i hps
      rw [if_neg hps] at hone
      exact hone

theorem initialized_builtMain {req : GameMainRequest} {c : CCache}
    (h : c.CheckSessionValid s req.sessionid = true →
      req.msgtype ∈ [.GMT_RsyncAttr, .GMT_RsyncStatus] → SyncComplete s req c) :
    ∀ r ∈ builtMain s req c, IsInitialized (mainPacket r) = true := by
  intro r hr
  rw [builtMain] at hr
  split at hr
  · rename_i hs
    have hsync : ∀ t, req.msgtype ∈ [.GMT_RsyncAttr, .GMT_RsyncStatus] →
        r ∈ ((synced s req c).map fun ps =>
          { msgtype? := some t, friendlist := ps : GameMainReturn }).toList →
        IsInitialized (mainPacket r) = true := by
      intro t hmsg hmem
      obtain ⟨ps, hps, rfl⟩ := Option.map_eq_some_iff.mp (Option.mem_toList.mp hmem)
      rw [initialized_sync]
      exact syncComplete_iff.mp (h hs hmsg) ps hps
    cases hm : req.msgtype <;> simp only [hm] at hr
    case GMT_RsyncAttr => exact hsync _ (by rw [hm]; decide) hr
    case GMT_RsyncStatus => exact hsync _ (by rw [hm]; decide) hr
    all_goals cases hr
  · cases hr

theorem initialized_login {req : LoginRequest} {rand : List Nat} {db : DB}
    (h : (firstRow (sqlite.exec db
      (Query.account req.username req.password).sql).2).isSome = true) :
    ∀ x ∈ loggedIn sqlite req rand db, IsInitialized (loginPacket (loginReply x)) = true := by
  intro x hx
  obtain ⟨row, hrow⟩ := Option.isSome_iff_exists.mp h
  simp only [loggedIn, hrow] at hx
  obtain ⟨sid, -, rfl⟩ := Option.map_eq_some_iff.mp hx
  rw [initialized_loginPacket, ready_loginReturn]
  refine ⟨rfl, rfl, fun p hp => ?_⟩
  obtain ⟨row, -, rfl⟩ := List.mem_map.mp hp
  exact ready_listedRole true row

theorem initialized_create (x : Option (List Row)) :
    IsInitialized (createPacket (createReply x)) = true := by
  rw [initialized_createPacket, ready_createRoleReturn]
  cases x with
  | none => exact ⟨rfl, fun p hp => by cases hp⟩
  | some rows =>
    refine ⟨rfl, fun p hp => ?_⟩
    obtain ⟨row, -, rfl⟩ := List.mem_map.mp hp
    exact ready_listedRole false row

theorem initialized_heartbeat (s : SOCKET) (scene : CurScene) :
    ∀ p ∈ (heartbeatNotice s scene).map Prod.snd, IsInitialized p = true := by
  have hsame : (heartbeatNotice s scene).map Prod.snd = (heartbeatNotice 0 scene).map Prod.snd := by
    cases scene <;> rfl
  rw [hsame]
  cases scene <;> decide

theorem initialized_builtTick (hall : AllReady (lobby st.cache)) (ptr : Nat) :
    ∀ p ∈ builtTick ptr st, IsInitialized p = true := by
  rw [builtTick]
  split
  · intro p hp
    cases hp
  · rename_i info _
    dsimp only
    split
    · intro p hp
      cases hp
    · split
      · intro p hp
        cases hp
      · intro p hp
        obtain hp | hp := List.mem_append.mp hp
        · obtain hp | hp := List.mem_append.mp hp
          · split at hp
            · obtain ⟨x, hx, rfl⟩ := Option.map_eq_some_iff.mp (Option.mem_toList.mp hp)
              rw [initialized_hallPacket]
              exact ready_ownLeave hall hx
            · cases hp
          · split at hp
            · obtain ⟨name, -, rfl⟩ := Option.map_eq_some_iff.mp (Option.mem_toList.mp hp)
              rw [initialized_mainPacket, ready_gameMainReturn]
              refine ⟨rfl, fun q hq => ?_⟩
              rw [List.mem_singleton.mp hq]
              exact ready_bare rfl rfl rfl
            · cases hp
        · exact initialized_heartbeat _ _ p hp

/-- What is copied into the send buffers when the requests can be answered. -/
theorem initialized_built (hall : AllReady (lobby st.cache)) {a : Action}
    (ha : Answered sqlite st a) : ∀ p ∈ built sqlite st a, IsInitialized p = true := by
  cases a with
  | accept s junk =>
    intro p hp
    cases hp
  | close s =>
    intro p hp
    cases hp
  | poll j now =>
    intro p hp
    obtain ⟨ptr, -, hp⟩ := List.mem_flatMap.mp hp
    exact initialized_builtTick hall ptr p hp
  | packet s m rand =>
    intro p hp
    rw [built] at hp
    split at hp
    · rename_i hread
      obtain ⟨hread, he⟩ := Bool.and_eq_true_iff.mp hread
      have ha := ha hread he
      rw [builtScene] at hp
      cases hm : m.curscene <;> simp only [hm] at hp ha
      case CS_Login =>
        obtain ⟨x, hx, rfl⟩ := Option.map_eq_some_iff.mp (Option.mem_toList.mp hp)
        exact initialized_login ha x hx
      case CS_CreateRole =>
        obtain ⟨x, -, rfl⟩ := Option.map_eq_some_iff.mp (Option.mem_toList.mp hp)
        exact initialized_create x
      case CS_WaitRoom =>
        obtain ⟨r, hr, rfl⟩ := List.mem_map.mp hp
        rw [initialized_hallPacket]
        exact ready_builtHall hall _ _ r hr
      case CS_MainScene =>
        obtain ⟨r, hr, rfl⟩ := List.mem_map.mp hp
        exact initialized_builtMain ha r hr
      all_goals cases hp
    · cases hp

variable {m : UnPacket} {rand : List Nat}

theorem uninitialized_login (hread : (readable s st && (st.cache.GetEntity s).isSome) = true)
    (hm : m.curscene = .CS_Login) (hrow : firstRow (sqlite.exec st.db
      (Query.account m.loginrequest.username m.loginrequest.password).sql).2 = none) :
    ¬Initialized sqlite st (.packet s m rand) := by
  intro h
  have hlogin : ∃ x, LoginLogic sqlite s m.loginrequest rand st.db st.cache = .ok x ∧
      (s, loginPacket { returntype? := some .Fail }) ∈ x.2.2 := by
    rw [LoginLogic_eq]
    simp only [hrow]
    exact ⟨_, rfl, List.mem_cons_self⟩
  obtain ⟨x, hx, hmem⟩ := hlogin
  have hsent : handled sqlite st (.packet s m rand) =
      .ok ({ st with db := x.1, cache := x.2.1 }, x.2.2) := by
    simp only [handled_read hread, ProcessMsgLogic, hm, hx]
    rfl
  have hinit := h _ _ hsent _ hmem
  rw [initialized_loginPacket, ready_loginReturn] at hinit
  cases hinit.1

theorem uninitialized_select (hread : (readable s st && (st.cache.GetEntity s).isSome) = true)
    (hm : m.curscene = .CS_SelectRole)
    (hs : st.cache.CheckSessionValid s m.selectrolerequest.sessionid = true)
    (hrow : firstRow (sqlite.exec st.db (Query.role m.selectrolerequest.sessionid
      m.selectrolerequest.roletype).sql).2 = none) :
    ¬Initialized sqlite st (.packet s m rand) := by
  intro h
  have hselect : ∃ x, SelectLogic sqlite s m.selectrolerequest st.db st.cache = .ok x ∧
      (s, selectPacket {}) ∈ x.2.2 := by
    rw [SelectLogic_eq, if_pos hs]
    simp only [hrow]
    exact ⟨_, rfl, List.mem_cons_self⟩
  obtain ⟨x, hx, hmem⟩ := hselect
  have hsent : handled sqlite st (.packet s m rand) =
      .ok ({ st with db := x.1, cache := x.2.1 }, x.2.2) := by
    simp only [handled_read hread, ProcessMsgLogic, hm, hx]
    rfl
  have hinit := h _ _ hsent _ hmem
  rw [initialized_selectPacket] at hinit
  cases hinit

theorem syncComplete_of_initialized
    (hread : (readable s st && (st.cache.GetEntity s).isSome) = true)
    (hm : m.curscene = .CS_MainScene)
    (hs : st.cache.CheckSessionValid s m.gamemainrequest.sessionid = true)
    (hmsg : m.gamemainrequest.msgtype ∈ [.GMT_RsyncAttr, .GMT_RsyncStatus])
    (h : Initialized sqlite st (.packet s m rand)) :
    SyncComplete s m.gamemainrequest st.cache := by
  intro e he r hr p hp
  obtain ⟨ps, c', hsynced, hrsync⟩ :=
    rsync_spec m.gamemainrequest.msgtype m.gamemainrequest he hr
  have hmain : MainLogic s m.gamemainrequest st.cache = .ok (c', r.playerinfo.map fun p =>
      (p.socket, mainPacket { msgtype? := some m.gamemainrequest.msgtype, friendlist := ps })) := by
    rw [MainLogic, if_pos hs]
    obtain hattr | hstatus : m.gamemainrequest.msgtype = .GMT_RsyncAttr ∨
        m.gamemainrequest.msgtype = .GMT_RsyncStatus := by simpa using hmsg
    · rw [hattr] at hrsync ⊢
      exact hrsync
    · rw [hstatus] at hrsync ⊢
      exact hrsync
  have hsent : ∃ st' out, handled sqlite st (.packet s m rand) = .ok (st', out) ∧
      (p.socket, mainPacket { msgtype? := some m.gamemainrequest.msgtype, friendlist := ps }) ∈
        out := by
    simp only [handled_read hread, ProcessMsgLogic, hm, hmain]
    exact ⟨_, _, rfl, List.mem_map_of_mem (f := fun p : PlayerInfo => (p.socket, _)) hp⟩
  obtain ⟨st', out, hsent, hmem⟩ := hsent
  have hinit := h _ _ hsent _ hmem
  rw [initialized_sync] at hinit
  exact syncComplete_iff.mpr (fun qs hqs => by
    rw [hsynced, Option.mem_some] at hqs
    rw [← hqs]
    exact hinit) e he r hr p hp

/-- In a reachable state, all packets that a step sends are initialised if and only if
the login finds the account, the choice of a role finds the role, and the sync finds
complete positions. -/
theorem replies_initialized_iff {db : DB} {tr : List (Process DB × Action)}
    (h : ServerRun sqlite db tr st) (a : Action) :
    Initialized sqlite st a ↔ Answered sqlite st a := by
  constructor
  · intro hinit
    cases a with
    | accept s junk => exact trivial
    | close s => exact trivial
    | poll j now => exact trivial
    | packet s m rand =>
      intro hread he
      have hread : (readable s st && (st.cache.GetEntity s).isSome) = true := by
        rw [hread, he]
        rfl
      cases hm : m.curscene with
      | CS_Login =>
        refine Option.isSome_iff_ne_none.mpr fun hrow => ?_
        exact uninitialized_login hread hm hrow hinit
      | CS_SelectRole =>
        intro hs
        refine Option.isSome_iff_ne_none.mpr fun hrow => ?_
        exact uninitialized_select hread hm hs hrow hinit
      | CS_MainScene =>
        intro hs hmsg
        exact syncComplete_of_initialized hread hm hs hmsg hinit
      | _ => exact trivial
  · intro ha st' out hsent y hy
    obtain hy | ⟨t, ht⟩ | ⟨s, m, rand, r, rfl, hm, hr, hread, he, hs, huser⟩ :=
      handled_copied hsent y hy
    · exact initialized_built (allReady h) ha y.2 hy
    · rw [ht]
      exact initialized_registerPacket t
    · have ha := ha hread he
      simp only [hm] at ha
      rw [hr, initialized_selectPacket, huser]
      exact ha hs

end Steps

section Example

def alone (st : Process Unit) : Bool :=
  readable 7 st && (st.cache.GetEntity 7).any fun e : CClientEntity =>
    (e.SessionID = "") && (st.cache.FindEntityRoom e.roleInfo.roomid).any fun r : RoomInfo =>
      decide (r.playerinfo ≠ []) && r.playerinfo.all fun p => p.socket = 7

theorem exists_alone : ∃ tr st, ServerRun noTables () tr st ∧
    actions tr = [.accept 7 0, createRoom 7] ∧ alone st = true :=
  exists_run noTables () [.accept 7 0, createRoom 7] (fun _ st => alone st) (by decide +kernel)

def positionOf (x? : Option String) : PlayerInfo :=
  { pos? := some { x? := x?, y? := some "2", z? := some "3" } }

theorem alone_valid {st : Process Unit} (h : alone st = true) :
    (readable 7 st && (st.cache.GetEntity 7).isSome) = true ∧
      st.cache.CheckSessionValid 7 "" = true := by
  rw [alone, Bool.and_eq_true] at h
  obtain ⟨hread, he⟩ := h
  obtain ⟨e, he, h⟩ := (Option.any_eq_true _ _).mp he
  obtain ⟨hsid, -⟩ := Bool.and_eq_true_iff.mp h
  rw [CCache.CheckSessionValid, he, hread]
  exact ⟨rfl, hsid⟩

theorem alone_sync_iff {st : Process Unit} (h : alone st = true) {req : GameMainRequest}
    {x? : Option String} (hreq : req.playerinfo = positionOf x?) :
    SyncComplete 7 req st.cache ↔ x?.isSome = true := by
  rw [alone, Bool.and_eq_true] at h
  obtain ⟨-, he⟩ := h
  obtain ⟨e, he, h⟩ := (Option.any_eq_true _ _).mp he
  obtain ⟨-, hr⟩ := Bool.and_eq_true_iff.mp h
  obtain ⟨r, hr, h⟩ := (Option.any_eq_true _ _).mp hr
  obtain ⟨hne, hsockets⟩ := Bool.and_eq_true_iff.mp h
  have hself : ∀ p ∈ r.playerinfo, p.socket = 7 := fun p hp =>
    of_decide_eq_true (List.all_eq_true.mp hsockets p hp)
  have hcomplete : Complete req.playerinfo ↔ x?.isSome = true := by
    rw [hreq]
    simp [Complete, positionOf]
  constructor
  · intro hsync
    obtain ⟨p, hp⟩ := List.exists_mem_of_ne_nil _ (of_decide_eq_true hne)
    have hone := hsync e he r hr p hp e (by rw [hself p hp]; exact he)
    rw [if_pos (hself p hp)] at hone
    exact hcomplete.mp hone
  · intro hx e' he' r' hr' p hp f hf
    rw [he, Option.mem_some] at he'
    subst he'
    rw [hr, Option.mem_some] at hr'
    subst hr'
    rw [if_pos (hself p hp)]
    exact hcomplete.mpr hx

theorem sync_initialized : ∃ tr st, ServerRun noTables () tr st ∧
    actions tr = [.accept 7 0, createRoom 7] ∧
    Initialized noTables st (rsyncAttr 7 (positionOf (some "1"))) := by
  obtain ⟨tr, st, hrun, hact, halone⟩ := exists_alone
  refine ⟨tr, st, hrun, hact, (replies_initialized_iff hrun _).mpr ?_⟩
  intro _ _ _ _
  exact (alone_sync_iff halone rfl).mpr rfl

/-- A login with a wrong password is answered without the session id, and a sync of a
position without x is passed on as it is. -/
theorem uninitialized_replies :
    (∃ tr st st', ServerRun reference noTablesYet tr st ∧
      actions tr = [.accept 7 0, register 7 "ann" "pw"] ∧
      handled reference st (login 7 "ann" "no") =
        .ok (st', [(7, loginPacket { returntype? := some .Fail })]) ∧
      IsInitialized (loginPacket { returntype? := some .Fail }) = false) ∧
    ∃ tr st, ServerRun noTables () tr st ∧ actions tr = [.accept 7 0, createRoom 7] ∧
      ¬Initialized noTables st (rsyncAttr 7 (positionOf none)) := by
  constructor
  · obtain ⟨tr, st, hrun, hact, hp⟩ := exists_run reference noTablesYet
      [.accept 7 0, register 7 "ann" "pw"]
      (fun _ st => match handled reference st (login 7 "ann" "no") with
        | .ok x => decide (x.2 = [(7, loginPacket { returntype? := some .Fail })])
        | .error _ => false) (by decide +kernel)
    cases hsent : handled reference st (login 7 "ann" "no") with
    | error f => simp [hsent] at hp
    | ok x =>
      obtain ⟨st', out⟩ := x
      simp only [hsent, decide_eq_true_eq] at hp
      subst hp
      exact ⟨tr, st, st', hrun, hact, hsent, by decide⟩
  · obtain ⟨tr, st, hrun, hact, halone⟩ := exists_alone
    refine ⟨tr, st, hrun, hact, fun hinit => ?_⟩
    obtain ⟨hread, hvalid⟩ := alone_valid halone
    have hsync : SyncComplete 7 _ st.cache :=
      syncComplete_of_initialized hread rfl (by exact hvalid) List.mem_cons_self hinit
    cases (alone_sync_iff halone rfl).mp hsync

end Example

end JiraGame.Initialization
