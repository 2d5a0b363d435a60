import JiraGame.RoomTable
import JiraGame.SeatGrid
import JiraGame.ProcessFrame

namespace JiraGame.Refinement

open JiraGame.Scene JiraGame.Command JiraGame.DBServer JiraGame.Cache JiraGame.HallScene
open JiraGame.MainScene JiraGame.AccountScenes JiraGame.ServerState JiraGame.KeepAlive
open JiraGame.Server JiraGame.ProcessFrame JiraGame.SeatGrid JiraGame.RoomTable
open JiraGame.Lib.Fails

def createEvent (s : SOCKET) (req : HallRequest) (rand : List Nat) (e : CClientEntity)
    (c : CCache) : Event :=
  if req.roomname.length ≤ 0 ∨ e.roleInfo.roomid ≠ 0 then .quiet
  else
    match GenrateOnlyRoomID c rand with
    | some (id, _) => .create s id req.roomname
    | none => .quiet

def joinTeamEvent (s : SOCKET) (invite : InviteInfo) (c : CCache) : Event :=
  match c.FindEntityRoom invite.roomid with
  | some r =>
    if r.playerinfo.any (fun p => p.seat = (invite.team, invite.teamid)) then .quiet
    else .join s invite.roomid invite.team invite.teamid .joinTeam
  | none => .quiet

def joinRoomEvent (s : SOCKET) (invite : InviteInfo) (e : CClientEntity) (c : CCache) : Event :=
  match c.FindEntityRoom invite.roomid with
  | some r =>
    if r.playerinfo.any (fun p => p.roleid = e.roleInfo.roleid) then
      .leave s invite.roomid .joinRoom
    else
      match idleSeats r.playerinfo with
      | (first, pos :: _) :: _ => .join s invite.roomid (teamOfKey first) pos .joinRoom
      | _ => .quiet
  | none => .quiet

def leaveEvent (s : SOCKET) (via : LeavePath) (c : CCache) : Event :=
  match c.GetEntity s with
  | some e =>
    match c.FindEntityRoom e.roleInfo.roomid with
    | some _ => .leave s e.roleInfo.roomid via
    | none => .quiet
  | none => .quiet

def hallEvent (s : SOCKET) (req : HallRequest) (rand : List Nat) (c : CCache) : Event :=
  match c.GetEntity s with
  | none => .quiet
  | some e =>
    if e.SessionID = req.sessionid then
      match req.msgtype with
      | .HST_CreateRoom => createEvent s req rand e c
      | .HST_JoinTeam => joinTeamEvent s req.inviteinfo c
      | .HST_JoinRoom => joinRoomEvent s req.inviteinfo e c
      | .HST_LeaveRoom => leaveEvent s .leaveRoom c
      | .HST_GameWaite => .wait s
      | .HST_GameStart => .start s
      | _ => .quiet
    else .quiet

def mainEvent (s : SOCKET) (req : GameMainRequest) (c : CCache) : Event :=
  match c.GetEntity s with
  | none => .quiet
  | some e =>
    if e.SessionID = req.sessionid then
      match req.msgtype with
      | .GMT_RsyncAttr | .GMT_RsyncStatus =>
        match c.FindEntityRoom e.roleInfo.roomid with
        | some _ => .sync s req.playerinfo
        | none => .quiet
      | .GMT_GameOver => .gameOver s e.roleInfo.roomid
      | _ => .quiet
    else .quiet

variable {DB : Type} (sqlite : Sqlite DB)

def selectEvent (s : SOCKET) (req : SelectRoleRequest) (db : DB) (c : CCache) : Event :=
  if c.CheckSessionValid s req.sessionid then
    match firstRow (selectRole sqlite req db).2 with
    | none => .select s req.roletype none
    | some row =>
      match row.column_text 1 with
      | some userName => .select s req.roletype (some (row.column_int 0, userName))
      | none => .quiet
  else .quiet

def packetEvent (s : SOCKET) (m : UnPacket) (rand : List Nat) (st : Process DB) : Event :=
  match m.curscene with
  | .CS_SelectRole => selectEvent sqlite s m.selectrolerequest st.db st.cache
  | .CS_WaitRoom => hallEvent s m.hallrequest rand st.cache
  | .CS_MainScene => mainEvent s m.gamemainrequest st.cache
  | _ => .quiet

/-- The event of a tick for the record at address `ptr`. -/
def tickEvent (ptr : Nat) (st : Process DB) : Event :=
  match st.infos[ptr]? with
  | none => .quiet
  | some info =>
    match st.cache.GetEntity info.clientSocket with
    | none => .quiet
    | some e =>
      if 30 ≤ e.m_iSendMsgCount then .evict info.clientSocket
      else if leaveBand e && (!e.isBroken && info.RecMessage.keepalive.curscene = .CS_WaitRoom) then
        leaveEvent info.clientSocket .keepAlive st.cache
      else .quiet

def dueArg (j : Nat) (now : Nat) (st : Process DB) : Option Nat :=
  match st.loops[j]? with
  | none => none
  | some l =>
    match loopEntity l st with
    | none => none
    | some e =>
      if l.running && !e.m_ThreadPower && (st.preTime.getD now + e.m_iDeltaTime < now) then
        e.m_pTimeFuncArg
      else none

/-- What a step does to rooms and role infos, read off the state and the
action. -/
def event (st : Process DB) : Action → Event
  | .accept s _ =>
    if s ∈ st.g_CliSocketArr then .quiet
    else
      match st.cache.GetEntity s with
      | none => .enter s
      | some _ => .quiet
  | .close _ => .quiet
  | .packet s m rand =>
    if readable s st then
      match st.cache.GetEntity s with
      | none => .quiet
      | some _ => packetEvent sqlite s m rand st
    else .quiet
  | .poll j now =>
    match dueArg j now st with
    | some ptr => tickEvent ptr st
    | none => .quiet

/-- The event was possible and leads from one lobby to the other. -/
def Refines (l : Lobby) (ev : Event) (l' : Lobby) : Prop := l.Enabled ev ∧ l' = l.apply ev

theorem Refines.quiet (l : Lobby) : Refines l .quiet l := ⟨trivial, rfl⟩

theorem scanSeat_fst (team : TeamType) (teamid : Int) (ps : List PlayerInfo) (ret : HallReturn) :
    (scanSeat team teamid ps ret).1 = !ps.any fun p => p.seat = (team, teamid) := by
  induction ps generalizing ret with
  | nil => rfl
  | cons p ps ih =>
    by_cases h : p.team = team ∧ p.teamid = teamid
    · simp [scanSeat, h, PlayerInfo.seat]
    · simp only [scanSeat, if_neg h, ih, List.any_cons, PlayerInfo.seat, Prod.mk.injEq,
        decide_eq_false h, Bool.false_or]

theorem GenrateOnlyRoomID_fresh {c : CCache} {rand rest : List Nat} {id : Int}
    (h : GenrateOnlyRoomID c rand = some (id, rest)) (hid : id ≠ 0) :
    (lobby c).room id = none := by
  unfold GenrateOnlyRoomID at h
  split at h
  · dsimp only at h
    split at h
    · rename_i hfresh
      simp only [Option.some.injEq, Prod.mk.injEq] at h
      rw [← h.1]
      exact CCache.isOnly_iff.mp hfresh
    · obtain ⟨x, -, hx⟩ := Option.map_eq_some_iff.mp h
      simp only [Prod.mk.injEq] at hx
      exact absurd hx.1.symm hid
  · cases h

section Hall

variable {c c' : CCache} {out : Outbox} {s : SOCKET} {req : HallRequest} {e : CClientEntity}

theorem CreateRoom_refines {rand : List Nat} (he : c.GetEntity s = some e)
    (h : CreateRoom s req rand c = .ok (c', out)) :
    Refines (lobby c) (createEvent s req rand e c) (lobby c') := by
  rw [CreateRoom] at h
  rw [createEvent]
  by_cases hname : req.roomname.length ≤ 0
  · rw [if_pos hname] at h
    rw [if_pos (.inl hname)]
    cases h
    exact Refines.quiet _
  · rw [if_neg hname, he] at h
    by_cases hroom : e.roleInfo.roomid = 0
    · simp only [hroom, ne_eq, not_true_eq_false, if_false] at h
      rw [if_neg (by simp [hname, hroom])]
      cases hg : GenrateOnlyRoomID c rand with
      | none => simp [hg] at h
      | some x =>
        simp only [hg, Except.ok.injEq, Prod.mk.injEq] at h
        have hne : req.roomname ≠ "" := by
          intro h0
          simp [h0] at hname
        refine ⟨⟨e.roleInfo, role_of_entity c he, hroom, hne, GenrateOnlyRoomID_fresh hg⟩, ?_⟩
        rw [← h.1, lobby_writeRoleInfo, lobby_createRoom, Lobby.apply, role_of_entity c he]
    · simp only [ne_eq, hroom, not_false_eq_true, if_true] at h
      rw [if_pos (.inr hroom)]
      cases h
      exact Refines.quiet _

theorem lobby_join {k : Int} {r' : RoomInfo} (f : PlayerInfo → PlayerInfo)
    (entry : PlayerInfo) :
    lobby (((c.writeRoom k r').writeRoleInfo s f).EntityRoomAddMember k entry) =
      ((lobby c).setRoom k (some (r'.add_playerinfo entry))).modify s f := by
  rw [lobby_addMember, lobby_writeRoleInfo, lobby_writeRoom]
  apply Lobby.ext
  · funext j
    by_cases hj : j = k <;> simp [hj]
  · funext t
    simp

theorem JoinTeam_refines (h : JoinTeam s req c = .ok (c', out)) :
    Refines (lobby c) (joinTeamEvent s req.inviteinfo c) (lobby c') := by
  rw [JoinTeam] at h
  rw [joinTeamEvent]
  cases hr : c.FindEntityRoom req.inviteinfo.roomid with
  | none => simp [hr] at h
  | some r =>
    simp only [hr, scanSeat_fst] at h ⊢
    cases hseat : r.playerinfo.any
        (fun p => p.seat = (req.inviteinfo.team, req.inviteinfo.teamid)) with
    | true =>
      simp only [hseat, Bool.not_true, Bool.false_eq_true, if_false] at h
      rw [if_pos rfl]
      cases h
      exact Refines.quiet _
    | false =>
      simp only [hseat, Bool.not_false, if_true] at h
      rw [if_neg Bool.false_ne_true]
      cases he : c.GetEntity s with
      | none => simp [he] at h
      | some e =>
        simp only [he, Except.ok.injEq, Prod.mk.injEq] at h
        have hfree : ∀ q ∈ r.playerinfo, q.seat ≠ (req.inviteinfo.team, req.inviteinfo.teamid) := by
          simpa using hseat
        refine ⟨⟨e.roleInfo, r, role_of_entity c he, hr, hfree, by simp⟩, ?_⟩
        rw [← h.1, lobby_join]
        simp only [Lobby.apply, room_lobby, hr, role_of_entity c he]
        rfl

theorem lobby_rebuild (k : Int) (r : RoomInfo) :
    lobby ((c.EntityRoomRemoveMember k).CreateRoom k r) = (lobby c).setRoom k (some r) := by
  rw [lobby_createRoom, lobby_removeRoom, if_pos (by simp)]
  apply Lobby.ext
  · funext j
    by_cases hj : j = k <;> simp [hj]
  · rfl

theorem leaveOwnRoom_refines (via : LeavePath) (hvia : via ≠ .joinRoom)
    (h : leaveOwnRoom s c = .ok (c', out)) :
    Refines (lobby c) (leaveEvent s via c) (lobby c') := by
  rw [leaveOwnRoom] at h
  rw [leaveEvent]
  cases he : c.GetEntity s with
  | none => simp [he] at h
  | some e =>
    simp only [he] at h ⊢
    cases hr : c.FindEntityRoom e.roleInfo.roomid with
    | none =>
      simp only [hr] at h
      cases h
      exact Refines.quiet _
    | some r =>
      simp only [hr] at h
      refine ⟨⟨e.roleInfo, r, role_of_entity c he, hr, fun hv => absurd hv hvia, fun _ => rfl⟩, ?_⟩
      have hkey : leaveKey via e.roleInfo.roomid r = e.roleInfo.roomid := by
        cases via <;> first | rfl | exact absurd rfl hvia
      have hstay : stay via e.roleInfo r.playerinfo =
          copyOthers e.roleInfo.roleid false e.roleInfo.isroomctl false r.playerinfo := by
        cases via <;> first | rfl | exact absurd rfl hvia
      simp only [Lobby.apply, room_lobby, hr, role_of_entity c he, hkey, hstay]
      by_cases hlast : lastLeaves r = true
      · rw [if_pos hlast] at h
        cases h
        rw [if_pos hlast, lobby_writeRoleInfo, lobby_removeRoom]
      · rw [if_neg hlast] at h
        rw [if_neg hlast]
        cases hq : (copyOthers e.roleInfo.roleid false e.roleInfo.isroomctl false r.playerinfo).2 with
        | none =>
          simp only [hq] at h
          cases h
          rw [lobby_rebuild, lobby_writeRoleInfo]
          rfl
        | some q =>
          simp only [hq] at h
          cases hqe : c.GetEntity q.socket with
          | none => simp [hqe] at h
          | some e' =>
            simp only [hqe] at h
            cases h
            rw [lobby_rebuild, lobby_writeRoleInfo, lobby_writeRoleInfo]
            rfl

theorem leaveNamedRoom_lobby {r : RoomInfo} {p : PlayerInfo} {k : Int}
    (he : c.GetEntity s = some e) (hr : c.FindEntityRoom k = some r) :
    lobby (leaveNamedRoom s e r p c).1 = (lobby c).apply (.leave s k .joinRoom) := by
  simp only [Lobby.apply, room_lobby, hr, role_of_entity c he, leaveKey, stay, leaveNamedRoom]
  by_cases hlast : lastLeaves r = true
  · rw [if_pos hlast, if_pos hlast, lobby_writeRoleInfo, lobby_removeRoom]
  · rw [if_neg hlast, if_neg hlast, lobby_writeRoleInfo, lobby_rebuild]
    cases (copyOthers e.roleInfo.roleid true false false r.playerinfo).2 with
    | none => rfl
    | some q =>
      simp only [lobby_writeRoleInfo]
      rfl

theorem JoinRoom_refines (he : c.GetEntity s = some e) (h : JoinRoom s req c = .ok (c', out)) :
    Refines (lobby c) (joinRoomEvent s req.inviteinfo e c) (lobby c') := by
  rw [JoinRoom] at h
  rw [joinRoomEvent]
  cases hr : c.FindEntityRoom req.inviteinfo.roomid with
  | none =>
    simp only [hr] at h
    cases h
    exact Refines.quiet _
  | some r =>
    simp only [hr, he, IdleTeam_ID_eq] at h ⊢
    cases hp : r.playerinfo.find? (fun p => p.roleid = e.roleInfo.roleid) with
    | some p =>
      simp only [hp, Except.ok.injEq] at h
      have hmem := List.mem_of_find?_eq_some hp
      have hid : p.roleid = e.roleInfo.roleid := by simpa using List.find?_some hp
      have hany : r.playerinfo.any (fun p => p.roleid = e.roleInfo.roleid) = true :=
        List.any_eq_true.mpr ⟨p, hmem, by simpa using hid⟩
      rw [if_pos hany]
      refine ⟨⟨e.roleInfo, r, role_of_entity c he, hr, fun _ => ⟨p, hmem, hid⟩, by simp⟩, ?_⟩
      have hlob := @leaveNamedRoom_lobby c s e r p _ he hr
      rw [h] at hlob
      exact hlob
    | none =>
      have hany : ¬ r.playerinfo.any (fun p => p.roleid = e.roleInfo.roleid) = true := by
        simpa using hp
      rw [if_neg hany]
      simp only [hp] at h
      cases hidle : idleSeats r.playerinfo with
      | nil =>
        simp only [hidle] at h
        cases h
        exact Refines.quiet _
      | cons x more =>
        obtain ⟨first, js⟩ := x
        cases js with
        | nil => exact absurd hidle (idleSeats_cons_ne _ _ _)
        | cons pos js =>
          simp only [hidle, Except.ok.injEq, Prod.mk.injEq] at h
          obtain ⟨hgrid, hfree⟩ := first_idle _ _ _ _ _ hidle
          refine ⟨⟨e.roleInfo, r, role_of_entity c he, hr, hfree, fun _ => hgrid⟩, ?_⟩
          rw [← h.1, lobby_join]
          simp only [Lobby.apply, room_lobby, hr, role_of_entity c he]
          rfl

theorem GameWaite_spec (h : GameWaite s c = .ok (c', out)) : ∃ e r, c.GetEntity s = some e ∧
    c.FindEntityRoom e.roleInfo.roomid = some r ∧
    c' = c.writeRoleInfo s (·.set_gamewaite !e.roleInfo.gamewaite) := by
  rw [GameWaite] at h
  cases he : c.GetEntity s with
  | none => simp [he] at h
  | some e =>
    simp only [he] at h
    cases hr : c.FindEntityRoom e.roleInfo.roomid with
    | none => simp [hr] at h
    | some r =>
      simp only [hr] at h
      cases h
      exact ⟨e, r, rfl, hr, rfl⟩

theorem GameWaite_refines (h : GameWaite s c = .ok (c', out)) :
    Refines (lobby c) (.wait s) (lobby c') := by
  obtain ⟨e, r, he, hr, rfl⟩ := GameWaite_spec h
  refine ⟨⟨e.roleInfo, r, role_of_entity c he, hr⟩, ?_⟩
  rw [lobby_writeRoleInfo]
  apply Lobby.ext
  · rfl
  · funext t
    simp [Lobby.apply, role_of_entity c he]

theorem GameStart_spec (h : GameStart s c = .ok (c', out)) : ∃ e r all, c.GetEntity s = some e ∧
    c.FindEntityRoom e.roleInfo.roomid = some r ∧
    allPlayerWaite c e.roleInfo.roleid r.playerinfo = .ok all ∧ c' = c ∧
    out = r.playerinfo.map fun p => (p.socket, hallPacket
      { msgtype? := some .HST_GameStart, friendlist := if all then r.playerinfo else [] }) := by
  rw [GameStart] at h
  cases he : c.GetEntity s with
  | none => simp [he] at h
  | some e =>
    simp only [he] at h
    cases hr : c.FindEntityRoom e.roleInfo.roomid with
    | none => simp [hr] at h
    | some r =>
      simp only [hr] at h
      obtain ⟨all, hall, h⟩ := of_bind_ok h
      cases h
      exact ⟨e, r, all, rfl, hr, hall, rfl, rfl⟩

theorem GameStart_refines (h : GameStart s c = .ok (c', out)) :
    Refines (lobby c) (.start s) (lobby c') := by
  obtain ⟨e, r, -, he, hr, -, rfl, -⟩ := GameStart_spec h
  exact ⟨⟨e.roleInfo, r, role_of_entity _ he, hr⟩, rfl⟩

theorem CheckSessionValid_iff (he : c.GetEntity s = some e) (sid : String) :
    c.CheckSessionValid s sid = true ↔ e.SessionID = sid := by
  simp [CCache.CheckSessionValid, he]

theorem GetRoomList_cache (h : GetRoomList s c = .ok (c', out)) : c' = c := by
  obtain ⟨rooms, -, h⟩ := of_bind_ok h
  cases h
  rfl

theorem LeaveRoom_leaves (h : HallScene.LeaveRoom s c = .ok (c', out)) :
    ∃ o, leaveOwnRoom s c = .ok (c', o) := by
  obtain ⟨x, hl, h⟩ := of_bind_ok h
  cases h
  exact ⟨x.2, hl⟩

theorem hallLogic_refines {rand : List Nat} (he : c.GetEntity s = some e)
    (h : hallLogic s req rand c = .ok (c', out)) :
    Refines (lobby c) (hallEvent s req rand c) (lobby c') := by
  rw [hallLogic] at h
  rw [hallEvent]
  simp only [he]
  by_cases hs : e.SessionID = req.sessionid
  · rw [if_pos ((CheckSessionValid_iff he _).mpr hs)] at h
    rw [if_pos hs]
    cases hm : req.msgtype <;> simp only [hm] at h ⊢
    case HST_CreateRoom => exact CreateRoom_refines he h
    case HST_JoinTeam => exact JoinTeam_refines h
    case HST_JoinRoom => exact JoinRoom_refines he h
    case HST_GameWaite => exact GameWaite_refines h
    case HST_GameStart => exact GameStart_refines h
    case HST_LeaveRoom =>
      obtain ⟨o, hl⟩ := LeaveRoom_leaves h
      exact leaveOwnRoom_refines .leaveRoom (by decide) hl
    case HST_GetRoomList =>
      rw [GetRoomList_cache h]
      exact Refines.quiet _
    case HST_RequestTeam =>
      simp only [RequestTeam, he] at h
      cases h
      exact Refines.quiet _
    all_goals
      cases h
      exact Refines.quiet _
  · rw [if_neg (by rw [CheckSessionValid_iff he]; exact hs)] at h
    rw [if_neg hs]
    cases h
    exact Refines.quiet _

end Hall

section Main

variable {c c' : CCache} {out : Outbox} {s : SOCKET} {req : GameMainRequest} {e : CClientEntity}

theorem rsync_refines {msgtype : GameMainMsgType} (he : c.GetEntity s = some e)
    (h : rsync msgtype s req c = .ok (c', out)) :
    Refines (lobby c)
      (match c.FindEntityRoom e.roleInfo.roomid with
        | some _ => .sync s req.playerinfo
        | none => .quiet) (lobby c') := by
  rw [rsync] at h
  simp only [he] at h
  cases hr : c.FindEntityRoom e.roleInfo.roomid with
  | none =>
    simp only [hr] at h
    cases h
    exact Refines.quiet _
  | some r =>
    simp only [hr] at h
    cases h
    exact ⟨⟨e.roleInfo, r, role_of_entity c he, hr⟩, lobby_writeRoleInfo c s _⟩

/-- The loop of `GameOver` takes exactly the members out of their rooms. -/
theorem clearMembers_lobby {ps : List PlayerInfo} (h : clearMembers ps c = .ok c') :
    (∀ q ∈ ps, (lobby c).role q.socket ≠ none) ∧
      lobby c' = { room := (lobby c).room
                   role := fun t =>
                    if t ∈ ps.map PlayerInfo.socket then ((lobby c).role t).map (·.set_roomid 0)
                    else (lobby c).role t } := by
  induction ps generalizing c with
  | nil =>
    simp only [clearMembers, Except.ok.injEq] at h
    rw [h]
    simp
  | cons p ps ih =>
    simp only [clearMembers] at h
    cases he : c.GetEntity p.socket with
    | none => simp [he] at h
    | some e =>
      simp only [he] at h
      obtain ⟨hmem, hl⟩ := ih h
      rw [lobby_writeRoleInfo] at hmem hl
      have hp : (lobby c).role p.socket ≠ none := by simp [role_of_entity c he]
      refine ⟨?_, ?_⟩
      · intro q hq
        obtain rfl | hq := List.mem_cons.mp hq
        · exact hp
        · have hq' := hmem q hq
          by_cases ht : q.socket = p.socket
          · rw [ht]; exact hp
          · simpa [ht] using hq'
      · rw [hl]
        apply Lobby.ext
        · rfl
        · funext t
          by_cases ht : t = p.socket
          · subst ht
            by_cases hin : p.socket ∈ ps.map PlayerInfo.socket
            · simp [hin, role_of_entity c he, PlayerInfo.set_roomid]
            · simp [hin]
          · simp [ht]

theorem GameOver_refines (he : c.GetEntity s = some e) (h : GameOver s c = .ok (c', out)) :
    Refines (lobby c) (.gameOver s e.roleInfo.roomid) (lobby c') := by
  rw [GameOver] at h
  simp only [he] at h
  cases hr : c.FindEntityRoom e.roleInfo.roomid with
  | none =>
    simp only [hr, Except.ok.injEq, Prod.mk.injEq] at h
    refine ⟨⟨e.roleInfo, role_of_entity c he, rfl, by simp [room_lobby, hr]⟩, ?_⟩
    rw [← h.1, lobby_removeRoom]
    simp only [Lobby.apply, room_lobby, hr]
    apply Lobby.ext
    · funext j
      by_cases hj : j = e.roleInfo.roomid
      · simp [hj, room_lobby, hr]
      · simp [hj]
    · rfl
  | some r =>
    simp only [hr] at h
    obtain ⟨d, hc, h⟩ := of_bind_ok h
    cases h
    obtain ⟨hmem, hl⟩ := clearMembers_lobby hc
    refine ⟨⟨e.roleInfo, role_of_entity c he, rfl, ?_⟩, ?_⟩
    · intro r' hr'
      rw [room_lobby, hr, Option.some.injEq] at hr'
      rw [← hr']
      exact hmem
    · rw [lobby_removeRoom, hl]
      simp only [Lobby.apply, room_lobby, hr]
      rfl

theorem MainLogic_refines (he : c.GetEntity s = some e) (h : MainLogic s req c = .ok (c', out)) :
    Refines (lobby c) (mainEvent s req c) (lobby c') := by
  rw [MainLogic] at h
  rw [mainEvent]
  simp only [he]
  by_cases hs : e.SessionID = req.sessionid
  · rw [if_pos ((CheckSessionValid_iff he _).mpr hs)] at h
    rw [if_pos hs]
    cases hm : req.msgtype <;> simp only [hm] at h ⊢
    case GMT_RsyncAttr => exact rsync_refines he h
    case GMT_RsyncStatus => exact rsync_refines he h
    case GMT_GameOver => exact GameOver_refines he h
    all_goals
      cases h
      exact Refines.quiet _
  · rw [if_neg (by rw [CheckSessionValid_iff he]; exact hs)] at h
    rw [if_neg hs]
    cases h
    exact Refines.quiet _

end Main

section Account

variable {sqlite} {c c' : CCache} {out : Outbox} {s : SOCKET} {db db' : DB} {e : CClientEntity}

theorem SelectLogic_refines {req : SelectRoleRequest}
    (h : SelectLogic sqlite s req db c = .ok (db', c', out)) :
    Refines (lobby c) (selectEvent sqlite s req db c) (lobby c') := by
  rw [SelectLogic] at h
  rw [selectEvent]
  by_cases hs : c.CheckSessionValid s req.sessionid = true
  · have hrole : (lobby c).role s ≠ none := by
      intro h0
      simp only [role_lobby, Option.map_eq_none_iff] at h0
      simp [CCache.CheckSessionValid, h0] at hs
    rw [if_pos hs] at h ⊢
    cases hf : firstRow (selectRole sqlite req db).2 with
    | none =>
      simp only [hf] at h
      cases h
      exact ⟨hrole, lobby_writeRoleInfo c s _⟩
    | some row =>
      simp only [hf] at h
      cases ht : row.column_text 1 with
      | none => simp [ht] at h
      | some userName =>
        simp only [ht] at h ⊢
        cases h
        exact ⟨hrole, lobby_writeRoleInfo c s _⟩
  · rw [if_neg hs] at h ⊢
    cases h
    exact Refines.quiet _

theorem LoginLogic_lobby {req : LoginRequest} {rand : List Nat}
    (h : LoginLogic sqlite s req rand db c = .ok (db', c', out)) : lobby c' = lobby c := by
  obtain ⟨x, -, h⟩ := of_bind_ok h
  dsimp only at h
  split at h
  · cases h
    rfl
  · split at h
    · cases h
    · obtain ⟨y, -, h⟩ := of_bind_ok h
      cases h
      cases he : c.GetEntity s with
      | none => rfl
      | some e => exact lobby_writeEntity_same c he rfl

theorem RegisterLogic_cache {req : RegisterRequest}
    (h : RegisterLogic sqlite s req db c = .ok (db', c', out)) : c' = c := by
  rw [RegisterLogic] at h
  simp only [bind, Except.bind] at h
  repeat' split at h
  all_goals cases h <;> rfl

theorem CreateLogic_cache {req : CreateRoleRequest}
    (h : CreateLogic sqlite s req db c = .ok (db', c', out)) : c' = c := by
  rw [CreateLogic] at h
  simp only [bind, Except.bind] at h
  repeat' split at h
  all_goals cases h <;> rfl

end Account

section Ticks

variable {c c' : CCache} {out : Outbox} {s : SOCKET} {e : CClientEntity}

theorem lobby_writeTimed (f : CClientEntity → CClientEntity)
    (hf : ∀ e, (f e).roleInfo = e.roleInfo) : lobby (writeTimed s f c) = lobby c := by
  rw [writeTimed]
  cases he : c.GetEntity s with
  | none => rfl
  | some e => exact lobby_writeEntity_same c he (hf e)

theorem lobby_setBroken (b : Bool) :
    lobby (writeTimed s (fun e => { e with isBroken := b }) c) = lobby c :=
  lobby_writeTimed _ fun _ => rfl

theorem lobby_endTick (scene : CurScene) : lobby (endTick s scene c out).1 = lobby c :=
  lobby_writeTimed _ fun _ => rfl

theorem countedTick_spec {scene : CurScene} (h : countedTick s scene e c = .ok (c', out)) :
    ∃ c₁ c₂ o, (if leaveBand e && (!e.isBroken && scene = .CS_WaitRoom) then
        ∃ o, leaveOwnRoom s c = .ok (c₁, o) else c₁ = c) ∧
      (c₂ = c₁ ∨ ∃ b, c₂ = writeTimed s (fun e => { e with isBroken := b }) c₁) ∧
      c' = (endTick s scene c₂ o).1 := by
  rw [countedTick] at h
  cases hl : leaveBand e with
  | true =>
    simp only [hl, if_true] at h
    simp only [Bool.true_and]
    split at h
    · rename_i hb
      obtain ⟨⟨c₁, o⟩, hleave, h⟩ := of_bind_ok h
      simp only [hb, if_true]
      exact ⟨c₁, _, o, ⟨o, hleave⟩, .inr ⟨true, rfl⟩, (congrArg Prod.fst (Except.ok.inj h)).symm⟩
    · rename_i hb
      simp only [hb]
      exact ⟨c, _, [], rfl, .inr ⟨true, rfl⟩, (congrArg Prod.fst (Except.ok.inj h)).symm⟩
  | false =>
    simp only [hl, Bool.false_eq_true, if_false] at h
    simp only [Bool.false_and, Bool.false_eq_true, if_false]
    split at h
    · split at h
      · obtain ⟨o, -, h⟩ := of_bind_ok h
        exact ⟨c, _, o, rfl, .inr ⟨false, rfl⟩, (congrArg Prod.fst (Except.ok.inj h)).symm⟩
      · exact ⟨c, _, [], rfl, .inr ⟨false, rfl⟩, (congrArg Prod.fst (Except.ok.inj h)).symm⟩
    · exact ⟨c, c, [], rfl, .inl rfl, (congrArg Prod.fst (Except.ok.inj h)).symm⟩

theorem countedTick_refines {scene : CurScene} (h : countedTick s scene e c = .ok (c', out)) :
    Refines (lobby c)
      (if leaveBand e && (!e.isBroken && scene = .CS_WaitRoom) then leaveEvent s .keepAlive c
        else .quiet) (lobby c') := by
  obtain ⟨c₁, c₂, o, hleave, hflag, rfl⟩ := countedTick_spec h
  have hlob : lobby (endTick s scene c₂ o).1 = lobby c₁ := by
    rw [lobby_endTick]
    obtain rfl | ⟨b, rfl⟩ := hflag
    · rfl
    · exact lobby_setBroken b
  rw [hlob]
  split
  · rename_i hband
    rw [if_pos hband] at hleave
    obtain ⟨o', hleave⟩ := hleave
    exact leaveOwnRoom_refines .keepAlive (by decide) hleave
  · rename_i hband
    rw [if_neg hband] at hleave
    rw [hleave]
    exact Refines.quiet _

variable {st st' : Process DB}

theorem TimerFunc_refines {ptr : Nat} (h : TimerFunc (some ptr) st = .ok (st', out)) :
    Refines (lobby st.cache) (tickEvent ptr st) (lobby st'.cache) := by
  rw [tickEvent]
  obtain ⟨info, hi, ⟨he, rfl, rfl⟩ | ⟨e, he, ⟨hlate, rfl, rfl⟩ | ⟨hearly, c, ht, rfl⟩⟩⟩ :=
    TimerFunc_spec h
  · simp only [hi, he]
    exact Refines.quiet _
  · simp only [hi, he, if_pos hlate]
    exact ⟨by simp [Lobby.Enabled, role_of_entity st.cache he], lobby_eraseEntity st.cache _⟩
  · simp only [hi, he, if_neg hearly]
    exact countedTick_refines ht

theorem poll_spec {j now : Nat} (h : poll j now st = .ok (st', out)) :
    match dueArg j now st with
    | some ptr => ∃ st₁, TimerFunc (some ptr) st = .ok (st₁, out) ∧ st'.cache = st₁.cache
    | none => st'.cache = st.cache ∧ out = [] := by
  rw [poll] at h
  rw [dueArg]
  cases hl : st.loops[j]? with
  | none =>
    simp only [hl] at h
    cases h
    exact ⟨rfl, rfl⟩
  | some l =>
    simp only [hl] at h ⊢
    cases he : loopEntity l st with
    | none =>
      simp only [he] at h
      cases h
      exact ⟨rfl, rfl⟩
    | some e =>
      simp only [he] at h ⊢
      cases hrun : l.running with
      | false =>
        simp only [hrun, Bool.not_false, if_true] at h
        cases h
        exact ⟨rfl, rfl⟩
      | true =>
        cases hp : e.m_ThreadPower with
        | true =>
          simp only [hrun, hp, Bool.not_true, Bool.false_eq_true, if_false, if_true] at h
          cases h
          exact ⟨rfl, rfl⟩
        | false =>
          simp only [hrun, hp, Bool.not_true, Bool.false_eq_true, if_false] at h
          by_cases hd : st.preTime.getD now + e.m_iDeltaTime < now
          · rw [if_pos hd] at h
            simp only [hd, Bool.not_false, Bool.and_self, decide_true, if_true]
            obtain ⟨⟨st₁, o⟩, ht, h⟩ := of_bind_ok h
            cases h
            cases ha : e.m_pTimeFuncArg with
            | none =>
              rw [ha] at ht
              cases ht
              exact ⟨rfl, rfl⟩
            | some ptr =>
              rw [ha] at ht
              exact ⟨st₁, ht, rfl⟩
          · rw [if_neg hd] at h
            cases h
            simp [hd]

theorem poll_refines {j now : Nat} (h : poll j now st = .ok (st', out)) :
    Refines (lobby st.cache)
      (match dueArg j now st with
        | some ptr => tickEvent ptr st
        | none => .quiet) (lobby st'.cache) := by
  have hspec := poll_spec h
  cases hd : dueArg j now st with
  | none =>
    simp only [hd] at hspec ⊢
    rw [hspec.1]
    exact Refines.quiet _
  | some ptr =>
    simp only [hd] at hspec ⊢
    obtain ⟨st₁, ht, hcache⟩ := hspec
    rw [hcache]
    exact TimerFunc_refines ht

end Ticks

section Step

variable {sqlite} {st st' : Process DB} {out : Outbox} {s : SOCKET} {m : UnPacket} {e : CClientEntity}

theorem Start_spec (h : Start s m st = .ok (st', out)) : st'.cache = st.cache ∨
    ∃ e e', st.cache.GetEntity s = some e ∧ e'.roleInfo = e.roleInfo ∧ e'.SessionID = e.SessionID ∧
      st'.cache = st.cache.writeEntity s e' := by
  rw [Start] at h
  cases he : st.cache.GetEntity s with
  | none =>
    simp only [he] at h
    cases h
    exact .inl rfl
  | some e =>
    simp only [he] at h
    obtain ⟨st₁, hst, h⟩ := of_bind_ok h
    obtain ⟨infos, rfl⟩ := storeReport_frame hst
    right
    split at h
    all_goals
      cases h
      refine ⟨e, _, rfl, ?_, ?_, rfl⟩
      · rfl
      · rfl

theorem Start_lobby (h : Start s m st = .ok (st', out)) : lobby st'.cache = lobby st.cache := by
  obtain hcache | ⟨e, e', he, hrole, -, hcache⟩ := Start_spec h
  · rw [hcache]
  · rw [hcache]
    exact lobby_writeEntity_same st.cache he hrole

theorem ProcessMsgLogic_refines {rand : List Nat} (he : st.cache.GetEntity s = some e)
    (h : ProcessMsgLogic sqlite s m rand st = .ok (st', out)) :
    Refines (lobby st.cache) (packetEvent sqlite s m rand st) (lobby st'.cache) := by
  rw [ProcessMsgLogic] at h
  rw [packetEvent]
  cases hm : m.curscene <;> simp only [hm] at h ⊢
  case CS_KeepAlive =>
    rw [Start_lobby h]
    exact Refines.quiet _
  case CS_Login =>
    obtain ⟨x, hx, h⟩ := of_bind_ok h
    cases h
    rw [LoginLogic_lobby hx]
    exact Refines.quiet _
  case CS_CreateRole =>
    obtain ⟨x, hx, h⟩ := of_bind_ok h
    cases h
    rw [CreateLogic_cache hx]
    exact Refines.quiet _
  case CS_Register =>
    split at h
    · cases h
      exact Refines.quiet _
    · obtain ⟨x, hx, h⟩ := of_bind_ok h
      cases h
      rw [RegisterLogic_cache hx]
      exact Refines.quiet _
  case CS_SelectRole =>
    obtain ⟨x, hx, h⟩ := of_bind_ok h
    cases h
    exact SelectLogic_refines hx
  case CS_WaitRoom =>
    obtain ⟨x, hx, h⟩ := of_bind_ok h
    cases h
    exact hallLogic_refines he hx
  case CS_MainScene =>
    obtain ⟨x, hx, h⟩ := of_bind_ok h
    cases h
    exact MainLogic_refines he hx
  all_goals
    cases h
    exact Refines.quiet _

theorem cache_of_deliver {x : Process DB × Outbox} (h : deliver x = (st', out)) :
    st'.cache = x.1.cache := by
  obtain ⟨_, rfl⟩ := of_deliver h
  rfl

/-- A new handle gets a new entity; a handle that came back keeps its entity up
to flags and count. -/
theorem StartCServer_spec {junk : Int} (hs : s ∉ st.g_CliSocketArr)
    (h : StartCServer s junk st = .ok st') :
    match st.cache.GetEntity s with
    | none => st'.cache = st.cache.writeEntity s
        { addr := st.nextAddr, sockClient := s, m_iSendMsgCount := junk }
    | some e => st'.cache = st.cache.writeEntity s
        (StopTimerMutex { e with isBroken := false, m_HasThread := false }) := by
  rw [StartCServer, if_neg hs] at h
  cases he : st.cache.GetEntity s with
  | none =>
    simp only [he, CCache.SetEntity_new he] at h
    split at h
    · cases h
      rfl
    · split at h
      · cases h
      · cases h
        rfl
  | some e =>
    simp only [he] at h
    split at h
    · cases h
      rfl
    · split at h
      · cases h
      · cases h
        rfl

theorem StartCServer_refines {junk : Int} (h : StartCServer s junk st = .ok st') :
    Refines (lobby st.cache)
      (if s ∈ st.g_CliSocketArr then .quiet
        else
          match st.cache.GetEntity s with
          | none => .enter s
          | some _ => .quiet) (lobby st'.cache) := by
  by_cases hs : s ∈ st.g_CliSocketArr
  · rw [StartCServer, if_pos hs] at h
    rw [if_pos hs]
    cases h
    exact Refines.quiet _
  · have hspec := StartCServer_spec hs h
    rw [if_neg hs]
    cases he : st.cache.GetEntity s with
    | none =>
      simp only [he] at hspec ⊢
      rw [hspec]
      exact ⟨by simp [Lobby.Enabled, role_lobby, he], lobby_writeEntity st.cache s _⟩
    | some e =>
      simp only [he] at hspec ⊢
      have hsame : lobby st'.cache = lobby st.cache := by
        rw [hspec]
        exact lobby_writeEntity_same st.cache he rfl
      rw [hsame]
      exact Refines.quiet _

/-- Every completed step was possible for its event and does to rooms and role
infos what the event says. -/
theorem step_refines {a : Action} (h : step sqlite st a = .ok (st', out)) :
    Refines (lobby st.cache) (event sqlite st a) (lobby st'.cache) := by
  cases a with
  | accept s junk =>
    obtain ⟨st₁, hs, h⟩ := of_map_ok h
    cases h
    exact StartCServer_refines hs
  | close s =>
    simp only [step, event] at h ⊢
    split at h <;> cases h <;> exact Refines.quiet _
  | packet s m rand =>
    obtain ⟨x, hx, h⟩ := of_map_ok h
    rw [cache_of_deliver h]
    simp only [receive, event] at hx ⊢
    split at hx
    · rename_i hr
      rw [if_pos hr]
      cases he : st.cache.GetEntity s with
      | none =>
        simp only [he] at hx ⊢
        cases hx
        exact Refines.quiet _
      | some e =>
        simp only [he] at hx ⊢
        exact ProcessMsgLogic_refines he hx
    · rename_i hr
      rw [if_neg hr]
      cases hx
      exact Refines.quiet _
  | poll j now =>
    obtain ⟨x, hx, h⟩ := of_map_ok h
    rw [cache_of_deliver h]
    exact poll_refines hx

end Step

end JiraGame.Refinement
