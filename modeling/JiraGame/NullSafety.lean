import JiraGame.Headcount
import JiraGame.Links
import JiraGame.Shells
import JiraGame.Lib.Fails

namespace JiraGame.NullSafety

open JiraGame.Scene JiraGame.Command JiraGame.DBServer JiraGame.Cache JiraGame.HallScene
open JiraGame.MainScene JiraGame.AccountScenes JiraGame.ServerState JiraGame.KeepAlive
open JiraGame.Server JiraGame.Shells JiraGame.SeatGrid JiraGame.RoomTable JiraGame.Refinement
open JiraGame.RoomChanges JiraGame.Headcount JiraGame.Membership JiraGame.Links JiraGame.Runs
open JiraGame.Lib.History JiraGame.Lib.Fails JiraGame.Lib.Placement

/-- The faults that use a NULL lookup result or the first entry of an empty
roster. -/
def isNull : Fault → Bool
  | .nullEntity | .nullRoom | .emptyRoster => true
  | _ => false

def usesNull {α : Type} (x : Except Fault α) : Bool := fails isNull x

section Results

variable {α β : Type}

@[simp] theorem usesNull_ok (a : α) : usesNull (.ok a) = false := rfl

@[simp] theorem usesNull_error (f : Fault) : usesNull (.error f : Except Fault α) = isNull f := rfl

@[simp] theorem usesNull_map (g : α → β) (x : Except Fault α) : usesNull (x.map g) = usesNull x :=
  fails_map g x

theorem usesNull_bind (x : Except Fault α) (k : α → Except Fault β)
    (h : ∀ a, usesNull (k a) = false) : usesNull (x >>= k) = usesNull x :=
  fails_bind x k h

theorem usesNull_bind_iff (x : Except Fault α) (k : α → Except Fault β)
    (h : ∀ a, usesNull (k a) = false) : usesNull (x >>= k) = true ↔ usesNull x = true := by
  rw [usesNull_bind x k h]

end Results

def waiting (c : CCache) (s : SOCKET) : Bool := (c.GetEntity s).any (·.roleInfo.gamewaite)

/-- The owner leaves a room that is kept, and the first member with another role
id has no entity. -/
def LeaveNull (e : CClientEntity) (c : CCache) : Prop :=
  e.roleInfo.isroomctl = true ∧ ∃ r, c.FindEntityRoom e.roleInfo.roomid = some r ∧
    lastLeaves r = false ∧ ∃ q, c.GetEntity q.socket = none ∧
      r.playerinfo.find? (fun q => q.roleid ≠ e.roleInfo.roleid) = some q

/-- The own room is not stored, or the first member with another role id who is
not ready has no entity. -/
def StartNull (e : CClientEntity) (c : CCache) : Prop :=
  ∀ r, c.FindEntityRoom e.roleInfo.roomid = some r → ∃ q, c.GetEntity q.socket = none ∧
    r.playerinfo.find? (fun q => q.roleid ≠ e.roleInfo.roleid && !waiting c q.socket) = some q

/-- Some member of the own room has no entity. -/
def OverNull (e : CClientEntity) (c : CCache) : Prop :=
  ∃ r, c.FindEntityRoom e.roleInfo.roomid = some r ∧ ∃ q ∈ r.playerinfo, c.GetEntity q.socket = none

def HallNull (req : HallRequest) (e : CClientEntity) (c : CCache) : Prop :=
  match req.msgtype with
  | .HST_JoinTeam => c.FindEntityRoom req.inviteinfo.roomid = none
  | .HST_GetRoomList => ∃ k r, c.FindEntityRoom k = some r ∧ r.playerinfo = []
  | .HST_LeaveRoom => LeaveNull e c
  | .HST_GameWaite => c.FindEntityRoom e.roleInfo.roomid = none
  | .HST_GameStart => StartNull e c
  | _ => False

def PacketNull (m : UnPacket) (e : CClientEntity) (c : CCache) : Prop :=
  match m.curscene with
  | .CS_WaitRoom => e.SessionID = m.hallrequest.sessionid ∧ HallNull m.hallrequest e c
  | .CS_MainScene => e.SessionID = m.gamemainrequest.sessionid ∧
      m.gamemainrequest.msgtype = .GMT_GameOver ∧ OverNull e c
  | _ => False

section Hall

variable {c : CCache} {s : SOCKET} {e : CClientEntity} {req : HallRequest} {rand : List Nat}

theorem CreateRoom_null (he : c.GetEntity s = some e) :
    usesNull (CreateRoom s req rand c) = false := by
  rw [CreateRoom]
  split
  · rfl
  · simp only [he]
    split
    · rfl
    · split <;> rfl

theorem JoinTeam_null (he : c.GetEntity s = some e) :
    usesNull (JoinTeam s req c) = true ↔ c.FindEntityRoom req.inviteinfo.roomid = none := by
  unfold JoinTeam
  cases hr : c.FindEntityRoom req.inviteinfo.roomid with
  | none => simp [hr, isNull]
  | some r =>
    simp only [hr, he]
    split <;> simp

theorem JoinRoom_null (he : c.GetEntity s = some e) : usesNull (JoinRoom s req c) = false := by
  unfold JoinRoom
  cases hr : c.FindEntityRoom req.inviteinfo.roomid with
  | none => simp [hr]
  | some r =>
    simp only [hr, he, IdleTeam_ID_eq]
    split
    · rfl
    · split <;> rfl

theorem GetRoomList_null : usesNull (GetRoomList s c) = true ↔
    ∃ k r, c.FindEntityRoom k = some r ∧ r.playerinfo = [] := by
  rw [GetRoomList]
  rw [usesNull_bind _ _ fun _ => rfl]
  have hmem : ∀ k r, (k, r) ∈ c.GetEntityRooms ↔ c.FindEntityRoom k = some r := fun k r =>
    Std.TreeMap.mem_toList_iff_getElem?_eq_some
  rw [usesNull, fails_mapM]
  · refine ⟨?_, ?_⟩
    · rintro ⟨⟨k, r⟩, hx, hg⟩
      refine ⟨k, r, (hmem k r).mp hx, ?_⟩
      cases hp : r.playerinfo with
      | nil => rfl
      | cons p ps => simp [hp] at hg
    · rintro ⟨k, r, hr, hp⟩
      exact ⟨(k, r), (hmem k r).mpr hr, by simp [hp, isNull]⟩
  · intro x f hx
    cases hxp : x.2.playerinfo with
    | nil =>
      simp only [hxp] at hx
      cases hx
      rfl
    | cons p ps => simp [hxp] at hx

theorem copyOthers_owner (roleid : Int) (isCaptain : Bool) (ps : List PlayerInfo) :
    (copyOthers roleid false isCaptain false ps).2 =
      if isCaptain then (ps.find? fun q => q.roleid ≠ roleid).map (·.set_isroomctl true)
      else none := by
  induction ps with
  | nil => cases isCaptain <;> rfl
  | cons p ps ih =>
    by_cases hp : p.roleid = roleid
    · rw [copyOthers, if_pos hp, Bool.false_and, Bool.or_false, ih]
      simp [hp]
    · cases isCaptain with
      | true =>
        rw [copyOthers, if_neg hp, if_pos (by decide)]
        simp [hp]
      | false =>
        rw [copyOthers, if_neg hp, if_neg (by decide)]
        simpa using ih

theorem leaveOwnRoom_null (he : c.GetEntity s = some e) :
    usesNull (leaveOwnRoom s c) = true ↔ LeaveNull e c := by
  rw [leaveOwnRoom, LeaveNull]
  simp only [he]
  cases hr : c.FindEntityRoom e.roleInfo.roomid with
  | none => simp
  | some r =>
    simp only [copyOthers_owner, Option.some.injEq, exists_eq_left']
    cases hlast : lastLeaves r with
    | true => simp
    | false =>
      cases hctl : e.roleInfo.isroomctl with
      | false => simp
      | true =>
        cases hf : r.playerinfo.find? (fun q => q.roleid ≠ e.roleInfo.roleid) with
        | none => simp
        | some q =>
          have hsock : (q.set_isroomctl true).socket = q.socket := rfl
          simp only [Bool.false_eq_true, if_false, if_true, Option.map_some, hsock]
          cases hq : c.GetEntity q.socket with
          | none => simp [isNull, hq]
          | some e' => simp [hq]

theorem LeaveRoom_null (he : c.GetEntity s = some e) :
    usesNull (HallScene.LeaveRoom s c) = true ↔ LeaveNull e c := by
  rw [← leaveOwnRoom_null he, HallScene.LeaveRoom]
  exact usesNull_bind_iff (leaveOwnRoom s c) _ fun _ => rfl

theorem GameWaite_null (he : c.GetEntity s = some e) :
    usesNull (GameWaite s c) = true ↔ c.FindEntityRoom e.roleInfo.roomid = none := by
  rw [GameWaite]
  simp only [he]
  cases c.FindEntityRoom e.roleInfo.roomid with
  | none => simp [isNull]
  | some r => simp

/-- The loop of `GameStart` ends at the first other member who is not ready. -/
theorem allPlayerWaite_null (roleid : Int) (ps : List PlayerInfo) :
    usesNull (allPlayerWaite c roleid ps) = true ↔ ∃ q, c.GetEntity q.socket = none ∧
      ps.find? (fun q => q.roleid ≠ roleid && !waiting c q.socket) = some q := by
  induction ps with
  | nil => simp [allPlayerWaite]
  | cons p ps ih =>
    rw [allPlayerWaite]
    by_cases hp : p.roleid = roleid
    · rw [if_pos hp, ih]
      simp [hp]
    · rw [if_neg hp]
      cases he : c.GetEntity p.socket with
      | none =>
        have hw : waiting c p.socket = false := by simp [waiting, he]
        simp [hp, hw, he, isNull]
      | some e =>
        cases hg : e.roleInfo.gamewaite with
        | true =>
          have hw : waiting c p.socket = true := by simp [waiting, he, hg]
          simpa [hw, hg] using ih
        | false =>
          have hw : waiting c p.socket = false := by simp [waiting, he, hg]
          simp [hp, hw, he, hg]

theorem GameStart_null (he : c.GetEntity s = some e) :
    usesNull (GameStart s c) = true ↔ StartNull e c := by
  rw [GameStart, StartNull]
  simp only [he]
  cases hr : c.FindEntityRoom e.roleInfo.roomid with
  | none => simp [isNull]
  | some r =>
    simp only [Option.some.injEq, forall_eq']
    rw [← allPlayerWaite_null, usesNull_bind _ _ fun _ => rfl]

theorem hallLogic_null (he : c.GetEntity s = some e) : usesNull (hallLogic s req rand c) = true ↔
    e.SessionID = req.sessionid ∧ HallNull req e c := by
  rw [hallLogic, HallNull]
  by_cases hs : e.SessionID = req.sessionid
  · rw [if_pos ((CheckSessionValid_iff he _).mpr hs), and_iff_right hs]
    cases req.msgtype <;> dsimp only
    case HST_CreateRoom => rw [CreateRoom_null he]; simp
    case HST_JoinTeam => exact JoinTeam_null he
    case HST_JoinRoom => rw [JoinRoom_null he]; simp
    case HST_GetRoomList => exact GetRoomList_null
    case HST_LeaveRoom => exact LeaveRoom_null he
    case HST_GameWaite => exact GameWaite_null he
    case HST_GameStart => exact GameStart_null he
    case HST_RequestTeam => simp [RequestTeam, he]
    case HST_OnlineFriend => simp [OnlineFriend]
    all_goals simp
  · rw [if_neg (by rw [CheckSessionValid_iff he]; exact hs)]
    simp [hs]

end Hall

section Main

variable {c : CCache} {s : SOCKET} {e : CClientEntity} {req : GameMainRequest}

theorem rsync_null {msgtype : GameMainMsgType} (he : c.GetEntity s = some e) :
    usesNull (rsync msgtype s req c) = false := by
  rw [rsync]
  simp only [he]
  split <;> rfl

theorem GetEntity_eq_none (c : CCache) (s : SOCKET) : c.GetEntity s = none ↔ shells c s = none := by
  rw [shells, Option.map_eq_none_iff]

theorem clearMembers_null (ps : List PlayerInfo) : ∀ c : CCache,
    usesNull (clearMembers ps c) = true ↔ ∃ q ∈ ps, c.GetEntity q.socket = none := by
  induction ps with
  | nil => simp [clearMembers]
  | cons p ps ih =>
    intro c
    rw [clearMembers]
    cases hp : c.GetEntity p.socket with
    | none => simp [hp, isNull]
    | some e =>
      dsimp only
      rw [ih]
      simp only [GetEntity_eq_none, shells_writeRoleInfo]
      simp [shells, hp]

theorem GameOver_null (he : c.GetEntity s = some e) :
    usesNull (GameOver s c) = true ↔ OverNull e c := by
  rw [GameOver, OverNull]
  simp only [he]
  cases hr : c.FindEntityRoom e.roleInfo.roomid with
  | none => simp
  | some r =>
    simp only [Option.some.injEq, exists_eq_left']
    rw [← clearMembers_null, usesNull_bind _ _ fun _ => rfl]

theorem MainLogic_null (he : c.GetEntity s = some e) : usesNull (MainLogic s req c) = true ↔
    e.SessionID = req.sessionid ∧ req.msgtype = .GMT_GameOver ∧ OverNull e c := by
  rw [MainLogic]
  by_cases hs : e.SessionID = req.sessionid
  · rw [if_pos ((CheckSessionValid_iff he _).mpr hs), and_iff_right hs]
    cases req.msgtype <;> dsimp only
    case GMT_RsyncAttr => rw [RsyncAttr, rsync_null he]; simp
    case GMT_RsyncStatus => rw [RsyncStatus, rsync_null he]; simp
    case GMT_GameOver => rw [GameOver_null he]; simp
    all_goals simp
  · rw [if_neg (by rw [CheckSessionValid_iff he]; exact hs)]
    simp [hs]

end Main

section Account

variable {DB : Type} {sqlite : Sqlite DB} {db : DB} {c : CCache} {s : SOCKET}

theorem run_null (sql : Option Sql) : usesNull (run sqlite db sql) = false := by
  cases sql <;> rfl

theorem LoginLogic_null {req : LoginRequest} {rand : List Nat} :
    usesNull (LoginLogic sqlite s req rand db c) = false := by
  rw [LoginLogic]
  apply fails_bind_false (run_null _)
  intro x
  dsimp only
  split
  · rfl
  · split
    · rfl
    · exact fails_bind_false (run_null _) fun _ => rfl

theorem RegisterLogic_null {req : RegisterRequest} :
    usesNull (RegisterLogic sqlite s req db c) = false := by
  rw [RegisterLogic]
  apply fails_bind_false (run_null _)
  intro x
  dsimp only
  split
  · exact fails_bind_false (run_null _) fun _ => rfl
  · rfl

theorem CreateLogic_null {req : CreateRoleRequest} :
    usesNull (CreateLogic sqlite s req db c) = false := by
  rw [CreateLogic]
  dsimp only
  split
  · apply fails_bind_false (run_null _)
    intro x
    split
    · rfl
    · split
      · rfl
      · split
        · rfl
        · split
          · rfl
          · apply fails_bind_false (run_null _)
            intro y
            split <;> rfl
  · rfl

theorem SelectLogic_null {req : SelectRoleRequest} :
    usesNull (SelectLogic sqlite s req db c) = false := by
  rw [SelectLogic]
  split
  · dsimp only
    split
    · rfl
    · split <;> rfl
  · rfl

end Account

section Ticks

variable {DB : Type} {c : CCache} {s : SOCKET} {e : CClientEntity} {st : Process DB}

/-- The tick for the record at `ptr` makes an owner leave. -/
def TickNull (ptr : Nat) (st : Process DB) : Prop :=
  ∃ info e, st.infos[ptr]? = some info ∧ st.cache.GetEntity info.clientSocket = some e ∧
    leaveBand e = true ∧ e.isBroken = false ∧
    info.RecMessage.keepalive.curscene = .CS_WaitRoom ∧ LeaveNull e st.cache

theorem breakLine_null (he : c.GetEntity s = some e) : usesNull (breakLine s c) = false := by
  rw [breakLine]
  simp only [he]
  split <;> rfl

theorem countedTick_null {scene : CurScene} (he : c.GetEntity s = some e) :
    usesNull (countedTick s scene e c) = true ↔
      leaveBand e = true ∧ e.isBroken = false ∧ scene = .CS_WaitRoom ∧ LeaveNull e c := by
  rw [countedTick]
  cases hl : leaveBand e with
  | false =>
    simp only [Bool.false_eq_true, if_false, false_and, iff_false, Bool.not_eq_true]
    split
    · split
      · exact fails_bind_false (breakLine_null he) fun _ => rfl
      · rfl
    · rfl
  | true =>
    simp only [if_true, true_and]
    cases hb : e.isBroken with
    | true =>
      simp only [Bool.not_true, Bool.false_and, Bool.false_eq_true, if_false, reduceCtorEq,
        false_and, iff_false, Bool.not_eq_true]
      rfl
    | false =>
      by_cases hs : scene = .CS_WaitRoom
      · simp only [hs, Bool.not_false, decide_true, Bool.and_self, if_true, true_and]
        rw [← leaveOwnRoom_null he]
        exact usesNull_bind_iff (KeepAlive.LeaveRoom s c) _ fun _ => rfl
      · simp only [hs, decide_false, Bool.and_false, Bool.false_eq_true, if_false, false_and,
          and_false, iff_false, Bool.not_eq_true]
        rfl

theorem TimerFunc_null (ptr : Nat) : usesNull (TimerFunc (some ptr) st) = true ↔ TickNull ptr st := by
  rw [TimerFunc, TickNull]
  dsimp only
  cases hi : st.infos[ptr]? with
  | none => simp [isNull]
  | some info =>
    cases he : st.cache.GetEntity info.clientSocket with
    | none => simp [he]
    | some e =>
      simp only [Option.some.injEq, exists_and_left, exists_eq_left', he]
      by_cases hc : 30 ≤ e.m_iSendMsgCount
      · have hl : leaveBand e = false := by
          simp only [leaveBand, Bool.and_eq_false_iff, decide_eq_false_iff_not]
          omega
        simp [hc, hl]
      · rw [if_neg hc, ← countedTick_null he]
        exact usesNull_bind_iff (countedTick info.clientSocket _ e _) _ fun _ => rfl

theorem poll_null (j now : Nat) : usesNull (KeepAlive.poll j now st) = true ↔
    ∃ ptr, dueArg j now st = some ptr ∧ TickNull ptr st := by
  rw [KeepAlive.poll, dueArg]
  cases st.loops[j]? with
  | none => simp
  | some l =>
    dsimp only
    cases loopEntity l st with
    | none => simp
    | some e =>
      dsimp only
      cases l.running with
      | false => simp
      | true =>
        cases e.m_ThreadPower with
        | true => simp
        | false =>
          by_cases hd : st.preTime.getD now + e.m_iDeltaTime < now
          · simp only [hd, Bool.not_true, Bool.not_false, Bool.false_eq_true, if_false, if_true,
              Bool.and_self, decide_true]
            cases harg : e.m_pTimeFuncArg with
            | none => simp [TimerFunc, bind, Except.bind]
            | some ptr =>
              simp only [Option.some.injEq, exists_eq_left']
              rw [← TimerFunc_null]
              exact usesNull_bind_iff (TimerFunc (some ptr) st) _ fun _ => rfl
          · simp [hd]

theorem Start_null {m : UnPacket} : usesNull (Start s m st) = false := by
  have hmsg : usesNull (storeMessage s m st) = false := by
    rw [storeMessage]
    split
    · rfl
    · split <;> rfl
  have hreport : usesNull (storeReport s m st) = false := by
    rw [storeReport]
    split
    · exact hmsg
    · split
      · exact hmsg
      · rfl
  rw [Start]
  split
  · rfl
  · apply fails_bind_false hreport
    intro st₁
    dsimp only
    split <;> rfl

end Ticks

section Step

variable {DB : Type} {sqlite : Sqlite DB} {db : DB} {st : Process DB}

/-- The requests and timer turns that use NULL. -/
def NullUse (st : Process DB) : Action → Prop
  | .packet s m _ => readable s st = true ∧ ∃ e, st.cache.GetEntity s = some e ∧
      PacketNull m e st.cache
  | .poll j now => ∃ ptr, dueArg j now st = some ptr ∧ TickNull ptr st
  | _ => False

theorem StartCServer_null (s : SOCKET) (junk : Int) : usesNull (StartCServer s junk st) = false := by
  rw [StartCServer]
  split
  · rfl
  · cases st.cache.GetEntity s
    all_goals
      dsimp only
      split
      · rfl
      · split <;> rfl

theorem ProcessMsgLogic_null {s : SOCKET} {m : UnPacket} {rand : List Nat} {e : CClientEntity}
    (he : st.cache.GetEntity s = some e) :
    usesNull (ProcessMsgLogic sqlite s m rand st) = true ↔ PacketNull m e st.cache := by
  rw [ProcessMsgLogic, PacketNull]
  cases m.curscene <;> dsimp only
  case CS_KeepAlive => rw [Start_null]; simp
  case CS_Login => rw [usesNull_bind _ _ fun _ => rfl, LoginLogic_null]; simp
  case CS_CreateRole => rw [usesNull_bind _ _ fun _ => rfl, CreateLogic_null]; simp
  case CS_Register =>
    split
    · simp
    · rw [usesNull_bind _ _ fun _ => rfl, RegisterLogic_null]; simp
  case CS_SelectRole => rw [usesNull_bind _ _ fun _ => rfl, SelectLogic_null]; simp
  case CS_WaitRoom => rw [usesNull_bind _ _ fun _ => rfl, hallLogic_null he]
  case CS_MainScene => rw [usesNull_bind _ _ fun _ => rfl, MainLogic_null he]
  all_goals simp

theorem step_null (a : Action) : usesNull (step sqlite st a) = true ↔ NullUse st a := by
  cases a with
  | accept s junk =>
    simp only [step, usesNull_map, NullUse, iff_false, Bool.not_eq_true]
    exact StartCServer_null s junk
  | close s =>
    simp only [step, NullUse, iff_false, Bool.not_eq_true]
    split <;> rfl
  | packet s m rand =>
    simp only [step, usesNull_map, NullUse, receive]
    by_cases hr : readable s st = true
    · rw [if_pos hr, and_iff_right hr]
      cases he : st.cache.GetEntity s with
      | none => simp
      | some e =>
        simp only [Option.some.injEq, exists_eq_left']
        exact ProcessMsgLogic_null he
    · rw [if_neg hr]
      simp [hr]
  | poll j now =>
    simp only [step, usesNull_map, NullUse]
    exact poll_null j now

end Step

section Run

variable {DB : Type} {sqlite : Sqlite DB} {db : DB} {st : Process DB}

/-- A request about a room that is not stored, by a handler that does not check
this. -/
def AsksUnstored (st : Process DB) : Action → Prop
  | .packet s m _ => readable s st = true ∧ m.curscene = .CS_WaitRoom ∧
      ∃ e, st.cache.GetEntity s = some e ∧ e.SessionID = m.hallrequest.sessionid ∧
        match m.hallrequest.msgtype with
        | .HST_JoinTeam => st.cache.FindEntityRoom m.hallrequest.inviteinfo.roomid = none
        | .HST_GameWaite | .HST_GameStart => st.cache.FindEntityRoom e.roleInfo.roomid = none
        | _ => False
  | _ => False

theorem entity_of_member {c : CCache} (h : Linked 0 (roomOf (lobby c)) (sockets (lobby c))) {k : Int}
    {r : RoomInfo} (hr : c.FindEntityRoom k = some r) {q : PlayerInfo} (hq : q ∈ r.playerinfo) :
    c.GetEntity q.socket ≠ none := by
  intro hnone
  have hsock : q.socket ∈ sockets (lobby c) k := by
    rw [sockets, roster_of_room hr]
    exact List.mem_map_of_mem hq
  apply h.present k q.socket hsock
  rw [roomOf, role_lobby, hnone]
  rfl

/-- With rooms and entities linked and no roster empty, only requests about
rooms that are not stored use NULL. -/
theorem nullUse_iff_asksUnstored (h : Linked 0 (roomOf (lobby st.cache)) (sockets (lobby st.cache)))
    (hc : AllCounted (lobby st.cache)) (a : Action) : NullUse st a ↔ AsksUnstored st a := by
  have hleave : ∀ e, ¬ LeaveNull e st.cache := by
    rintro e ⟨-, r, hr, -, q, hnone, hq⟩
    exact entity_of_member h hr (List.mem_of_find?_eq_some hq) hnone
  have hstart : ∀ e, StartNull e st.cache ↔ st.cache.FindEntityRoom e.roleInfo.roomid = none := by
    intro e
    refine ⟨?_, ?_⟩
    · intro hnull
      cases hr : st.cache.FindEntityRoom e.roleInfo.roomid with
      | none => rfl
      | some r =>
        obtain ⟨q, hnone, hq⟩ := hnull r hr
        exact absurd hnone (entity_of_member h hr (List.mem_of_find?_eq_some hq))
    · intro hnone r hr
      rw [hnone] at hr
      cases hr
  have hover : ∀ e, ¬ OverNull e st.cache := by
    rintro e ⟨r, hr, q, hq, hnone⟩
    exact entity_of_member h hr hq hnone
  have hlist : ¬ ∃ k r, st.cache.FindEntityRoom k = some r ∧ r.playerinfo = [] := by
    rintro ⟨k, r, hr, hempty⟩
    have hpos := (hc k r hr).2
    rw [hempty] at hpos
    exact absurd hpos (by decide)
  cases a with
  | accept s junk => exact Iff.rfl
  | close s => exact Iff.rfl
  | poll j now =>
    refine ⟨?_, False.elim⟩
    rintro ⟨ptr, -, info, e, -, -, -, -, -, hnull⟩
    exact hleave e hnull
  | packet s m rand =>
    refine and_congr_right fun _ => ?_
    refine ⟨?_, ?_⟩
    · rintro ⟨e, he, hnull⟩
      rw [PacketNull] at hnull
      split at hnull
      · rename_i hm
        obtain ⟨hs, hnull⟩ := hnull
        refine ⟨hm, e, he, hs, ?_⟩
        rw [HallNull] at hnull
        split at hnull
        · rename_i ht
          rw [ht]
          exact hnull
        · exact absurd hnull hlist
        · exact absurd hnull (hleave e)
        · rename_i ht
          rw [ht]
          exact hnull
        · rename_i ht
          rw [ht]
          exact (hstart e).mp hnull
        · exact hnull.elim
      · exact absurd hnull.2.2 (hover e)
      · exact hnull.elim
    · rintro ⟨hm, e, he, hs, hask⟩
      refine ⟨e, he, ?_⟩
      simp only [PacketNull, hm]
      refine ⟨hs, ?_⟩
      rw [HallNull]
      split at hask
      · rename_i ht
        rw [ht]
        exact hask
      · rename_i ht
        rw [ht]
        exact hask
      · rename_i ht
        rw [ht]
        exact (hstart e).mpr hask
      · exact hask.elim

/-- The next step after a run uses NULL exactly for the requests and timer turns
named; when all leaves and evictions so far spared the links of others and all
leaves struck one entry, these are the requests about rooms not stored. -/
theorem next_uses_null_iff (tr : List (Process DB × Action)) (st : Process DB)
    (h : ServerRun sqlite db tr st) (a : Action) :
    ((∃ f, step sqlite st a = .error f ∧ isNull f = true) ↔ NullUse st a) ∧
    ((∀ x ∈ tr, Spares (lobby x.1.cache) (event sqlite x.1 x.2) ∧
        StrikesOne (lobby x.1.cache) (event sqlite x.1 x.2)) →
      (NullUse st a ↔ AsksUnstored st a)) := by
  refine ⟨?_, ?_⟩
  · rw [← fails_iff]
    exact step_null a
  · intro hc
    have hlinked := (lobby_always_iff (I := fun l => Linked 0 (roomOf l) (sockets l)) keyed_empty
      (fun _ _ => keyed_apply) linked_empty (fun _ _ => linked_apply_iff) h).mpr
      (fun x hx => (hc x hx).1) _ self_mem_points
    have hcounted := (lobby_always_iff (I := AllCounted) keyed_empty (fun _ _ => keyed_apply)
      allCounted_empty (fun _ _ => allCounted_apply_iff) h).mpr
      (fun x hx => (hc x hx).2) _ self_mem_points
    exact nullUse_iff_asksUnstored hlinked hcounted a

theorem next_after_accept : ∃ tr st, ServerRun noTables () tr st ∧ actions tr = [.accept 7 0] ∧
    ((∃ f, step noTables st (joinTeam 7 5 .Team_A 0) = .error f ∧ isNull f = true) ↔
      NullUse st (joinTeam 7 5 .Team_A 0)) ∧
    ((∀ x ∈ tr, Spares (lobby x.1.cache) (event noTables x.1 x.2) ∧
        StrikesOne (lobby x.1.cache) (event noTables x.1 x.2)) →
      (NullUse st (joinTeam 7 5 .Team_A 0) ↔ AsksUnstored st (joinTeam 7 5 .Team_A 0))) := by
  obtain ⟨tr, st, hrun, hact, -⟩ := exists_run noTables () [.accept 7 0] (fun _ _ => true)
    (by decide +kernel)
  exact ⟨tr, st, hrun, hact, next_uses_null_iff tr st hrun (joinTeam 7 5 .Team_A 0)⟩

/-- `JoinTeam` takes the recipients from a room that is not there. -/
theorem join_of_unknown_room_faults : ∃ tr st, ServerRun noTables () tr st ∧
    actions tr = [.accept 7 0] ∧
    ∃ f, step noTables st (joinTeam 7 5 .Team_A 0) = .error f ∧ isNull f = true := by
  obtain ⟨tr, st, hrun, hact, hnull⟩ := exists_run noTables () [.accept 7 0]
    (fun _ st => usesNull (step noTables st (joinTeam 7 5 .Team_A 0))) (by decide +kernel)
  exact ⟨tr, st, hrun, hact, (fails_iff _).mp hnull⟩

end Run

end JiraGame.NullSafety
