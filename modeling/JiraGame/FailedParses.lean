import JiraGame.Delivery
import JiraGame.LeavePaths

namespace JiraGame.FailedParses

open JiraGame.Scene JiraGame.Command JiraGame.DBServer JiraGame.Cache JiraGame.HallScene
open JiraGame.MainScene JiraGame.AccountScenes JiraGame.ServerState JiraGame.KeepAlive
open JiraGame.Server JiraGame.RoomTable JiraGame.ProcessFrame
open JiraGame.Refinement JiraGame.RoomChanges JiraGame.RoomRecord JiraGame.SentPackets
open JiraGame.SeatElimination JiraGame.JoinOutcomes JiraGame.LeavePaths JiraGame.Runs
open JiraGame.Encoding JiraGame.Delivery JiraGame.Lib.History JiraGame.Lib.ProtoWire JiraGame.Lib.Fails
open JiraGame.AccountStatements hiding text

/-- A generated class that also tells whether a parse succeeded. What a failed
parse leaves behind may be any message. -/
structure Parser extends Codec where
  succeeds : Bytes → Bool

/-- A handler completes, sends nothing and leaves rooms and entities alone. -/
def Quiet (c : CCache) (x : Except Fault (CCache × Outbox)) : Prop :=
  ∃ c', x = .ok (c', []) ∧ SameCache c' c

/-- A hall request that passes the check of the session and has no effect. -/
def HallHarmless (req : HallRequest) (e : CClientEntity) (c : CCache) : Prop :=
  match req.msgtype with
  | .HST_CreateRoom => req.roomname.length ≤ 0 ∨ e.roleInfo.roomid ≠ 0
  | .HST_RequestTeam => c.GetEntitySocket req.inviteinfo.revuserid = 0
  | .HST_JoinRoom => ∀ r, c.FindEntityRoom req.inviteinfo.roomid = some r →
      (∀ p ∈ r.playerinfo, p.roleid ≠ e.roleInfo.roleid) ∧ ∀ q ∈ grid, q ∈ r.playerinfo.map place
  | .HST_GameStart => ∃ r, c.FindEntityRoom e.roleInfo.roomid = some r ∧ r.playerinfo = []
  | .HST_OnlineFriend | .HST_JoinTeam | .HST_GetRoomList | .HST_LeaveRoom | .HST_GameWaite => False
  | _ => True

def MainHarmless (req : GameMainRequest) (e : CClientEntity) (c : CCache) : Prop :=
  match req.msgtype with
  | .GMT_RsyncAttr | .GMT_RsyncStatus => ∀ r, c.FindEntityRoom e.roleInfo.roomid = some r →
      r.playerinfo = [] ∧ resync req.playerinfo e.roleInfo = e.roleInfo
  | .GMT_GameOver => c.FindEntityRoom e.roleInfo.roomid = none
  | _ => True

variable {DB : Type}

/-- A heartbeat of a client that already has its timer and has just answered, and
whose report is the one that is stored. -/
def BeatHarmless (s : SOCKET) (m : UnPacket) (e : CClientEntity) (st : Process DB) : Prop :=
  e.m_HasThread = true ∧ e.m_iSendMsgCount = 0 ∧ e.isBroken = false ∧
    (m.keepalive.curscene = .CS_WaitRoom ∨ m.keepalive.curscene = .CS_MainScene →
      ∀ ptr, st.keepAliveInfoMap[s]? = some ptr →
        ∃ info, st.infos[ptr]? = some info ∧ info.RecMessage = m)

/-- The messages of the client on `s` that have no effect in a state. -/
def Harmless (s : SOCKET) (m : UnPacket) (e : CClientEntity) (st : Process DB) : Prop :=
  match m.curscene with
  | .CS_KeepAlive => BeatHarmless s m e st
  | .CS_Login | .CS_CreateRole => False
  | .CS_Register => s = 0
  | .CS_SelectRole => e.SessionID ≠ m.selectrolerequest.sessionid
  | .CS_WaitRoom => e.SessionID = m.hallrequest.sessionid → HallHarmless m.hallrequest e st.cache
  | .CS_MainScene =>
    e.SessionID = m.gamemainrequest.sessionid → MainHarmless m.gamemainrequest e st.cache
  | _ => True

structure SameProcess (st' st : Process DB) : Prop where
  cache : SameCache st'.cache st.cache
  keepAliveInfoMap : ∀ t : SOCKET, st'.keepAliveInfoMap[t]? = st.keepAliveInfoMap[t]?
  infos : ∀ ptr : Nat, st'.infos[ptr]? = st.infos[ptr]?
  db : st'.db = st.db

/-- Bytes that are handled without an effect and without an answer. -/
def Untouched (pb : Codec) (sqlite : Sqlite DB) (s : SOCKET) (revBuffer : Bytes) (rand : List Nat)
    (st : Process DB) : Prop :=
  ∃ st', MsgDistribute pb sqlite s revBuffer rand st = .ok (st', []) ∧ SameProcess st' st

section Quiet

variable {c c' : CCache} {out : Outbox} {s : SOCKET} {req : HallRequest} {e : CClientEntity}
  {rand : List Nat}

@[simp] theorem sameCache_self (c : CCache) : SameCache c c := ⟨fun _ => rfl, fun _ => rfl⟩

@[simp] theorem quiet_ok : Quiet c (.ok (c', out)) ↔ out = [] ∧ SameCache c' c := by
  refine ⟨?_, ?_⟩
  · rintro ⟨d, hd, hsame⟩
    cases hd
    exact ⟨rfl, hsame⟩
  · rintro ⟨rfl, hsame⟩
    exact ⟨c', rfl, hsame⟩

@[simp] theorem quiet_error (f : Fault) : ¬Quiet c (.error f) := by
  rintro ⟨d, hd, -⟩
  cases hd

theorem quiet_self (c : CCache) : Quiet c (.ok (c, [])) := quiet_ok.mpr ⟨rfl, sameCache_self c⟩

theorem guarded_quiet {sid : String} {x : Except Fault (CCache × Outbox)}
    (he : c.GetEntity s = some e) :
    Quiet c (if c.CheckSessionValid s sid then x else .ok (c, [])) ↔
      (e.SessionID = sid → Quiet c x) := by
  by_cases hs : e.SessionID = sid
  · rw [if_pos ((CheckSessionValid_iff he _).mpr hs)]
    exact ⟨fun h _ => h, fun h => h hs⟩
  · rw [if_neg (by rw [CheckSessionValid_iff he]; exact hs)]
    exact iff_of_true (quiet_self c) fun h => absurd h hs

theorem sameCache_writeEntity (he : c.GetEntity s = some e) (e' : CClientEntity) :
    SameCache (c.writeEntity s e') c ↔ e' = e := by
  have hget : ∀ t, (c.writeEntity s e').GetEntity t = if t = s then some e' else c.GetEntity t := by
    intro t
    by_cases ht : t = s
    · simp [CCache.writeEntity, CCache.GetEntity, ht]
    · simp [CCache.writeEntity, CCache.GetEntity, Std.TreeMap.getElem?_insert, ht, Ne.symm ht]
  refine ⟨?_, ?_⟩
  · rintro ⟨-, hentity⟩
    have hs := hentity s
    rw [hget, if_pos rfl, he, Option.some_inj] at hs
    exact hs
  · rintro rfl
    refine ⟨fun _ => rfl, ?_⟩
    intro t
    rw [hget]
    split
    · rename_i ht
      rw [ht, he]
    · rfl

theorem sameCache_writeRoleInfo (he : c.GetEntity s = some e) (f : PlayerInfo → PlayerInfo) :
    SameCache (c.writeRoleInfo s f) c ↔ f e.roleInfo = e.roleInfo := by
  rw [CCache.writeRoleInfo, he, sameCache_writeEntity he]
  refine ⟨fun h => congrArg (·.roleInfo) h, ?_⟩
  intro h
  rw [h]

end Quiet

section Hall

variable {c : CCache} {s : SOCKET} {req : HallRequest} {e : CClientEntity} {rand : List Nat}

theorem CreateRoom_quiet (he : c.GetEntity s = some e) :
    Quiet c (CreateRoom s req rand c) ↔ req.roomname.length ≤ 0 ∨ e.roleInfo.roomid ≠ 0 := by
  rw [CreateRoom, he]
  by_cases hname : req.roomname.length ≤ 0
  · simp [hname]
  · by_cases hroom : e.roleInfo.roomid = 0
    · cases GenrateOnlyRoomID c rand <;> simp [hname, hroom]
    · simp [hname, hroom]

theorem OnlineFriend_quiet : ¬Quiet c (OnlineFriend s req c) := by
  simp [OnlineFriend]

theorem RequestTeam_quiet (he : c.GetEntity s = some e) :
    Quiet c (RequestTeam s req c) ↔ c.GetEntitySocket req.inviteinfo.revuserid = 0 := by
  simp [RequestTeam, he]

theorem JoinTeam_quiet : ¬Quiet c (JoinTeam s req c) := by
  rw [JoinTeam]
  cases hr : c.FindEntityRoom req.inviteinfo.roomid with
  | none => simp
  | some r =>
    dsimp only
    split
    · split <;> simp
    · simp

theorem GetRoomList_quiet : ¬Quiet c (GetRoomList s c) := by
  rintro ⟨c', h, -⟩
  obtain ⟨rooms, -, h⟩ := of_bind_ok h
  cases h

theorem LeaveRoom_quiet : ¬Quiet c (HallScene.LeaveRoom s c) := by
  rintro ⟨c', h, -⟩
  obtain ⟨x, -, h⟩ := of_bind_ok h
  cases h

theorem GameWaite_quiet : ¬Quiet c (GameWaite s c) := by
  rintro ⟨c', h, hsame⟩
  obtain ⟨e, r, he, -, rfl⟩ := GameWaite_spec h
  rw [sameCache_writeRoleInfo he] at hsame
  have hflag := congrArg PlayerInfo.gamewaite hsame
  simp [PlayerInfo.set_gamewaite, PlayerInfo.gamewaite] at hflag

theorem GameStart_quiet (he : c.GetEntity s = some e) : Quiet c (GameStart s c) ↔
    ∃ r, c.FindEntityRoom e.roleInfo.roomid = some r ∧ r.playerinfo = [] := by
  refine ⟨?_, ?_⟩
  · rintro ⟨c', h, -⟩
    obtain ⟨e', r, all, he', hr, -, -, hout⟩ := GameStart_spec h
    rw [he, Option.some_inj] at he'
    rw [he']
    exact ⟨r, hr, List.map_eq_nil_iff.mp hout.symm⟩
  · rintro ⟨r, hr, hnil⟩
    refine ⟨c, ?_, sameCache_self c⟩
    simp only [GameStart, he, hr, hnil]
    rfl

theorem leave_changes {l : Lobby} {p : PlayerInfo} {k : Int} {r : RoomInfo} {via : LeavePath}
    (hk : Keyed l) (hp : l.role s = some p) (hr : l.room k = some r) :
    (l.apply (.leave s k via)).room k ≠ some r := by
  intro h
  by_cases hlast : lastLeaves r = true
  · simp [Lobby.apply, hp, hr, hlast, leaveKey_eq hk hr] at h
  · rw [room_leave hk hp hr hlast, Option.some_inj] at h
    have hfree : r.freepersoncount + 1 = r.freepersoncount := congrArg RoomInfo.freepersoncount h
    omega

theorem JoinRoom_quiet (hkeyed : Keyed (lobby c)) (he : c.GetEntity s = some e) :
    Quiet c (JoinRoom s req c) ↔ ∀ r, c.FindEntityRoom req.inviteinfo.roomid = some r →
      (∀ p ∈ r.playerinfo, p.roleid ≠ e.roleInfo.roleid) ∧
        ∀ q ∈ grid, q ∈ r.playerinfo.map place := by
  cases hr : c.FindEntityRoom req.inviteinfo.roomid with
  | none => simp [JoinRoom_unknown hr]
  | some r =>
    simp only [Option.some.injEq, forall_eq']
    by_cases hnew : ∀ p ∈ r.playerinfo, p.roleid ≠ e.roleInfo.roleid
    · by_cases hfull : ∀ q ∈ grid, q ∈ r.playerinfo.map place
      · rw [JoinRoom_turns hr he hnew hfull]
        exact iff_of_true (quiet_self c) ⟨hnew, hfull⟩
      · refine iff_of_false ?_ fun h => hfull h.2
        push Not at hfull
        obtain ⟨c', out, hjoin, hjoined⟩ := JoinRoom_joins hr (hkeyed _ r hr) he hnew hfull
        rw [hjoin, quiet_ok]
        rintro ⟨-, hrooms, -⟩
        exact hjoined.room_ne (hrooms _)
    · refine iff_of_false ?_ fun h => hnew h.1
      push Not at hnew
      obtain ⟨c', out, hjoin, hlobby⟩ := JoinRoom_member he hr hnew
      rw [hjoin, quiet_ok]
      rintro ⟨-, hrooms, -⟩
      have hroom := hrooms req.inviteinfo.roomid
      rw [← room_lobby, hlobby, hr] at hroom
      exact leave_changes hkeyed (role_of_entity c he) hr hroom

theorem hallLogic_quiet (hkeyed : Keyed (lobby c)) (he : c.GetEntity s = some e) :
    Quiet c (hallLogic s req rand c) ↔
      (e.SessionID = req.sessionid → HallHarmless req e c) := by
  rw [hallLogic, guarded_quiet he, HallHarmless]
  apply imp_congr_right
  intro _
  cases req.msgtype
  case HST_CreateRoom => exact CreateRoom_quiet he
  case HST_OnlineFriend => exact iff_of_false OnlineFriend_quiet id
  case HST_RequestTeam => exact RequestTeam_quiet he
  case HST_JoinTeam => exact iff_of_false JoinTeam_quiet id
  case HST_JoinRoom => exact JoinRoom_quiet hkeyed he
  case HST_GetRoomList => exact iff_of_false GetRoomList_quiet id
  case HST_LeaveRoom => exact iff_of_false LeaveRoom_quiet id
  case HST_GameWaite => exact iff_of_false GameWaite_quiet id
  case HST_GameStart => exact GameStart_quiet he
  all_goals exact iff_of_true (quiet_self c) trivial

end Hall

section Game

variable {c : CCache} {s : SOCKET} {req : GameMainRequest} {e : CClientEntity}

theorem rsync_quiet (msgtype : GameMainMsgType) (he : c.GetEntity s = some e) :
    Quiet c (rsync msgtype s req c) ↔ ∀ r, c.FindEntityRoom e.roleInfo.roomid = some r →
      r.playerinfo = [] ∧ resync req.playerinfo e.roleInfo = e.roleInfo := by
  simp only [rsync, he]
  cases hr : c.FindEntityRoom e.roleInfo.roomid with
  | none => simp
  | some r => simp [sameCache_writeRoleInfo he]

theorem sameCache_removeRoom {k : Int} (hr : c.FindEntityRoom k = none) :
    SameCache (c.EntityRoomRemoveMember k) c := by
  refine ⟨?_, fun _ => rfl⟩
  intro j
  rw [← room_lobby, lobby_removeRoom, Lobby.room_setRoom]
  split
  · rename_i hj
    rw [hj, hr]
  · rfl

theorem GameOver_quiet (he : c.GetEntity s = some e) :
    Quiet c (GameOver s c) ↔ c.FindEntityRoom e.roleInfo.roomid = none := by
  refine ⟨?_, ?_⟩
  · rintro ⟨c', h, hrooms, -⟩
    have hroom := hrooms e.roleInfo.roomid
    rw [← room_lobby, (GameOver_refines he h).2] at hroom
    cases hr : c.FindEntityRoom e.roleInfo.roomid with
    | none => rfl
    | some r => simp [Lobby.apply, room_lobby, hr] at hroom
  · intro hr
    refine ⟨_, ?_, sameCache_removeRoom hr⟩
    simp only [GameOver, he, hr]

theorem MainLogic_quiet (he : c.GetEntity s = some e) : Quiet c (MainLogic s req c) ↔
    (e.SessionID = req.sessionid → MainHarmless req e c) := by
  rw [MainLogic, guarded_quiet he, MainHarmless]
  apply imp_congr_right
  intro _
  cases req.msgtype
  case GMT_RsyncAttr => exact rsync_quiet _ he
  case GMT_RsyncStatus => exact rsync_quiet _ he
  case GMT_GameOver => exact GameOver_quiet he
  all_goals exact iff_of_true (quiet_self c) trivial

end Game

section Account

variable {sqlite : Sqlite DB} {db db' : DB} {c c' : CCache} {out : Outbox} {s : SOCKET}

theorem LoginLogic_answers {req : LoginRequest} {rand : List Nat}
    (h : LoginLogic sqlite s req rand db c = .ok (db', c', out)) : out ≠ [] := by
  rw [LoginLogic_eq] at h
  dsimp only at h
  split at h
  · cases h
    exact List.cons_ne_nil _ _
  · split at h
    · cases h
    · cases h
      exact List.cons_ne_nil _ _

theorem RegisterLogic_answers {req : RegisterRequest}
    (h : RegisterLogic sqlite s req db c = .ok (db', c', out)) : out ≠ [] := by
  rw [RegisterLogic_eq] at h
  dsimp only at h
  split at h <;> cases h <;> exact List.cons_ne_nil _ _

theorem CreateLogic_answers {req : CreateRoleRequest}
    (h : CreateLogic sqlite s req db c = .ok (db', c', out)) : out ≠ [] := by
  rw [CreateLogic_eq] at h
  dsimp only at h
  repeat' split at h
  all_goals cases h
  all_goals exact List.cons_ne_nil _ _

theorem SelectLogic_answers {req : SelectRoleRequest}
    (hs : c.CheckSessionValid s req.sessionid = true)
    (h : SelectLogic sqlite s req db c = .ok (db', c', out)) : out ≠ [] := by
  rw [SelectLogic_eq, if_pos hs] at h
  dsimp only at h
  split at h
  · cases h
    exact List.cons_ne_nil _ _
  · split at h <;> cases h
    exact List.cons_ne_nil _ _

end Account

section Beats

variable {st : Process DB} {s : SOCKET} {m : UnPacket} {e : CClientEntity}

@[simp] theorem sameProcess_self (st : Process DB) : SameProcess st st :=
  ⟨sameCache_self _, fun _ => rfl, fun _ => rfl, rfl⟩

theorem storeMessage_same :
    (∃ st', storeMessage s m st = .ok st' ∧ SameProcess st' st) ↔
      ∀ ptr, st.keepAliveInfoMap[s]? = some ptr →
        ∃ info, st.infos[ptr]? = some info ∧ info.RecMessage = m := by
  rw [storeMessage]
  cases hp : st.keepAliveInfoMap[s]? with
  | none => simp
  | some ptr =>
    simp only [Option.some.injEq, forall_eq']
    cases hi : st.infos[ptr]? with
    | none => simp
    | some info =>
      simp only [Except.ok.injEq, exists_eq_left', Option.some.injEq]
      refine ⟨?_, ?_⟩
      · intro h
        have hptr := h.infos ptr
        rw [Std.TreeMap.getElem?_insert_self, hi, Option.some_inj] at hptr
        exact (congrArg CKeepAliveInfo.RecMessage hptr).symm
      · rintro rfl
        refine ⟨sameCache_self _, fun _ => rfl, ?_, rfl⟩
        intro q
        rw [Std.TreeMap.getElem?_insert]
        split
        · rename_i hq
          rw [← Nat.compare_eq_eq.mp hq, hi]
        · rfl

theorem storeReport_same :
    (∃ st', storeReport s m st = .ok st' ∧ SameProcess st' st) ↔
      (m.keepalive.curscene = .CS_WaitRoom ∨ m.keepalive.curscene = .CS_MainScene →
        ∀ ptr, st.keepAliveInfoMap[s]? = some ptr →
          ∃ info, st.infos[ptr]? = some info ∧ info.RecMessage = m) := by
  rw [storeReport]
  by_cases hwait : m.keepalive.curscene = .CS_WaitRoom
  · rw [if_pos hwait, storeMessage_same]
    simp [hwait]
  · by_cases hmain : m.keepalive.curscene = .CS_MainScene
    · rw [if_neg hwait, if_pos hmain, storeMessage_same]
      simp [hmain]
    · simp [hwait, hmain]

theorem Start_quiet (he : st.cache.GetEntity s = some e) :
    (∃ st', Start s m st = .ok (st', []) ∧ SameProcess st' st) ↔ BeatHarmless s m e st := by
  rw [BeatHarmless, ← storeReport_same]
  simp only [Start, he]
  refine ⟨?_, ?_⟩
  · rintro ⟨st', h, hsame⟩
    obtain ⟨st₁, hst, h⟩ := of_bind_ok h
    obtain ⟨infos, rfl⟩ := storeReport_frame hst
    dsimp only at h
    by_cases hthread : e.m_HasThread = true
    · rw [if_pos hthread] at h
      cases h
      have hentity := (sameCache_writeEntity he _).mp hsame.cache
      refine ⟨hthread, ?_, ?_, _, hst, ?_⟩
      · exact (congrArg CClientEntity.m_iSendMsgCount hentity).symm
      · exact (congrArg CClientEntity.isBroken hentity).symm
      · exact ⟨sameCache_self _, hsame.keepAliveInfoMap, hsame.infos, rfl⟩
    · -- the entity that starts its timer is not the one that was stored
      rw [if_neg hthread] at h
      cases h
      have hentity := (sameCache_writeEntity he _).mp hsame.cache
      exact absurd (congrArg CClientEntity.m_HasThread hentity).symm hthread
  · rintro ⟨hthread, hcount, hbroken, st₁, hst, hsame⟩
    obtain ⟨infos, rfl⟩ := storeReport_frame hst
    rw [hst]
    have hentity : { e with m_iSendMsgCount := 0, isBroken := false } = e := by
      rw [← hcount, ← hbroken]
    refine ⟨_, if_pos hthread, (sameCache_writeEntity he _).mpr hentity, ?_, hsame.infos, rfl⟩
    exact fun _ => rfl

end Beats

section Distribute

variable {sqlite : Sqlite DB} {pb : Codec} {st : Process DB} {s : SOCKET} {e : CClientEntity}
  {revBuffer : Bytes} {rand : List Nat}

theorem quiet_process (x : Except Fault (CCache × Outbox)) :
    (∃ st', (do let (c, out) ← x; .ok ({ st with cache := c }, out) : Except Fault _) =
        .ok (st', []) ∧ SameProcess st' st) ↔ Quiet st.cache x := by
  refine ⟨?_, ?_⟩
  · rintro ⟨st', h, hsame⟩
    obtain ⟨⟨c, out⟩, rfl, h⟩ := of_bind_ok h
    cases h
    exact ⟨c, rfl, hsame.cache⟩
  · rintro ⟨c, rfl, hsame⟩
    exact ⟨_, rfl, hsame, fun _ => rfl, fun _ => rfl, rfl⟩

theorem answers_process {x : Except Fault (DB × CCache × Outbox)}
    (hx : ∀ db c out, x = .ok (db, c, out) → out ≠ []) :
    ¬∃ st', (do let (db, c, out) ← x; .ok ({ st with db := db, cache := c }, out) :
        Except Fault _) = .ok (st', []) ∧ SameProcess st' st := by
  rintro ⟨st', h, -⟩
  obtain ⟨⟨db, c, out⟩, hok, h⟩ := of_bind_ok h
  cases h
  exact hx db c [] hok rfl

theorem untouched_iff (hkeyed : Keyed (lobby st.cache)) (he : st.cache.GetEntity s = some e) :
    Untouched pb sqlite s revBuffer rand st ↔ Harmless s (pb.ParseFromArray revBuffer) e st := by
  rw [Untouched, MsgDistribute, ProcessMsgLogic, Harmless]
  generalize pb.ParseFromArray revBuffer = m
  cases m.curscene
  case CS_KeepAlive => exact Start_quiet he
  case CS_Login => exact iff_of_false (answers_process fun _ _ _ => LoginLogic_answers) id
  case CS_CreateRole => exact iff_of_false (answers_process fun _ _ _ => CreateLogic_answers) id
  case CS_Register =>
    dsimp only
    by_cases hs : s = 0
    · rw [if_pos hs]
      exact iff_of_true ⟨st, rfl, sameProcess_self st⟩ hs
    · rw [if_neg hs]
      exact iff_of_false (answers_process fun _ _ _ => RegisterLogic_answers) hs
  case CS_SelectRole =>
    dsimp only
    by_cases hs : e.SessionID = m.selectrolerequest.sessionid
    · refine iff_of_false (answers_process fun _ _ _ => SelectLogic_answers ?_) (not_not.mpr hs)
      exact (CheckSessionValid_iff he _).mpr hs
    · refine iff_of_true ?_ hs
      rw [SelectLogic_eq, if_neg (by rw [CheckSessionValid_iff he]; exact hs)]
      exact ⟨_, rfl, sameProcess_self st⟩
  case CS_WaitRoom => exact (quiet_process _).trans (hallLogic_quiet hkeyed he)
  case CS_MainScene => exact (quiet_process _).trans (MainLogic_quiet he)
  all_goals exact iff_of_true ⟨st, rfl, sameProcess_self st⟩ trivial

end Distribute

section Runs

variable {DB : Type} {sqlite : Sqlite DB} {db : DB}

/-- Bytes that are not a message are handled without an effect exactly if what is
left of them is a message without one: nobody asks whether the parse failed. -/
theorem failed_parse_untouched (pb : Parser) (tr : List (Process DB × Action)) (st : Process DB)
    (s : SOCKET) (revBuffer : Bytes) (rand : List Nat) (e : CClientEntity)
    (h : ServerRun sqlite db tr st) (he : st.cache.GetEntity s = some e)
    (_hfail : pb.succeeds revBuffer = false) :
    Untouched pb.toCodec sqlite s revBuffer rand st ↔
      Harmless s (pb.ParseFromArray revBuffer) e st :=
  untouched_iff (keyed_headed h).1 he

/-- The wire format, with the checks that the buffers below do not pass. -/
def wireParser : Parser where
  toCodec := wire
  succeeds bs := (readFields bs).2 && unPacket.ready (unPacket.parse bs)

def cutHallRequest : Bytes := [8, 5, 90]

def sceneless : Bytes := [8, 7, 122, 0]

theorem accepted_run : ∃ tr st e, ServerRun noTables () tr st ∧ actions tr = [.accept 5 0] ∧
    st.cache.GetEntity 5 = some e ∧ e.m_HasThread = false := by
  obtain ⟨tr, st, hrun, hact, hp⟩ := exists_run noTables () [.accept 5 0]
    (fun _ st => (st.cache.GetEntity 5).any fun e : CClientEntity => e.m_HasThread = false)
    (by decide +kernel)
  obtain ⟨e, he, hthread⟩ := (Option.any_eq_true _ _).mp hp
  exact ⟨tr, st, e, hrun, hact, he, of_decide_eq_true hthread⟩

theorem cut_request_untouched : ∃ tr st, ServerRun noTables () tr st ∧
    actions tr = [.accept 5 0] ∧ wireParser.succeeds cutHallRequest = false ∧
    (wireParser.ParseFromArray cutHallRequest).curscene = .CS_WaitRoom ∧
    Untouched wireParser.toCodec noTables 5 cutHallRequest [] st := by
  obtain ⟨tr, st, e, hrun, hact, he, -⟩ := accepted_run
  have hfail : wireParser.succeeds cutHallRequest = false := by decide +kernel
  have hparse : wireParser.ParseFromArray cutHallRequest = { curscene? := some .CS_WaitRoom } := by
    decide +kernel
  refine ⟨tr, st, hrun, hact, hfail, by rw [hparse]; rfl,
    (failed_parse_untouched wireParser tr st 5 cutHallRequest [] e hrun he hfail).mpr ?_⟩
  rw [hparse]
  exact fun _ => trivial

/-- The heartbeat that cannot be parsed starts the timer of its client. -/
theorem sceneless_starts_timer : ∃ tr st, ServerRun noTables () tr st ∧
    actions tr = [.accept 5 0] ∧ wireParser.succeeds sceneless = false ∧
    ¬Untouched wireParser.toCodec noTables 5 sceneless [] st := by
  obtain ⟨tr, st, e, hrun, hact, he, hthread⟩ := accepted_run
  have hparse : (wireParser.ParseFromArray sceneless).curscene = .CS_KeepAlive := by decide +kernel
  refine ⟨tr, st, hrun, hact, by decide +kernel, ?_⟩
  rw [untouched_iff (keyed_headed hrun).1 he, Harmless, hparse]
  rintro ⟨hbeat, -⟩
  rw [hthread] at hbeat
  cases hbeat

end Runs

end JiraGame.FailedParses
