import JiraGame.AccountRefinement
import JiraGame.NullSafety
import JiraGame.Wiring

namespace JiraGame.Crashes

open JiraGame.Scene JiraGame.Command JiraGame.DBServer JiraGame.Cache JiraGame.HallScene
open JiraGame.MainScene JiraGame.AccountScenes JiraGame.ServerState JiraGame.KeepAlive
open JiraGame.Server JiraGame.SeatGrid JiraGame.Refinement JiraGame.NullSafety JiraGame.Heartbeats
open JiraGame.Wiring JiraGame.Runs JiraGame.AccountTables JiraGame.AccountStore
open JiraGame.RelationalSqlite JiraGame.AccountReplies JiraGame.AccountRefinement
open JiraGame.Lib.History JiraGame.Lib.Fails JiraGame.Lib.SqlMeaning
open JiraGame.AccountStatements hiding text

/-- The faults that are no use of NULL. `unfinished` is not one of the program: the
action did not come with enough random numbers. -/
def isStray : Fault → Bool
  | .danglingInfo | .nullText | .outOfBounds => true
  | _ => false

def strays {α : Type} (x : Except Fault α) : Bool := fails isStray x

theorem not_unfinished (f : Fault) : f ≠ .unfinished ↔ isNull f = true ∨ isStray f = true := by
  cases f <;> simp [isNull, isStray]

@[simp] theorem strays_ok {α : Type} (a : α) : strays (.ok a) = false := rfl

@[simp] theorem strays_map {α β : Type} (g : α → β) (x : Except Fault α) :
    strays (x.map g) = strays x := fails_map g x

def isDangling : Fault → Bool
  | .danglingInfo => true
  | _ => false

def dangles {α : Type} (x : Except Fault α) : Bool := fails isDangling x

theorem dangles_iff {α : Type} (x : Except Fault α) :
    dangles x = true ↔ x = .error .danglingInfo := by
  cases x with
  | ok a => simp [dangles]
  | error f => cases f <;> simp [dangles, isDangling]

theorem isStray_of_isDangling (f : Fault) (h : isDangling f = true) : isStray f = true := by
  cases f <;> first | rfl | cases h

section Hall

variable {c : CCache} {s : SOCKET} {req : HallRequest} {rand : List Nat}

theorem CreateRoom_strays : strays (CreateRoom s req rand c) = false := by
  rw [CreateRoom]
  split
  · rfl
  · split
    · rfl
    · split
      · rfl
      · split <;> rfl

theorem JoinTeam_strays : strays (JoinTeam s req c) = false := by
  unfold JoinTeam
  dsimp only
  split
  · rfl
  · split
    · split <;> rfl
    · rfl

theorem JoinRoom_strays : strays (JoinRoom s req c) = false := by
  unfold JoinRoom
  dsimp only
  split
  · rfl
  · rename_i r _
    rw [SeatGrid.IdleTeam_ID_eq]
    cases c.GetEntity s with
    | none => rfl
    | some e =>
      dsimp only
      split
      · rfl
      · split
        · rfl
        · rename_i first more hidle
          exact absurd hidle (idleSeats_cons_ne _ _ _)
        · rfl

theorem GetRoomList_strays : strays (GetRoomList s c) = false := by
  rw [GetRoomList]
  refine fails_bind_false (fails_mapM_false (fun x => ?_) _) fun _ => rfl
  split <;> rfl

theorem leaveOwnRoom_strays : strays (leaveOwnRoom s c) = false := by
  rw [leaveOwnRoom]
  split
  · rfl
  · dsimp only
    split
    · rfl
    · split
      · rfl
      · split
        · rfl
        · split <;> rfl

theorem GameWaite_strays : strays (GameWaite s c) = false := by
  rw [GameWaite]
  split
  · rfl
  · dsimp only
    split <;> rfl

theorem allPlayerWaite_strays (roleid : Int) (ps : List PlayerInfo) :
    strays (allPlayerWaite c roleid ps) = false := by
  induction ps with
  | nil => rfl
  | cons p ps ih =>
    rw [allPlayerWaite]
    split
    · exact ih
    · split
      · rfl
      · split
        · exact ih
        · rfl

theorem GameStart_strays : strays (GameStart s c) = false := by
  rw [GameStart]
  split
  · rfl
  · split
    · rfl
    · exact fails_bind_false (allPlayerWaite_strays _ _) fun _ => rfl

theorem hallLogic_strays : strays (hallLogic s req rand c) = false := by
  rw [hallLogic]
  split
  · cases req.msgtype <;> dsimp only
    case HST_CreateRoom => exact CreateRoom_strays
    case HST_JoinTeam => exact JoinTeam_strays
    case HST_JoinRoom => exact JoinRoom_strays
    case HST_GetRoomList => exact GetRoomList_strays
    case HST_LeaveRoom => exact fails_bind_false leaveOwnRoom_strays fun _ => rfl
    case HST_GameWaite => exact GameWaite_strays
    case HST_GameStart => exact GameStart_strays
    case HST_RequestTeam =>
      rw [RequestTeam]
      dsimp only
      split <;> rfl
    all_goals rfl
  · rfl

end Hall

section Main

variable {c : CCache} {s : SOCKET} {req : GameMainRequest}

theorem clearMembers_strays (ps : List PlayerInfo) : ∀ c : CCache,
    strays (clearMembers ps c) = false := by
  induction ps with
  | nil => exact fun _ => rfl
  | cons p ps ih =>
    intro c
    rw [clearMembers]
    split
    · rfl
    · exact ih _

theorem MainLogic_strays : strays (MainLogic s req c) = false := by
  have hsync : ∀ msgtype, strays (rsync msgtype s req c) = false := by
    intro msgtype
    rw [rsync]
    split
    · rfl
    · split <;> rfl
  rw [MainLogic]
  split
  · split
    · exact hsync _
    · exact hsync _
    · rw [GameOver]
      split
      · rfl
      · dsimp only
        split
        · rfl
        · exact fails_bind_false (clearMembers_strays _ _) fun _ => rfl
    · rfl
  · rfl

end Main

section Accounts

variable {DB : Type} {sqlite : Sqlite DB} {view : DB → Tables} {σ : Store} {st : Process DB}
  {s : SOCKET} {m : UnPacket} {rand : List Nat}

theorem account_strays (hrel : Relational sqlite view) (hv : view st.db = σ.tables)
    (hs : Sound σ) (he : (st.cache.GetEntity s).isSome = true)
    (hm : m.curscene = .CS_Login ∨ m.curscene = .CS_CreateRole ∨ m.curscene = .CS_Register ∨
      m.curscene = .CS_SelectRole) : strays (ProcessMsgLogic sqlite s m rand st) = false := by
  cases hreq : request s m rand with
  | some req =>
    obtain ⟨x, hx, -⟩ := ProcessMsgLogic_outcome hrel hv hs he hreq
    rw [hx]
    rfl
  | none =>
    rw [request] at hreq
    rw [ProcessMsgLogic]
    obtain hm | hm | hm | hm := hm <;> simp only [hm] at hreq ⊢
    · have hsid : sessionOf m.loginrequest.username rand = none := by
        rw [sessionOf_eq, Option.map_eq_none_iff.mp hreq]
        rfl
      refine fails_bind_false ?_ fun _ => rfl
      rw [LoginLogic_eq]
      simp only [hsid]
      split <;> rfl
    · cases hreq
    · split at hreq
      · rename_i hs0
        rw [if_pos hs0]
        rfl
      · cases hreq
    · cases hreq

theorem run_dangles (db : DB) (sql : Option Sql) : dangles (run sqlite db sql) = false := by
  cases sql <;> rfl

theorem LoginLogic_dangles (req : LoginRequest) (db : DB) (c : CCache) :
    dangles (LoginLogic sqlite s req rand db c) = false := by
  rw [LoginLogic]
  refine fails_bind_false (run_dangles _ _) fun x => ?_
  dsimp only
  split
  · rfl
  · split
    · rfl
    · exact fails_bind_false (run_dangles _ _) fun _ => rfl

theorem RegisterLogic_dangles (req : RegisterRequest) (db : DB) (c : CCache) :
    dangles (RegisterLogic sqlite s req db c) = false := by
  rw [RegisterLogic]
  refine fails_bind_false (run_dangles _ _) fun x => ?_
  dsimp only
  split
  · exact fails_bind_false (run_dangles _ _) fun _ => rfl
  · rfl

theorem CreateLogic_dangles (req : CreateRoleRequest) (db : DB) (c : CCache) :
    dangles (CreateLogic sqlite s req db c) = false := by
  rw [CreateLogic]
  split
  · refine fails_bind_false (run_dangles _ _) fun x => ?_
    dsimp only
    split
    · rfl
    · split
      · rfl
      · split
        · rfl
        · split
          · rfl
          · refine fails_bind_false (run_dangles _ _) fun y => ?_
            split <;> rfl
  · rfl

theorem SelectLogic_dangles (req : SelectRoleRequest) (db : DB) (c : CCache) :
    dangles (SelectLogic sqlite s req db c) = false := by
  rw [SelectLogic]
  split
  · dsimp only
    split
    · rfl
    · split <;> rfl
  · rfl

theorem account_dangles (hm : m.curscene = .CS_Login ∨ m.curscene = .CS_CreateRole ∨
    m.curscene = .CS_Register ∨ m.curscene = .CS_SelectRole) :
    dangles (ProcessMsgLogic sqlite s m rand st) = false := by
  rw [ProcessMsgLogic]
  obtain hm | hm | hm | hm := hm <;> simp only [hm]
  · exact fails_bind_false (LoginLogic_dangles _ _ _) fun _ => rfl
  · exact fails_bind_false (CreateLogic_dangles _ _ _) fun _ => rfl
  · split
    · rfl
    · exact fails_bind_false (RegisterLogic_dangles _ _ _) fun _ => rfl
  · exact fails_bind_false (SelectLogic_dangles _ _ _) fun _ => rfl

end Accounts

section Ticks

variable {DB : Type} {c : CCache} {s : SOCKET} {e : CClientEntity} {st : Process DB}

theorem breakLine_strays : strays (breakLine s c) = false := by
  rw [breakLine]
  split
  · rfl
  · split <;> rfl

theorem countedTick_strays {scene : CurScene} : strays (countedTick s scene e c) = false := by
  rw [countedTick]
  split
  · dsimp only
    split
    · exact fails_bind_false leaveOwnRoom_strays fun _ => rfl
    · rfl
  · split
    · dsimp only
      split
      · exact fails_bind_false breakLine_strays fun _ => rfl
      · rfl
    · rfl

theorem TimerFunc_strays (ptr : Nat) :
    strays (TimerFunc (some ptr) st) = true ↔ st.infos[ptr]? = none := by
  rw [TimerFunc]
  dsimp only
  cases hi : st.infos[ptr]? with
  | none => exact iff_of_true rfl rfl
  | some info =>
    refine iff_of_false ?_ (Option.some_ne_none info)
    rw [Bool.not_eq_true]
    dsimp only
    split
    · rfl
    · split
      · rfl
      · exact fails_bind_false countedTick_strays fun _ => rfl

theorem poll_strays (j now : Nat) : strays (KeepAlive.poll j now st) = true ↔
    ∃ ptr, dueArg j now st = some ptr ∧ st.infos[ptr]? = none := by
  rw [KeepAlive.poll, dueArg]
  cases st.loops[j]? with
  | none => simp
  | some l =>
    dsimp only
    cases loopEntity l st with
    | none => simp
    | some e =>
      dsimp only
      cases l.running with
      | false => simp
      | true =>
        cases e.m_ThreadPower with
        | true => simp
        | false =>
          by_cases hd : st.preTime.getD now + e.m_iDeltaTime < now
          · simp only [hd, Bool.not_true, Bool.not_false, Bool.false_eq_true, if_false, if_true,
              Bool.and_self, decide_true]
            cases harg : e.m_pTimeFuncArg with
            | none => simp [TimerFunc, bind, Except.bind]
            | some ptr =>
              simp only [Option.some.injEq, exists_eq_left']
              rw [← TimerFunc_strays]
              exact iff_of_eq (congrArg (· = true)
                (fails_bind (p := isStray) (TimerFunc (some ptr) st) _ fun _ => rfl))
          · simp [hd]

theorem due_allocated (hw : Wired (heart st)) {j now ptr : Nat} (hd : dueArg j now st = some ptr) :
    st.infos[ptr]? ≠ none := by
  have hturn := (turn_tick_iff st j now ptr).mpr hd
  have hen := turn_enabled (heart st) j now
  rw [hturn] at hen
  obtain ⟨l, e, p, info, -, -, -, -, -, -, -, hp, -, hi, -⟩ := hw.tick hen
  cases hp
  intro hnone
  have hinfo : st.infos[ptr]? = some info := hi
  rw [hnone] at hinfo
  cases hinfo

/-- A reported scene is stored in a record that was deleted. -/
def StoresFreed (s : SOCKET) (m : UnPacket) (st : Process DB) : Prop :=
  (m.keepalive.curscene = .CS_WaitRoom ∨ m.keepalive.curscene = .CS_MainScene) ∧
    ∃ ptr : Nat, st.keepAliveInfoMap[s]? = some ptr ∧ st.infos[ptr]? = none

theorem storeMessage_strays {m : UnPacket} : strays (storeMessage s m st) = true ↔
    ∃ ptr : Nat, st.keepAliveInfoMap[s]? = some ptr ∧ st.infos[ptr]? = none := by
  rw [storeMessage]
  cases st.keepAliveInfoMap[s]? with
  | none => simp
  | some ptr =>
    dsimp only
    cases hi : st.infos[ptr]? with
    | none => exact iff_of_true rfl ⟨ptr, rfl, hi⟩
    | some info =>
      refine iff_of_false Bool.false_ne_true ?_
      rintro ⟨p, hp, hnone⟩
      cases hp
      rw [hi] at hnone
      cases hnone

theorem storeMessage_dangles {m : UnPacket} {ptr : Nat} (hp : st.keepAliveInfoMap[s]? = some ptr)
    (hi : st.infos[ptr]? = none) : storeMessage s m st = .error .danglingInfo := by
  rw [storeMessage, hp]
  dsimp only
  rw [hi]

theorem Start_strays {m : UnPacket} (he : st.cache.GetEntity s = some e) :
    strays (Start s m st) = true ↔ StoresFreed s m st := by
  have hreport : strays (Start s m st) = strays (storeReport s m st) := by
    rw [Start]
    simp only [he]
    refine fails_bind (p := isStray) _ _ fun st' => ?_
    split <;> rfl
  rw [hreport, storeReport, StoresFreed]
  split
  · rename_i hm
    rw [storeMessage_strays]
    simp [hm]
  · rename_i hm
    split
    · rename_i hm'
      rw [storeMessage_strays]
      simp [hm']
    · rename_i hm'
      simp [hm, hm']

/-- A fault of a heartbeat message that is no use of NULL is a store into a deleted
record. -/
theorem Start_fails {p : Fault → Bool} (hp : ∀ f, p f = true → isStray f = true)
    (hd : p .danglingInfo = true) {m : UnPacket} (he : st.cache.GetEntity s = some e) :
    fails p (Start s m st) = true ↔ StoresFreed s m st := by
  constructor
  · intro h
    rw [← Start_strays he]
    exact fails_mono hp h
  · rintro ⟨hscene, ptr, hptr, hi⟩
    have hstore : storeReport s m st = .error .danglingInfo := by
      rw [storeReport]
      obtain hscene | hscene := hscene <;> simp only [hscene] <;>
        exact storeMessage_dangles hptr hi
    rw [Start]
    simp only [he, hstore]
    exact hd

end Ticks

section Records

/-- The client that a callback evicts; its record is deleted. -/
def evictedBy (h : Heart) : Beat → Option SOCKET
  | .tick _ _ (some ptr) => (h.info ptr).bind fun info =>
      (h.client info.clientSocket).bind fun e =>
        if 30 ≤ e.m_iSendMsgCount then some info.clientSocket else none
  | _ => none

def startedBy (h : Heart) : Beat → Option SOCKET
  | .keepAlive s _ => (h.client s).bind fun e => if e.m_HasThread then none else some s
  | _ => none

def watchRecords (o : SOCKET → Bool) (h : Heart) (b : Beat) (s : SOCKET) : Bool :=
  if evictedBy h b = some s then true else if startedBy h b = some s then false else o s

/-- The handles whose last client with a timer was evicted. -/
def deleted {DB : Type} (tr : List (Process DB × Action)) : SOCKET → Bool :=
  felt (fun _ => false) watchRecords tr

/-- The map of the records, and those that were deleted. -/
structure Recorded (o : SOCKET → Bool) (h : Heart) : Prop where
  lt : ∀ s ptr, h.keepAliveInfo s = some ptr → ptr < h.nextAddr
  owner : ∀ s ptr info, h.keepAliveInfo s = some ptr → h.info ptr = some info →
    info.clientSocket = s
  gone : ∀ s, o s = true ↔ ∃ ptr, h.keepAliveInfo s = some ptr ∧ h.info ptr = none

variable {o : SOCKET → Bool} {h h' : Heart} {b : Beat} {s : SOCKET} {e : CClientEntity} {ptr : Nat}

theorem recorded_resting : Recorded (fun _ => false) restingHeart := by
  constructor <;> simp [restingHeart]

theorem Recorded.congr (hr : Recorded o h) (hk : h'.keepAliveInfo = h.keepAliveInfo)
    (hn : h.nextAddr ≤ h'.nextAddr)
    (hi : ∀ ptr, (h'.info ptr).map (·.clientSocket) = (h.info ptr).map (·.clientSocket)) :
    Recorded o h' where
  lt s ptr hptr := by
    rw [hk] at hptr
    exact Nat.lt_of_lt_of_le (hr.lt s ptr hptr) hn
  owner s ptr info hptr hinfo := by
    rw [hk] at hptr
    have hsome := hi ptr
    rw [hinfo] at hsome
    obtain ⟨info₀, hinfo₀, hsock⟩ := Option.map_eq_some_iff.mp hsome.symm
    exact hsock.symm.trans (hr.owner s ptr info₀ hptr hinfo₀)
  gone s := by
    rw [hr.gone s, hk]
    apply exists_congr
    intro ptr
    apply and_congr_right
    intro _
    rw [← Option.map_eq_none_iff, ← hi ptr, Option.map_eq_none_iff]

theorem report_info (h : Heart) (s : SOCKET) (m : UnPacket) (p : Nat) :
    ((h.report s m).info p).map (·.clientSocket) = (h.info p).map (·.clientSocket) := by
  rw [Heart.report]
  split
  · split
    · rfl
    · rename_i ptr _
      rw [Heart.setInfo]
      dsimp only
      by_cases hp : p = ptr
      · rw [hp, Function.update_self, Option.map_map]
        rfl
      · rw [Function.update_of_ne hp]
  · rfl

theorem report_map (h : Heart) (s : SOCKET) (m : UnPacket) :
    (h.report s m).keepAliveInfo = h.keepAliveInfo ∧ (h.report s m).nextAddr = h.nextAddr := by
  rw [Heart.report]
  repeat' split
  all_goals exact ⟨rfl, rfl⟩

theorem Recorded.report (hr : Recorded o h) (s : SOCKET) (m : UnPacket) :
    Recorded o (h.report s m) :=
  hr.congr (report_map h s m).1 (Nat.le_of_eq (report_map h s m).2.symm) (report_info h s m)

/-- The new record is at an address that no entry of the map has. -/
theorem Recorded.startLoop (hr : Recorded o h) (s : SOCKET) (m : UnPacket) (e : CClientEntity) :
    Recorded (Function.update o s false) (h.startLoop s m e) := by
  have hmap : (h.startLoop s m e).keepAliveInfo =
    Function.update h.keepAliveInfo s (some h.nextAddr) := rfl
  have hinfo : (h.startLoop s m e).info =
    Function.update h.info h.nextAddr (some { clientSocket := s, RecMessage := m }) := rfl
  have hother : ∀ t p, t ≠ s → (h.startLoop s m e).keepAliveInfo t = some p →
      h.keepAliveInfo t = some p ∧ (h.startLoop s m e).info p = h.info p := by
    intro t p hts hp
    rw [hmap, Function.update_of_ne hts] at hp
    rw [hinfo, Function.update_of_ne (Nat.ne_of_lt (hr.lt t p hp))]
    exact ⟨hp, rfl⟩
  have hself : ∀ p, (h.startLoop s m e).keepAliveInfo s = some p → p = h.nextAddr := by
    intro p hp
    rw [hmap, Function.update_self] at hp
    exact (Option.some.inj hp).symm
  constructor
  · intro t p hp
    by_cases hts : t = s
    · rw [hts] at hp
      rw [hself p hp]
      exact Nat.lt_succ_self _
    · exact Nat.lt_succ_of_lt (hr.lt t p (hother t p hts hp).1)
  · intro t p info hp hi
    by_cases hts : t = s
    · rw [hts] at hp
      rw [hself p hp, hinfo, Function.update_self] at hi
      cases hi
      exact hts.symm
    · obtain ⟨hp, hsame⟩ := hother t p hts hp
      rw [hsame] at hi
      exact hr.owner t p info hp hi
  · intro t
    by_cases hts : t = s
    · rw [hts, Function.update_self]
      refine iff_of_false Bool.false_ne_true ?_
      rintro ⟨p, hp, hi⟩
      rw [hself p hp, hinfo, Function.update_self] at hi
      cases hi
    · rw [Function.update_of_ne hts, hr.gone t]
      apply exists_congr
      intro p
      rw [hmap, Function.update_of_ne hts]
      apply and_congr_right
      intro hp
      rw [hinfo, Function.update_of_ne (Nat.ne_of_lt (hr.lt t p hp))]

theorem Recorded.dismiss {info : CKeepAliveInfo} (hr : Recorded o h)
    (hmap : h.keepAliveInfo s = some ptr) (hi : h.info ptr = some info) (e : CClientEntity) :
    Recorded (Function.update o s true) (h.dismiss s ptr e) := by
  have hkept : (h.dismiss s ptr e).keepAliveInfo = h.keepAliveInfo := rfl
  have hinfo : (h.dismiss s ptr e).info = Function.update h.info ptr none := rfl
  constructor
  · exact hr.lt
  · intro t p info' hp hi'
    rw [hinfo] at hi'
    by_cases hpp : p = ptr
    · rw [hpp, Function.update_self] at hi'
      cases hi'
    · rw [Function.update_of_ne hpp] at hi'
      exact hr.owner t p info' hp hi'
  · intro t
    rw [hkept, hinfo]
    by_cases hts : t = s
    · rw [hts, Function.update_self]
      exact iff_of_true rfl ⟨ptr, hmap, Function.update_self _ _ _⟩
    · rw [Function.update_of_ne hts, hr.gone t]
      apply exists_congr
      intro p
      apply and_congr_right
      intro hp
      have hpp : p ≠ ptr := by
        rintro rfl
        exact hts ((hr.owner t p info hp hi).symm.trans (hr.owner s p info hmap hi))
      rw [Function.update_of_ne hpp]

theorem watchRecords_eq (hev : evictedBy h b = none) (hst : startedBy h b = none) :
    watchRecords o h b = o := by
  funext s
  rw [watchRecords, hev, hst, if_neg (by simp), if_neg (by simp)]

theorem recorded_apply (hw : Wired h) (hr : Recorded o h) (hb : h.Enabled b) :
    Recorded (watchRecords o h b) (h.apply b) := by
  cases b with
  | rest | finish j | look j now =>
    rw [watchRecords_eq rfl rfl]
    exact hr.congr rfl (Nat.le_refl _) fun _ => rfl
  | connect s junk =>
    rw [watchRecords_eq rfl rfl]
    exact hr.congr rfl (Nat.le_succ _) fun _ => rfl
  | reconnect s =>
    rw [watchRecords_eq rfl rfl]
    exact hr.congr rfl (Nat.le_refl _) fun _ => rfl
  | keepAlive s m =>
    rw [Heart.apply]
    cases hs : h.client s with
    | none =>
      rw [watchRecords_eq rfl (by rw [startedBy, hs]; rfl)]
      exact hr
    | some e =>
      dsimp only
      split
      · rename_i hthread
        rw [watchRecords_eq rfl (by rw [startedBy, hs, Option.bind_some, if_pos hthread])]
        exact (hr.report s m).congr rfl (Nat.le_refl _) fun _ => rfl
      · rename_i hthread
        have hwatch : watchRecords o h (.keepAlive s m) = Function.update o s false := by
          funext t
          rw [watchRecords, startedBy, hs, Option.bind_some, if_neg hthread, Function.update_apply]
          by_cases hts : t = s
          · simp [hts, evictedBy]
          · simp [hts, Ne.symm hts, evictedBy]
        rw [hwatch]
        exact (hr.report s m).startLoop s m (answered e)
  | tick j now arg =>
    obtain ⟨l, e, ptr, info, -, -, hs, -, -, -, -, rfl, hmap, hi, hsock, happ⟩ := hw.tick hb
    rw [happ]
    have hev : evictedBy h (.tick j now (some ptr)) =
        if 30 ≤ e.m_iSendMsgCount then some l.sockClient else none := by
      rw [evictedBy, hi, Option.bind_some, hsock, hs, Option.bind_some]
    by_cases hcount : 30 ≤ e.m_iSendMsgCount
    · rw [if_pos hcount] at hev ⊢
      have hwatch : watchRecords o h (.tick j now (some ptr)) =
          Function.update o l.sockClient true := by
        funext t
        rw [watchRecords, hev, Function.update_apply]
        by_cases hts : t = l.sockClient
        · simp [hts]
        · simp [hts, Ne.symm hts, startedBy]
      rw [hwatch]
      exact (hr.dismiss hmap hi e).congr rfl (Nat.le_refl _) fun _ => rfl
    · rw [if_neg hcount] at hev ⊢
      rw [watchRecords_eq hev rfl]
      exact hr.congr rfl (Nat.le_refl _) fun _ => rfl

end Records

section Steps

variable {DB : Type} {sqlite : Sqlite DB} {view : DB → Tables} {db : DB} {σ₀ σ : Store}
  {tr : List (Process DB × Action)} {st : Process DB} {a : Action}

/-- A new connection is written behind the end of the array. -/
def Overflows (st : Process DB) : Action → Prop
  | .accept s _ =>
    s ∉ st.g_CliSocketArr ∧ s ≠ INVALID_SOCKET ∧ FD_SETSIZE ≤ st.g_CliSocketArr.length
  | _ => False

def WritesFreed (st : Process DB) : Action → Prop
  | .packet s m _ => readable s st = true ∧ (st.cache.GetEntity s).isSome = true ∧
      m.curscene = .CS_KeepAlive ∧ StoresFreed s m st
  | _ => False

theorem StartCServer_strays (s : SOCKET) (junk : Int) :
    strays (StartCServer s junk st) = true ↔ Overflows st (.accept s junk) := by
  rw [StartCServer, Overflows]
  by_cases hs : s ∈ st.g_CliSocketArr
  · rw [if_pos hs]
    simp [hs]
  · rw [if_neg hs]
    by_cases hi : s = INVALID_SOCKET
    · cases st.cache.GetEntity s <;> simp [hi]
    · by_cases hfull : FD_SETSIZE ≤ st.g_CliSocketArr.length
      · cases st.cache.GetEntity s <;> simp [hs, hi, hfull, strays, isStray]
      · cases st.cache.GetEntity s <;> simp [hi, hfull]

theorem packet_fails {p : Fault → Bool} (hp : ∀ f, p f = true → isStray f = true)
    (hd : p .danglingInfo = true) {s : SOCKET} {m : UnPacket} {rand : List Nat}
    {e : CClientEntity} (he : st.cache.GetEntity s = some e)
    (haccount : m.curscene = .CS_Login ∨ m.curscene = .CS_CreateRole ∨ m.curscene = .CS_Register ∨
      m.curscene = .CS_SelectRole → fails p (ProcessMsgLogic sqlite s m rand st) = false) :
    fails p (ProcessMsgLogic sqlite s m rand st) = true ↔
      m.curscene = .CS_KeepAlive ∧ StoresFreed s m st := by
  have hno : ∀ {α : Type} {x : Except Fault α}, strays x = false → fails p x = false := by
    intro α x hx
    rw [Bool.eq_false_iff] at hx ⊢
    exact fun h => hx (fails_mono hp h)
  cases hm : m.curscene
  case CS_KeepAlive =>
    rw [ProcessMsgLogic]
    simp only [hm, true_and]
    exact Start_fails hp hd he
  case CS_Login | CS_CreateRole | CS_Register | CS_SelectRole =>
    rw [haccount (by simp [hm])]
    simp
  case CS_WaitRoom =>
    rw [ProcessMsgLogic]
    simp only [hm, reduceCtorEq, false_and, iff_false, Bool.not_eq_true]
    exact fails_bind_false (hno hallLogic_strays) fun _ => rfl
  case CS_MainScene =>
    rw [ProcessMsgLogic]
    simp only [hm, reduceCtorEq, false_and, iff_false, Bool.not_eq_true]
    exact fails_bind_false (hno MainLogic_strays) fun _ => rfl
  all_goals
    rw [ProcessMsgLogic]
    simp [hm]

theorem packet_strays (hrel : Relational sqlite view) (hv : view st.db = σ.tables)
    (hs : Sound σ) {s : SOCKET} {m : UnPacket} {rand : List Nat} {e : CClientEntity}
    (he : st.cache.GetEntity s = some e) : strays (ProcessMsgLogic sqlite s m rand st) = true ↔
      m.curscene = .CS_KeepAlive ∧ StoresFreed s m st :=
  packet_fails (fun _ h => h) rfl he (account_strays hrel hv hs (by rw [he]; rfl))

theorem step_strays (hrel : Relational sqlite view) (hv : view st.db = σ.tables) (hs : Sound σ)
    (hw : Wired (heart st)) (a : Action) :
    strays (step sqlite st a) = true ↔ Overflows st a ∨ WritesFreed st a := by
  cases a with
  | accept s junk =>
    simp only [step, strays_map, WritesFreed, or_false]
    exact StartCServer_strays s junk
  | close s =>
    simp only [step, Overflows, WritesFreed, or_false, iff_false, Bool.not_eq_true]
    split <;> rfl
  | packet s m rand =>
    simp only [step, strays_map, Overflows, WritesFreed, false_or, receive]
    by_cases hr : readable s st = true
    · rw [if_pos hr, and_iff_right hr]
      cases he : st.cache.GetEntity s with
      | none => simp
      | some e =>
        rw [Option.isSome_some, and_iff_right rfl]
        exact packet_strays hrel hv hs he
    · rw [if_neg hr]
      simp [hr]
  | poll j now =>
    simp only [step, strays_map, Overflows, WritesFreed, or_false, iff_false]
    rw [poll_strays]
    rintro ⟨ptr, hd, hnone⟩
    exact due_allocated hw hd hnone

/-- What brings the server down in a reachable state: a use of NULL, a connection too
many, or a heartbeat message for a record that was deleted. Neither a timer nor the
database does it in another way. -/
theorem crashes_iff (hrel : Relational sqlite view) (hv : view db = σ₀.tables) (hs : Sound σ₀)
    (h : ServerRun sqlite db tr st) (a : Action) :
    (∃ f, step sqlite st a = .error f ∧ f ≠ .unfinished) ↔
      NullUse st a ∨ Overflows st a ∨ WritesFreed st a := by
  obtain ⟨σ, hv', hs', -⟩ := stored hrel hv hs h
  rw [← step_strays hrel hv' hs' (wired h) a, ← @step_null _ sqlite st a]
  rw [usesNull, strays, fails_iff, fails_iff, ← exists_or]
  apply exists_congr
  intro f
  rw [not_unfinished, and_or_left]

/-- The first request of a client can bring the server down. -/
theorem first_request_crashes : ∃ tr st, ServerRun reference noTablesYet tr st ∧
    actions tr = [.accept 7 0] ∧
    ((∃ f, step reference st (gameWaite 7) = .error f ∧ f ≠ .unfinished) ↔
      NullUse st (gameWaite 7) ∨ Overflows st (gameWaite 7) ∨ WritesFreed st (gameWaite 7)) := by
  obtain ⟨tr, st, hrun, hact, -⟩ := exists_run reference noTablesYet [.accept 7 0]
    (fun _ _ => true) (by decide +kernel)
  exact ⟨tr, st, hrun, hact,
    crashes_iff relational_reference noTablesYet_eq sound_empty hrun (gameWaite 7)⟩

theorem step_dangles (s : SOCKET) (m : UnPacket) (rand : List Nat) :
    step sqlite st (.packet s m rand) = .error .danglingInfo ↔
      WritesFreed st (.packet s m rand) := by
  rw [← dangles_iff, dangles, step, fails_map, receive, WritesFreed]
  by_cases hr : readable s st = true
  · rw [if_pos hr, and_iff_right hr]
    cases he : st.cache.GetEntity s with
    | none => simp
    | some e =>
      rw [Option.isSome_some, and_iff_right rfl]
      exact packet_fails isStray_of_isDangling rfl he account_dangles
  · rw [if_neg hr]
    simp [hr]

/-- A packet stores into a deleted record exactly when it is a heartbeat message that
reports the hall or the game on a handle whose last client with a timer was evicted. -/
theorem writesFreed_iff (h : ServerRun sqlite db tr st) (s : SOCKET) (m : UnPacket)
    (rand : List Nat) : step sqlite st (.packet s m rand) = .error .danglingInfo ↔
      readable s st = true ∧ (st.cache.GetEntity s).isSome = true ∧
      m.curscene = .CS_KeepAlive ∧
      (m.keepalive.curscene = .CS_WaitRoom ∨ m.keepalive.curscene = .CS_MainScene) ∧
      deleted tr s = true := by
  have hrec : Recorded (deleted tr) (heart st) :=
    felt_invariant recorded_resting (fun _ _ _ hw hr hb => recorded_apply hw hr hb) h
  rw [step_dangles, WritesFreed, StoresFreed, hrec.gone s]
  exact Iff.rfl

/-- A client that is silent until it is evicted; its handle is given to a new one. -/
def silentThenNext : List Action :=
  [.accept 7 0, keepAlive 7 .CS_WaitRoom] ++ ticks 0 31 ++ [.close 7, .accept 7 0]

theorem next_client_crashes : ∃ tr st, ServerRun noTables () tr st ∧
    actions tr = silentThenNext ∧
    step noTables st (keepAlive 7 .CS_WaitRoom) = .error .danglingInfo := by
  obtain ⟨tr, st, hrun, hact, hp⟩ := exists_run noTables () silentThenNext
    (fun tr st => readable 7 st && (st.cache.GetEntity 7).isSome && deleted tr 7)
    (by decide +kernel)
  simp only [Bool.and_eq_true] at hp
  obtain ⟨⟨hread, hsome⟩, hgone⟩ := hp
  refine ⟨tr, st, hrun, hact, ?_⟩
  rw [keepAlive, writesFreed_iff hrun]
  exact ⟨hread, hsome, rfl, .inl rfl, hgone⟩

end Steps

end JiraGame.Crashes
