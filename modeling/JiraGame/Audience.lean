import JiraGame.Frame
import JiraGame.Listeners
import JiraGame.Membership
import JiraGame.Replicas
import JiraGame.SentPackets

namespace JiraGame.Audience

open JiraGame.Scene JiraGame.Command JiraGame.DBServer JiraGame.Cache JiraGame.HallScene
open JiraGame.MainScene JiraGame.AccountScenes JiraGame.ServerState JiraGame.KeepAlive
open JiraGame.Server JiraGame.ProcessFrame JiraGame.RoomTable JiraGame.Refinement
open JiraGame.RoomChanges JiraGame.Membership JiraGame.Links JiraGame.Frame JiraGame.Session
open JiraGame.Broadcasts JiraGame.SentPackets JiraGame.Listeners JiraGame.Replicas JiraGame.Runs
open JiraGame.Lib.History JiraGame.Lib.Fails
open JiraGame.AccountStatements hiding text

variable {DB : Type}

/-- The room whose members hear of a request in the hall. -/
def hallRoom (s : SOCKET) (req : HallRequest) (c : CCache) : Option Int :=
  match req.msgtype with
  | .HST_JoinTeam | .HST_JoinRoom => some req.inviteinfo.roomid
  | .HST_LeaveRoom | .HST_GameWaite | .HST_GameStart => roomOf (lobby c) s
  | _ => none

/-- The client that an invitation goes to. -/
def hallGuest (req : HallRequest) (c : CCache) : Option SOCKET :=
  match req.msgtype with
  | .HST_RequestTeam => some (c.GetEntitySocket req.inviteinfo.revuserid)
  | _ => none

def gameRoom (s : SOCKET) (req : GameMainRequest) (c : CCache) : Option Int :=
  match req.msgtype with
  | .GMT_RsyncAttr | .GMT_RsyncStatus => roomOf (lobby c) s
  | _ => none

/-- The room whose members may hear of a step. -/
def hearingRoom (st : Process DB) : Action → Option Int
  | .packet s m _ =>
    match m.curscene with
    | .CS_WaitRoom => hallRoom s m.hallrequest st.cache
    | .CS_MainScene => gameRoom s m.gamemainrequest st.cache
    | _ => none
  | .poll j now => (actor st (.poll j now)).bind (roomOf (lobby st.cache))
  | _ => none

def guest (st : Process DB) : Action → Option SOCKET
  | .packet _ m _ =>
    match m.curscene with
    | .CS_WaitRoom => hallGuest m.hallrequest st.cache
    | _ => none
  | _ => none

/-- Who may be sent something in a step: its client, a guest and the members of a room. -/
def MayHear (st : Process DB) (a : Action) (t : SOCKET) : Prop :=
  actor st a = some t ∨ guest st a = some t ∨
    ∃ k, hearingRoom st a = some k ∧ t ∈ sockets (lobby st.cache) k

def Reaches (P : SOCKET → Prop) (out : Outbox) : Prop := ∀ y ∈ out, P y.1

def Members (P : SOCKET → Prop) (c : CCache) (k : Int) : Prop :=
  ∀ r, c.FindEntityRoom k = some r → ∀ p ∈ r.playerinfo, P p.socket

def Mates (P : SOCKET → Prop) (c : CCache) (s : SOCKET) : Prop :=
  ∀ e, c.GetEntity s = some e → Members P c e.roleInfo.roomid

section Lists

variable {P : SOCKET → Prop} {out out' : Outbox} {s : SOCKET}

theorem reaches_nil : Reaches P [] := fun _ hy => by cases hy

theorem reaches_own (hs : P s) (p : Packet) : Reaches P [(s, p)] := by
  intro y hy
  rw [List.mem_singleton.mp hy]
  exact hs

theorem reaches_map {α : Type} {f : α → SOCKET} {xs : List α} (h : ∀ x ∈ xs, P (f x)) (p : Packet) :
    Reaches P (xs.map fun x => (f x, p)) := by
  intro y hy
  obtain ⟨x, hx, rfl⟩ := List.mem_map.mp hy
  exact h x hx

theorem Reaches.append (h : Reaches P out) (h' : Reaches P out') : Reaches P (out ++ out') := by
  intro y hy
  exact (List.mem_append.mp hy).elim (h y) (h' y)

end Lists

section Hall

variable {P : SOCKET → Prop} {c c' : CCache} {out : Outbox} {s : SOCKET} {req : HallRequest}
  {rand : List Nat}

theorem CreateRoom_reaches (hs : P s) (h : CreateRoom s req rand c = .ok (c', out)) :
    Reaches P out := by
  rw [CreateRoom] at h
  split at h
  · cases h
    exact reaches_nil
  · split at h
    · cases h
    · split at h
      · cases h
        exact reaches_nil
      · split at h
        · cases h
        · cases h
          exact reaches_own hs _

theorem RequestTeam_reaches (hg : P (c.GetEntitySocket req.inviteinfo.revuserid))
    (h : RequestTeam s req c = .ok (c', out)) : Reaches P out := by
  rw [RequestTeam] at h
  dsimp only at h
  split at h
  · cases h
  · cases h
    split
    · exact reaches_own hg _
    · exact reaches_nil

theorem forall_joined {r : RoomInfo} {n : Int} {entry : PlayerInfo} (hs : P entry.socket)
    (hm : ∀ p ∈ r.playerinfo, P p.socket) :
    ∀ p ∈ ((r.set_freepersoncount n).add_playerinfo entry).playerinfo, P p.socket := by
  intro p hp
  obtain hp | hp := List.mem_append.mp hp
  · exact hm p hp
  · rw [List.mem_singleton.mp hp]
    exact hs

theorem reaches_others {ps : List PlayerInfo} (hs : P s) (hm : ∀ p ∈ ps, P p.socket) (p : Packet) :
    Reaches P (((ps.map PlayerInfo.socket).filter (· ≠ s) ++ [s]).map fun t => (t, p)) := by
  refine reaches_map (f := fun t => t) (fun t ht => ?_) p
  obtain ht | ht := List.mem_append.mp ht
  · obtain ⟨q, hq, rfl⟩ := List.mem_map.mp (List.mem_of_mem_filter ht)
    exact hm q hq
  · rw [List.mem_singleton.mp ht]
    exact hs

theorem JoinTeam_reaches (hs : P s) (hm : Members P c req.inviteinfo.roomid)
    (h : JoinTeam s req c = .ok (c', out)) : Reaches P out := by
  unfold JoinTeam at h
  cases hr : c.FindEntityRoom req.inviteinfo.roomid with
  | none => simp [hr] at h
  | some r =>
    simp only [hr] at h
    split at h
    · split at h
      · cases h
      · cases h
        refine reaches_others hs ?_ _
        exact forall_joined hs (hm r hr)
    · cases h
      exact reaches_others hs (hm r hr) _

theorem JoinRoom_reaches (hs : P s) (hm : Members P c req.inviteinfo.roomid)
    (h : JoinRoom s req c = .ok (c', out)) : Reaches P out := by
  unfold JoinRoom at h
  cases hr : c.FindEntityRoom req.inviteinfo.roomid with
  | none =>
    simp only [hr] at h
    cases h
    exact reaches_nil
  | some r =>
    simp only [hr, SeatGrid.IdleTeam_ID_eq] at h
    split at h
    · cases h
    · cases h
    · split at h
      · rw [leaveNamedRoom] at h
        split at h
        · cases h
          exact reaches_nil
        · cases h
          exact reaches_map (forall_copyOthers (fun _ hp => hp) (hm r hr)) _
      · split at h
        · cases h
          exact reaches_nil
        · cases h
        · cases h
          refine reaches_map ?_ _
          exact forall_joined hs (hm r hr)

theorem leaveOwnRoom_reaches (hm : Mates P c s) (h : leaveOwnRoom s c = .ok (c', out)) :
    Reaches P out := by
  rw [leaveOwnRoom] at h
  cases he : c.GetEntity s with
  | none => simp [he] at h
  | some e =>
    simp only [he] at h
    cases hr : c.FindEntityRoom e.roleInfo.roomid with
    | none =>
      simp only [hr] at h
      cases h
      exact reaches_nil
    | some r =>
      simp only [hr] at h
      split at h
      · cases h
        exact reaches_nil
      · split at h
        · cases h
          exact reaches_map (forall_copyOthers (fun _ hp => hp) (hm e he r hr)) _
        · split at h
          · cases h
          · cases h
            exact reaches_map (forall_copyOthers (fun _ hp => hp) (hm e he r hr)) _

theorem LeaveRoom_reaches (hs : P s) (hm : Mates P c s)
    (h : HallScene.LeaveRoom s c = .ok (c', out)) : Reaches P out := by
  obtain ⟨⟨c₁, o⟩, hown, h⟩ := of_bind_ok h
  cases h
  exact (reaches_own hs _).append (leaveOwnRoom_reaches hm hown)

theorem GameWaite_reaches (hm : Mates P c s) (h : GameWaite s c = .ok (c', out)) :
    Reaches P out := by
  obtain ⟨e, r, he, hr, -⟩ := GameWaite_spec h
  simp only [GameWaite, he, hr] at h
  cases h
  exact reaches_map (hm e he r hr) _

theorem GameStart_reaches (hm : Mates P c s) (h : GameStart s c = .ok (c', out)) :
    Reaches P out := by
  obtain ⟨e, r, all, he, hr, -, -, rfl⟩ := GameStart_spec h
  exact reaches_map (hm e he r hr) _

theorem hallLogic_reaches (hs : P s) (hg : ∀ t, hallGuest req c = some t → P t)
    (hm : ∀ k, hallRoom s req c = some k → Members P c k)
    (h : hallLogic s req rand c = .ok (c', out)) : Reaches P out := by
  have hmates : hallRoom s req c = roomOf (lobby c) s → Mates P c s := by
    intro hroom e he
    exact hm _ (hroom.trans (roomOf_entity he))
  rw [hallLogic] at h
  split at h
  · cases hmsg : req.msgtype <;> simp only [hmsg] at h
    case HST_CreateRoom => exact CreateRoom_reaches hs h
    case HST_OnlineFriend =>
      cases h
      exact reaches_own hs _
    case HST_RequestTeam => exact RequestTeam_reaches (hg _ (by rw [hallGuest, hmsg])) h
    case HST_JoinTeam => exact JoinTeam_reaches hs (hm _ (by rw [hallRoom, hmsg])) h
    case HST_JoinRoom => exact JoinRoom_reaches hs (hm _ (by rw [hallRoom, hmsg])) h
    case HST_GetRoomList =>
      obtain ⟨rooms, -, h⟩ := of_bind_ok h
      cases h
      exact reaches_own hs _
    case HST_LeaveRoom => exact LeaveRoom_reaches hs (hmates (by rw [hallRoom, hmsg])) h
    case HST_GameWaite => exact GameWaite_reaches (hmates (by rw [hallRoom, hmsg])) h
    case HST_GameStart => exact GameStart_reaches (hmates (by rw [hallRoom, hmsg])) h
    all_goals
      cases h
      exact reaches_nil
  · cases h
    exact reaches_nil

end Hall

section Game

variable {P : SOCKET → Prop} {c c' : CCache} {out : Outbox} {s : SOCKET} {req : GameMainRequest}

theorem rsync_reaches {msgtype : GameMainMsgType} (hm : Mates P c s)
    (h : rsync msgtype s req c = .ok (c', out)) : Reaches P out := by
  cases he : c.GetEntity s with
  | none => simp [rsync, he] at h
  | some e =>
    cases hr : c.FindEntityRoom e.roleInfo.roomid with
    | none =>
      simp only [rsync, he, hr] at h
      cases h
      exact reaches_nil
    | some r =>
      simp only [rsync, he, hr] at h
      cases h
      exact reaches_map (hm e he r hr) _

theorem MainLogic_reaches (hm : ∀ k, gameRoom s req c = some k → Members P c k)
    (h : MainLogic s req c = .ok (c', out)) : Reaches P out := by
  have hmates : gameRoom s req c = roomOf (lobby c) s → Mates P c s := by
    intro hroom e he
    exact hm _ (hroom.trans (roomOf_entity he))
  rw [MainLogic] at h
  split at h
  · cases hmsg : req.msgtype <;> simp only [hmsg] at h
    case GMT_RsyncAttr => exact rsync_reaches (hmates (by rw [gameRoom, hmsg])) h
    case GMT_RsyncStatus => exact rsync_reaches (hmates (by rw [gameRoom, hmsg])) h
    case GMT_GameOver =>
      rw [GameOver_carries h]
      exact reaches_nil
    all_goals
      cases h
      exact reaches_nil
  · cases h
    exact reaches_nil

end Game

section Account

variable {sqlite : Sqlite DB} {P : SOCKET → Prop} {db : DB} {c : CCache} {s : SOCKET}
  {x : DB × CCache × Outbox}

theorem LoginLogic_reaches {req : LoginRequest} {rand : List Nat} (hs : P s)
    (h : LoginLogic sqlite s req rand db c = .ok x) : Reaches P x.2.2 := by
  rw [LoginLogic_eq] at h
  dsimp only at h
  split at h
  · cases h
    exact reaches_own hs _
  · split at h
    · cases h
    · cases h
      exact reaches_own hs _

theorem RegisterLogic_reaches {req : RegisterRequest} (hs : P s)
    (h : RegisterLogic sqlite s req db c = .ok x) : Reaches P x.2.2 := by
  rw [RegisterLogic_eq] at h
  dsimp only at h
  split at h
  · cases h
    exact reaches_own hs _
  · cases h
    exact reaches_own hs _

theorem CreateLogic_reaches {req : CreateRoleRequest} (hs : P s)
    (h : CreateLogic sqlite s req db c = .ok x) : Reaches P x.2.2 := by
  rw [CreateLogic_eq] at h
  dsimp only at h
  repeat' split at h
  all_goals
    cases h
    try exact reaches_own hs _

theorem SelectLogic_reaches {req : SelectRoleRequest} (hs : P s)
    (h : SelectLogic sqlite s req db c = .ok x) : Reaches P x.2.2 := by
  rw [SelectLogic_eq] at h
  split at h
  · dsimp only at h
    split at h
    · cases h
      exact reaches_own hs _
    · split at h
      · cases h
      · cases h
        exact reaches_own hs _
  · cases h
    exact reaches_nil

end Account

section Ticks

variable {P : SOCKET → Prop} {c c' : CCache} {out : Outbox} {s : SOCKET} {st st' : Process DB}

theorem breakLine_reaches (hm : Mates P c s) (h : breakLine s c = .ok out) : Reaches P out := by
  rw [breakLine] at h
  cases he : c.GetEntity s with
  | none => simp [he] at h
  | some e =>
    simp only [he] at h
    cases hr : c.FindEntityRoom e.roleInfo.roomid with
    | none =>
      simp only [hr] at h
      cases h
      exact reaches_nil
    | some r =>
      simp only [hr] at h
      cases h
      refine reaches_map (f := fun t => t) (fun t ht => ?_) _
      obtain ⟨p, hp, rfl⟩ := List.mem_map.mp (List.mem_of_mem_filter ht)
      exact hm e he r hr p hp

theorem notice_reaches (hs : P s) (scene : CurScene) : Reaches P (heartbeatNotice s scene) := by
  cases scene with
  | CS_WaitRoom | CS_MainScene => exact reaches_own hs _
  | _ => exact reaches_nil

theorem countedTick_reaches {scene : CurScene} {e : CClientEntity} (hs : P s) (hm : Mates P c s)
    (h : countedTick s scene e c = .ok (c', out)) : Reaches P out := by
  have hnotice := notice_reaches hs scene
  rw [countedTick] at h
  split at h
  · dsimp only at h
    split at h
    · obtain ⟨⟨c₁, o⟩, hleave, h⟩ := of_bind_ok h
      cases h
      exact (leaveOwnRoom_reaches hm hleave).append hnotice
    · cases h
      exact reaches_nil.append hnotice
  · split at h
    · dsimp only at h
      split at h
      · obtain ⟨o, hline, h⟩ := of_bind_ok h
        cases h
        exact (breakLine_reaches hm hline).append hnotice
      · cases h
        exact reaches_nil.append hnotice
    · cases h
      exact reaches_nil.append hnotice

theorem TimerFunc_reaches {ptr : Nat} (h : TimerFunc (some ptr) st = .ok (st', out))
    (hp : ∀ info, st.infos[ptr]? = some info →
      P info.clientSocket ∧ Mates P st.cache info.clientSocket) : Reaches P out := by
  obtain ⟨info, hi, ⟨-, -, rfl⟩ | ⟨e, -, ⟨-, -, rfl⟩ | ⟨-, c, ht, -⟩⟩⟩ := TimerFunc_spec h
  · exact reaches_nil
  · exact reaches_nil
  · exact countedTick_reaches (hp info hi).1 (hp info hi).2 ht

end Ticks

section Steps

variable {sqlite : Sqlite DB} {P : SOCKET → Prop} {st st' : Process DB} {out : Outbox} {a : Action}
  {s : SOCKET} {m : UnPacket} {rand : List Nat}

theorem ProcessMsgLogic_reaches (hs : P s)
    (hg : ∀ t, guest st (.packet s m rand) = some t → P t)
    (hm : ∀ k, hearingRoom st (.packet s m rand) = some k → Members P st.cache k)
    (h : ProcessMsgLogic sqlite s m rand st = .ok (st', out)) : Reaches P out := by
  rw [ProcessMsgLogic] at h
  rw [guest] at hg
  rw [hearingRoom] at hm
  cases hscene : m.curscene <;> simp only [hscene] at h hg hm
  case CS_KeepAlive =>
    rw [Start] at h
    split at h
    · cases h
      exact reaches_nil
    · obtain ⟨st₁, -, h⟩ := of_bind_ok h
      dsimp only at h
      split at h
      · cases h
        exact reaches_nil
      · cases h
        exact reaches_nil
  case CS_Login =>
    obtain ⟨x, hx, h⟩ := of_bind_ok h
    cases h
    exact LoginLogic_reaches hs hx
  case CS_CreateRole =>
    obtain ⟨x, hx, h⟩ := of_bind_ok h
    cases h
    exact CreateLogic_reaches hs hx
  case CS_Register =>
    split at h
    · cases h
      exact reaches_nil
    · obtain ⟨x, hx, h⟩ := of_bind_ok h
      cases h
      exact RegisterLogic_reaches hs hx
  case CS_SelectRole =>
    obtain ⟨x, hx, h⟩ := of_bind_ok h
    cases h
    exact SelectLogic_reaches hs hx
  case CS_WaitRoom =>
    obtain ⟨x, hx, h⟩ := of_bind_ok h
    cases h
    exact hallLogic_reaches hs hg hm hx
  case CS_MainScene =>
    obtain ⟨x, hx, h⟩ := of_bind_ok h
    cases h
    exact MainLogic_reaches hm hx
  all_goals
    cases h
    exact reaches_nil

theorem members_mayHear {k : Int} (hk : hearingRoom st a = some k) :
    Members (MayHear st a) st.cache k := by
  intro r hr p hp
  refine .inr (.inr ⟨k, hk, ?_⟩)
  rw [sockets, roster_of_room hr]
  exact List.mem_map_of_mem hp

/-- What a step hands to the listeners. -/
theorem handled_reaches (h : handled sqlite st a = .ok (st', out)) : Reaches (MayHear st a) out := by
  cases a with
  | accept s junk =>
    obtain ⟨st₁, -, h⟩ := of_map_ok h
    cases h
    exact reaches_nil
  | close s =>
    simp only [handled, step] at h
    split at h <;> cases h <;> exact reaches_nil
  | packet s m rand =>
    intro y hy
    obtain ⟨-, h⟩ := handled_packet h hy
    exact ProcessMsgLogic_reaches (.inl rfl) (fun t ht => .inr (.inl ht))
      (fun k hk => members_mayHear hk) h y hy
  | poll j now =>
    have hspec := poll_spec h
    cases hd : dueArg j now st with
    | none =>
      simp only [hd] at hspec
      rw [hspec.2]
      exact reaches_nil
    | some ptr =>
      simp only [hd] at hspec
      obtain ⟨st₁, ht, -⟩ := hspec
      refine TimerFunc_reaches ht fun info hi => ?_
      have hactor : actor st (.poll j now) = some info.clientSocket := by
        rw [actor, hd, Option.bind_some, hi]
        rfl
      refine ⟨.inl hactor, fun e he => ?_⟩
      apply members_mayHear
      rw [hearingRoom, hactor, Option.bind_some]
      exact roomOf_entity he

theorem deliver_reaches {x : Process DB × Outbox}
    (hown : ∀ s u, listener x.1 s = some u → u = s) (h : Reaches P x.2) :
    Reaches P (deliver x).2 := by
  have hfold : ∀ (out : Outbox) (y : Process DB × Outbox),
      (∀ s u, listener y.1 s = some u → u = s) → Reaches P y.2 → Reaches P out →
      Reaches P (out.foldl (fun y p => SendMsg p y) y).2 := by
    intro out
    induction out with
    | nil => exact fun y _ hy _ => hy
    | cons p out ih =>
      intro y hlisten hy hout
      obtain ⟨hp, hout⟩ := List.forall_mem_cons.mp hout
      rw [List.foldl_cons]
      refine ih _ (fun s u hu => hlisten s u ?_) ?_ hout
      · rw [← SendMsg_listener p y s]
        exact hu
      · rw [SendMsg]
        split
        · rename_i u hu
          have hup : u = p.1 := hlisten p.1 u (by rw [listener, hu]; rfl)
          rw [hup]
          exact hy.append (reaches_own hp _)
        · exact hy
        · exact hy
  exact hfold x.2 (x.1, []) hown reaches_nil h

end Steps

section Runs

variable {sqlite : Sqlite DB} {db : DB} {tr : List (Process DB × Action)} {st st' : Process DB}
  {a : Action} {out : Outbox}

/-- Nothing is written to the sockets of others: a packet goes to the client of the
step, to the player it invites, or to a member of the room that the step is about. -/
theorem packets_confined (h : ServerRun sqlite db tr st) (hstep : step sqlite st a = .ok (st', out)) :
    ∀ y ∈ out, MayHear st a y.1 := by
  obtain ⟨x, hhandled, hdeliver⟩ := step_handled hstep
  have hout : out = (deliver x).2 := by rw [hdeliver]
  rw [hout]
  refine deliver_reaches (fun s u hu => ?_) (handled_reaches hhandled)
  have hreg := registered_step (registered h) hstep s
  rw [← deliver_listener x s, hdeliver, hreg] at hu
  obtain ⟨-, -, hsu⟩ := Option.map_eq_some_iff.mp hu
  exact hsu.symm

/-- A newcomer and the owner of the room are told of the join, and nobody else. -/
theorem owner_hears : ∃ tr st st' out, ServerRun noTables () tr st ∧
    actions tr = [.accept 7 0, createRoom 7, .accept 8 0, .accept 9 0] ∧
    step noTables st (joinTeam 8 111111 .Team_B 0) = .ok (st', out) ∧
    out.map Prod.fst = [7, 8] ∧ ∀ y ∈ out, MayHear st (joinTeam 8 111111 .Team_B 0) y.1 := by
  obtain ⟨tr, st, hrun, hact, hp⟩ := exists_run noTables ()
    [.accept 7 0, createRoom 7, .accept 8 0, .accept 9 0]
    (fun _ st => (step noTables st (joinTeam 8 111111 .Team_B 0)).toOption.any
      fun x : Process Unit × Outbox => decide (x.2.map Prod.fst = [7, 8])) (by decide +kernel)
  obtain ⟨x, hstep, hx⟩ := of_any_ok hp
  exact ⟨tr, st, x.1, x.2, hrun, hact, hstep, of_decide_eq_true hx, packets_confined hrun hstep⟩

end Runs

end JiraGame.Audience
