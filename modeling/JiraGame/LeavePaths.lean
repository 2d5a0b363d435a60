import JiraGame.JoinOutcomes
import JiraGame.Ownership
import JiraGame.RosterOrder
import JiraGame.Shells

namespace JiraGame.LeavePaths

open JiraGame.Scene JiraGame.Command JiraGame.DBServer JiraGame.Cache JiraGame.HallScene
open JiraGame.ServerState JiraGame.Server JiraGame.RoomTable JiraGame.Refinement
open JiraGame.RoomChanges JiraGame.Ownership JiraGame.RosterOrder JiraGame.Shells JiraGame.Runs
open JiraGame.Lib.History JiraGame.RelationalSqlite JiraGame.AccountRefinement JiraGame.JoinOutcomes

def others (roleid : Int) (ps : List PlayerInfo) : List PlayerInfo :=
  ps.filter fun p => p.roleid ≠ roleid

/-- The roster knows an owner with the role id. -/
def ownerLeaves (roleid : Int) (ps : List PlayerInfo) : Bool :=
  ps.any fun p => p.roleid = roleid && p.isroomctl

/-- The members who stay, the first of them promoted if an owner is needed. -/
def handOver (needed : Bool) : List PlayerInfo → List PlayerInfo × Option PlayerInfo
  | [] => ([], none)
  | q :: rest =>
    if needed then (q.set_isroomctl true :: rest, some (q.set_isroomctl true)) else (q :: rest, none)

/-- Nobody but the first member has the owner flag. -/
def Headed (ps : List PlayerInfo) : Prop := ∀ p ∈ ps.tail, p.isroomctl = false

def AllHeaded (l : Lobby) : Prop := ∀ k r, l.room k = some r → Headed r.playerinfo

section Rosters

variable {roleid : Int} {ps : List PlayerInfo} {p : PlayerInfo}

theorem handOver_false (qs : List PlayerInfo) : handOver false qs = (qs, none) := by
  cases qs <;> rfl

theorem copyOthers_own (fromRoster isCaptain : Bool)
    (h : fromRoster = true → isCaptain = false → ∀ p ∈ ps, p.isroomctl = false) :
    copyOthers roleid fromRoster isCaptain false ps = handOver isCaptain (others roleid ps) := by
  cases isCaptain with
  | false => rw [copyOthers_member _ _ fun hf => h hf rfl, handOver_false, others]
  | true =>
    induction ps with
    | nil => rfl
    | cons p ps ih =>
      by_cases hp : p.roleid = roleid
      · have hskip : others roleid (p :: ps) = others roleid ps :=
          List.filter_cons_of_neg (by simpa using hp)
        rw [copyOthers, if_pos hp, Bool.true_or, hskip]
        exact ih fun _ hc => absurd hc (by decide)
      · rw [copyOthers, if_neg hp, if_pos (by decide), copyOthers_leader, others,
          List.filter_cons_of_pos (by simpa using hp)]
        rfl

theorem copyOthers_entity (isCaptain : Bool) : copyOthers roleid false isCaptain false ps =
    handOver isCaptain (others roleid ps) :=
  copyOthers_own false _ fun hf => absurd hf (by decide)

/-- The leave inside the join learns it in time: the owner's entry comes first. -/
theorem copyOthers_named (h : Headed ps) : copyOthers roleid true false false ps =
    handOver (ownerLeaves roleid ps) (others roleid ps) := by
  cases ps with
  | nil => rfl
  | cons p rest =>
    have hrest : (rest.any fun q => q.roleid = roleid && q.isroomctl) = false := by
      rw [List.any_eq_false]
      intro q hq
      rw [h q hq, Bool.and_false]
      decide
    by_cases hp : p.roleid = roleid
    · have hown : ownerLeaves roleid (p :: rest) = p.isroomctl := by
        rw [ownerLeaves, List.any_cons, hrest, Bool.or_false, decide_eq_true hp, Bool.true_and]
      rw [copyOthers, if_pos hp, hown, others, List.filter_cons_of_neg (by simpa using hp)]
      exact copyOthers_own true _ fun _ _ => h
    · have hown : ownerLeaves roleid (p :: rest) = false := by
        rw [ownerLeaves, List.any_cons, hrest, Bool.or_false, decide_eq_false hp, Bool.false_and]
      have htail : ∀ q ∈ rest, q.isroomctl = false := h
      rw [copyOthers, if_neg hp, if_neg (by decide), copyOthers_member false rest fun _ => htail,
        hown, handOver_false, others, List.filter_cons_of_pos (by simpa using hp)]

theorem Headed.others (h : Headed ps) (roleid : Int) : Headed (others roleid ps) := by
  cases ps with
  | nil => exact h
  | cons p rest =>
    intro q hq
    rw [LeavePaths.others, List.filter_cons] at hq
    split at hq
    · exact h q (List.mem_of_mem_filter hq)
    · exact h q (List.mem_of_mem_filter (List.mem_of_mem_tail hq))

theorem Headed.append (h : Headed ps) (hp : p.isroomctl = false) : Headed (ps ++ [p]) := by
  cases ps with
  | nil => exact fun _ hq => nomatch hq
  | cons x rest =>
    intro q hq
    obtain hin | hin := List.mem_append.mp hq
    · exact h q hin
    · rw [List.mem_singleton.mp hin]
      exact hp

theorem headed_handOver (h : Headed ps) (needed : Bool) : Headed (handOver needed ps).1 := by
  cases ps with
  | nil => exact h
  | cons p rest => cases needed <;> exact h

theorem unflagged_others (h : Headed ps) (hown : ownerLeaves roleid ps = true) {q : PlayerInfo}
    (hq : q ∈ others roleid ps) : q.isroomctl = false := by
  obtain ⟨x, hx, hflag⟩ := List.any_eq_true.mp hown
  simp only [Bool.and_eq_true, decide_eq_true_eq] at hflag
  cases ps with
  | nil => cases hx
  | cons p rest =>
    obtain rfl | hx := List.mem_cons.mp hx
    · rw [others, List.filter_cons_of_neg (by simpa using hflag.1)] at hq
      exact h q (List.mem_of_mem_filter hq)
    · exact absurd hflag.2 (by rw [h x hx]; decide)

theorem stay_eq (h : Headed ps) (via : LeavePath) : (stay via p ps) =
    handOver (if via = .joinRoom then ownerLeaves p.roleid ps else p.isroomctl)
      (others p.roleid ps) := by
  cases via with
  | joinRoom => exact copyOthers_named h
  | leaveRoom => exact copyOthers_entity _
  | keepAlive => exact copyOthers_entity _

end Rosters

section Lobbies

variable {l : Lobby} {ev : Event} {k : Int} {r : RoomInfo} {s t : SOCKET} {p q : PlayerInfo}
  {rest : List PlayerInfo}

theorem allHeaded_apply (hk : Keyed l) (h : AllHeaded l) (hen : l.Enabled ev) :
    AllHeaded (l.apply ev) := by
  intro k r' hr'
  cases room_change hk hen hr' with
  | kept _ hr => exact h k r' hr
  | created s roomname p _ _ _ he =>
    rw [he]
    exact fun _ hx => nomatch hx
  | joined s team teamid via p r _ hr _ _ he =>
    rw [he]
    exact (h k r hr).append (isroomctl_entryOf via s p r team teamid)
  | left s via p r hp hr hlast he =>
    rw [he]
    have hleft := headed_handOver ((h k r hr).others p.roleid)
      (if via = .joinRoom then ownerLeaves p.roleid r.playerinfo else p.isroomctl)
    rw [← stay_eq (h k r hr) via] at hleft
    exact hleft

def Crowned (l : Lobby) (t : SOCKET) : Prop := ∀ f, l.role t = some f → f.isroomctl = true

theorem modify_crowned (h : Crowned l t) : l.modify t (·.set_isroomctl true) = l := by
  have hsame : (l.role t).map (·.set_isroomctl true) = l.role t := by
    cases hf : l.role t with
    | none => rfl
    | some f => rw [Option.map_some, set_isroomctl_owner (h f hf)]
  apply Lobby.ext
  · rfl
  · rw [Lobby.modify, hsame]
    exact Function.update_eq_self t l.role

theorem promoted_eq_iff :
    ((l.promote (some (q.set_isroomctl true))).modify s asIdle).setRoom k
        (some (leftRoom r (q.set_isroomctl true :: rest))) =
      (l.modify s asIdle).setRoom k (some (leftRoom r (q :: rest))) ↔
    q.isroomctl = true ∧ Crowned l q.socket := by
  refine ⟨?_, ?_⟩
  · intro h
    have hroom := congrArg (fun m => (m.room k).map fun r => r.playerinfo.map (·.isroomctl)) h
    have hrole := congrArg (fun m => (m.role q.socket).map (·.isroomctl)) h
    simp only [Lobby.room_setRoom, if_true, Option.map_some, Option.some.injEq] at hroom
    refine ⟨(List.cons.inj hroom).1.symm, ?_⟩
    intro f hf
    have hread := fun m : Lobby => congrFun (Lobby.read_modify_same
      (Option.map fun p : PlayerInfo => p.isroomctl) m s (f := asIdle)
      fun o => by cases o <;> rfl) q.socket
    have hsock : (q.set_isroomctl true).socket = q.socket := rfl
    simp only [Lobby.role_setRoom] at hrole
    rw [hread, hread, Lobby.promote, Lobby.role_modify, hsock, if_pos rfl, hf, Option.map_some,
      Option.map_some, Option.map_some, Option.some_inj] at hrole
    exact hrole.symm
  · rintro ⟨hq, hcrowned⟩
    rw [set_isroomctl_owner hq, Lobby.promote, modify_crowned hcrowned]

/-- The paths agree on who needs an owner, or the member that one of them promotes
is known as the owner already. -/
def Alike (l : Lobby) (p : PlayerInfo) (r : RoomInfo) : Prop :=
  lastLeaves r = true ∨ ∀ q, (others p.roleid r.playerinfo).head? = some q →
    p.isroomctl = ownerLeaves p.roleid r.playerinfo ∨
      p.isroomctl = true ∧ q.isroomctl = true ∧ Crowned l q.socket

theorem leaves_eq_iff (hk : Keyed l) (hh : Headed r.playerinfo) (hp : l.role s = some p)
    (hr : l.room k = some r) :
    l.apply (.leave s k .leaveRoom) = l.apply (.leave s k .joinRoom) ↔ Alike l p r := by
  simp only [Lobby.apply, hp, hr, leaveKey_eq hk hr, Alike]
  by_cases hlast : lastLeaves r = true
  · simp only [hlast, if_true, true_or]
  · simp only [stay_eq hh, hlast, false_or, if_true, reduceCtorEq, if_false, Bool.false_eq_true]
    cases ho : others p.roleid r.playerinfo with
    | nil => simp [handOver]
    | cons q rest =>
      simp only [List.head?_cons, Option.some.injEq, forall_eq']
      cases hb : p.isroomctl <;> cases hb' : ownerLeaves p.roleid r.playerinfo
      · simp
      · have hq := unflagged_others hh hb' (q := q) (by rw [ho]; exact List.mem_cons_self)
        refine iff_of_false ?_ (by simp)
        intro heq
        have hpromoted := (promoted_eq_iff (q := q)).mp heq.symm
        rw [hq] at hpromoted
        exact absurd hpromoted.1 (by decide)
      · simp only [Bool.true_eq_false, false_or, true_and]
        exact promoted_eq_iff
      · simp

end Lobbies

def SameCache (c c' : CCache) : Prop :=
  (∀ k, c.FindEntityRoom k = c'.FindEntityRoom k) ∧ ∀ t, c.GetEntity t = c'.GetEntity t

/-- `LeaveRoom`, the leave of the heartbeat and a join of the own room complete
with the same rooms and entities. -/
def LeavesAgree (s : SOCKET) (req : HallRequest) (c : CCache) : Prop :=
  ∃ c₁ c₂ c₃ o₁ o₂ o₃, HallScene.LeaveRoom s c = .ok (c₁, o₁) ∧
    KeepAlive.LeaveRoom s c = .ok (c₂, o₂) ∧ JoinRoom s req c = .ok (c₃, o₃) ∧
    SameCache c₁ c₂ ∧ SameCache c₁ c₃

/-- The counters delete the room, or nobody stays, or the first who stays has an
entity if the leaver's entity is flagged as owner, and entity and roster agree on
that, or the first who stays is flagged already in both. -/
def FlagsAgree (e : CClientEntity) (r : RoomInfo) (c : CCache) : Prop :=
  lastLeaves r = true ∨ ∀ q, (others e.roleInfo.roleid r.playerinfo).head? = some q →
    (e.roleInfo.isroomctl = true → c.GetEntity q.socket ≠ none) ∧
    (e.roleInfo.isroomctl = ownerLeaves e.roleInfo.roleid r.playerinfo ∨
      e.roleInfo.isroomctl = true ∧ q.isroomctl = true ∧
        ∀ f, c.GetEntity q.socket = some f → f.roleInfo.isroomctl = true)

section Caches

variable {c c' : CCache} {out : Outbox} {s : SOCKET} {req : HallRequest} {r : RoomInfo}
  {e : CClientEntity}

theorem sameCache_iff (h : shells c = shells c') : SameCache c c' ↔ lobby c = lobby c' := by
  refine ⟨?_, ?_⟩
  · rintro ⟨hroom, hentity⟩
    apply Lobby.ext
    · funext k
      exact hroom k
    · funext t
      rw [role_lobby, role_lobby, hentity t]
  · intro hl
    refine ⟨fun k => congrFun (congrArg Lobby.room hl) k, ?_⟩
    intro t
    have hshell := congrFun h t
    have hrole := congrFun (congrArg Lobby.role hl) t
    rw [role_lobby, role_lobby] at hrole
    rw [shells, shells] at hshell
    cases he : c.GetEntity t with
    | none =>
      rw [he] at hshell
      exact (Option.map_eq_none_iff.mp hshell.symm).symm
    | some e =>
      rw [he] at hshell hrole
      obtain ⟨e', he', hsh⟩ := Option.map_eq_some_iff.mp hshell.symm
      rw [he', Option.map_some, Option.map_some, Option.some_inj] at hrole
      rw [he']
      have hwhole : ∀ x : CClientEntity, x = { shell x with roleInfo := x.roleInfo } := fun _ => rfl
      rw [hwhole e, hwhole e', hsh, hrole]

theorem leaveOwnRoom_completes (he : c.GetEntity s = some e)
    (hr : c.FindEntityRoom e.roleInfo.roomid = some r) :
    (∃ c' out, leaveOwnRoom s c = .ok (c', out)) ↔ lastLeaves r = true ∨
      ∀ q, (others e.roleInfo.roleid r.playerinfo).head? = some q →
        e.roleInfo.isroomctl = true → c.GetEntity q.socket ≠ none := by
  simp only [leaveOwnRoom, he, hr, copyOthers_entity]
  by_cases hlast : lastLeaves r = true
  · simp [hlast]
  · simp only [hlast, Bool.false_eq_true, if_false, false_or]
    cases others e.roleInfo.roleid r.playerinfo with
    | nil => simp [handOver]
    | cons q rest =>
      have hsock : (q.set_isroomctl true).socket = q.socket := rfl
      cases hctl : e.roleInfo.isroomctl with
      | false => simp [handOver]
      | true =>
        cases hq : c.GetEntity q.socket with
        | none => simp [handOver, hsock, hq]
        | some f => simp [handOver, hsock, hq]

theorem leaveOwnRoom_lobby (he : c.GetEntity s = some e)
    (hr : c.FindEntityRoom e.roleInfo.roomid = some r) (h : leaveOwnRoom s c = .ok (c', out)) :
    lobby c' = (lobby c).apply (.leave s e.roleInfo.roomid .leaveRoom) := by
  have happ := (leaveOwnRoom_refines .leaveRoom (by decide) h).2
  simpa only [leaveEvent, he, hr] using happ

theorem JoinRoom_member (he : c.GetEntity s = some e)
    (hr : c.FindEntityRoom req.inviteinfo.roomid = some r)
    (hmem : ∃ p ∈ r.playerinfo, p.roleid = e.roleInfo.roleid) : ∃ c' out,
      JoinRoom s req c = .ok (c', out) ∧
      lobby c' = (lobby c).apply (.leave s req.inviteinfo.roomid .joinRoom) := by
  cases hp : r.playerinfo.find? (fun p => p.roleid = e.roleInfo.roleid) with
  | none =>
    obtain ⟨p, hin, hid⟩ := hmem
    exact absurd (decide_eq_true hid) (List.find?_eq_none.mp hp p hin)
  | some p =>
    refine ⟨(leaveNamedRoom s e r p c).1, (leaveNamedRoom s e r p c).2, ?_,
      leaveNamedRoom_lobby he hr⟩
    simp only [JoinRoom, hr, SeatGrid.IdleTeam_ID_eq, he, hp]

theorem crowned_lobby (t : SOCKET) : Crowned (lobby c) t ↔
    ∀ f, c.GetEntity t = some f → f.roleInfo.isroomctl = true := by
  simp only [Crowned, role_lobby, Option.map_eq_some_iff]
  exact ⟨fun h f hf => h _ ⟨f, hf, rfl⟩, by rintro h _ ⟨f, hf, rfl⟩; exact h f hf⟩

theorem flagsAgree_iff : FlagsAgree e r c ↔
    (lastLeaves r = true ∨ ∀ q, (others e.roleInfo.roleid r.playerinfo).head? = some q →
      e.roleInfo.isroomctl = true → c.GetEntity q.socket ≠ none) ∧
    Alike (lobby c) e.roleInfo r := by
  rw [FlagsAgree, Alike, ← or_and_left]
  simp only [crowned_lobby, ← forall_and]

theorem leaves_agree_at (hk : Keyed (lobby c)) (hh : Headed r.playerinfo)
    (he : c.GetEntity s = some e) (hr : c.FindEntityRoom req.inviteinfo.roomid = some r)
    (hown : e.roleInfo.roomid = req.inviteinfo.roomid)
    (hmem : ∃ p ∈ r.playerinfo, p.roleid = e.roleInfo.roleid) :
    LeavesAgree s req c ↔ FlagsAgree e r c := by
  obtain ⟨c₃, o₃, hjoin, hl₃⟩ := JoinRoom_member he hr hmem
  have hr' : c.FindEntityRoom e.roleInfo.roomid = some r := by rw [hown, hr]
  have hsame : ∀ c₁ o₁, leaveOwnRoom s c = .ok (c₁, o₁) →
      (SameCache c₁ c₃ ↔ Alike (lobby c) e.roleInfo r) := by
    intro c₁ o₁ h₁
    have hshells : shells c₁ = shells c₃ := by
      rw [leaveOwnRoom_shells h₁, JoinRoom_shells hjoin]
    rw [sameCache_iff hshells, leaveOwnRoom_lobby he hr' h₁, hl₃, hown]
    exact leaves_eq_iff hk hh (role_of_entity c he) hr
  rw [flagsAgree_iff, ← leaveOwnRoom_completes he hr']
  refine ⟨?_, ?_⟩
  · rintro ⟨c₁, c₂, d, o₁, o₂, o, h₁, h₂, hd, -, hsame₁⟩
    rw [hjoin] at hd
    cases hd
    obtain ⟨o', hown₁⟩ := LeaveRoom_leaves h₁
    exact ⟨⟨c₂, o₂, h₂⟩, (hsame c₁ o' hown₁).mp hsame₁⟩
  · rintro ⟨⟨c₁, o₁, h₁⟩, halike⟩
    have hnotice : HallScene.LeaveRoom s c =
        .ok (c₁, (s, hallPacket { msgtype? := some .HST_LeaveRoom }) :: o₁) := by
      rw [HallScene.LeaveRoom, h₁]
      rfl
    exact ⟨c₁, c₁, c₃, _, o₁, o₃, hnotice, h₁, hjoin, ⟨fun _ => rfl, fun _ => rfl⟩,
      (hsame c₁ o₁ h₁).mpr halike⟩

end Caches

section Runs

variable {DB : Type} {sqlite : Sqlite DB} {db : DB}

theorem allHeaded_empty : AllHeaded emptyLobby := by
  intro k r h
  cases h

theorem keyed_headed {tr : List (Process DB × Action)} {st : Process DB}
    (h : ServerRun sqlite db tr st) : Keyed (lobby st.cache) ∧ AllHeaded (lobby st.cache) :=
  lobby_invariant (I := fun l => Keyed l ∧ AllHeaded l) ⟨keyed_empty, allHeaded_empty⟩
    (fun _ _ hi hen => ⟨keyed_apply hi.1 hen, allHeaded_apply hi.1 hi.2 hen⟩) h

/-- A member leaves its room in the same way by each path exactly if entity and
roster do not disagree about the owner. -/
theorem leaves_agree (tr : List (Process DB × Action)) (st : Process DB) (s : SOCKET)
    (req : HallRequest) (e : CClientEntity) (r : RoomInfo) (h : ServerRun sqlite db tr st)
    (he : st.cache.GetEntity s = some e)
    (hr : st.cache.FindEntityRoom req.inviteinfo.roomid = some r)
    (hown : e.roleInfo.roomid = req.inviteinfo.roomid)
    (hmem : ∃ p ∈ r.playerinfo, p.roleid = e.roleInfo.roleid) :
    LeavesAgree s req st.cache ↔ FlagsAgree e r st.cache :=
  leaves_agree_at (keyed_headed h).1 ((keyed_headed h).2 _ r hr) he hr hown hmem

def annAndOwner : List Action :=
  annMeetsOwner ++ [hall 7 (annJoins .HST_JoinTeam 111111 .Team_B 0)]

def rejoin : HallRequest :=
  { msgtype? := some .HST_JoinRoom, inviteinfo? := some { roomid? := some 111111 } }

structure OwnerLeaves (st : Process Tables) (e : CClientEntity) (r : RoomInfo) : Prop where
  entity : st.cache.GetEntity 8 = some e
  room : st.cache.FindEntityRoom 111111 = some r
  own : e.roleInfo.roomid = 111111
  member : ∃ p ∈ r.playerinfo, p.roleid = e.roleInfo.roleid
  stays : lastLeaves r = false
  heir : (others e.roleInfo.roleid r.playerinfo).head?.map PlayerInfo.socket = some 7
  ann : (st.cache.GetEntity 7).isSome = true
  flagged : ownerLeaves e.roleInfo.roleid r.playerinfo = true

def ownerTest (flag : Bool) (st : Process Tables) : Bool :=
  (st.cache.GetEntity 8).any fun e : CClientEntity =>
    (st.cache.FindEntityRoom 111111).any fun r : RoomInfo =>
      decide (e.roleInfo.isroomctl = flag ∧ e.roleInfo.roomid = 111111 ∧
        (∃ p ∈ r.playerinfo, p.roleid = e.roleInfo.roleid) ∧ lastLeaves r = false ∧
        (others e.roleInfo.roleid r.playerinfo).head?.map PlayerInfo.socket = some 7 ∧
        (st.cache.GetEntity 7).isSome = true ∧
        ownerLeaves e.roleInfo.roleid r.playerinfo = true)

theorem ownerLeaves_of_test {flag : Bool} {st : Process Tables} (h : ownerTest flag st = true) :
    ∃ e r, OwnerLeaves st e r ∧ e.roleInfo.isroomctl = flag := by
  obtain ⟨e, he, hp⟩ := (Option.any_eq_true _ _).mp h
  obtain ⟨r, hr, hp⟩ := (Option.any_eq_true _ _).mp hp
  obtain ⟨hflag, hown, hmem, hlast, hheir, hann, hleaves⟩ := of_decide_eq_true hp
  exact ⟨e, r, ⟨he, hr, hown, hmem, hlast, hheir, hann, hleaves⟩, hflag⟩

theorem owner_syncs : ∃ tr st, ServerRun reference noTablesYet tr st ∧ actions tr = annAndOwner ∧
    ownerTest true st = true ∧
    ∃ tr' st', ServerRun reference noTablesYet tr' st' ∧
      actions tr' = annAndOwner ++ [rsyncAttr 8 {}] ∧ ownerTest false st' = true := by
  obtain ⟨tr, st, hrun, hact, hp⟩ := exists_run reference noTablesYet annAndOwner
    (fun tr st => ownerTest true st &&
      (execute (next reference) [rsyncAttr 8 {}] (tr, st)).any fun y => ownerTest false y.2)
    (by decide +kernel)
  obtain ⟨hflagged, hsynced⟩ := Bool.and_eq_true_iff.mp hp
  obtain ⟨tr', st', hrun', hact', htest⟩ :=
    extended_run hrun [rsyncAttr 8 {}] (fun _ st => ownerTest false st) hsynced
  rw [hact] at hact'
  exact ⟨tr, st, hrun, hact, hflagged, tr', st', hrun', hact', htest⟩

/-- The owner leaves with the flag it got when it created the room. -/
theorem owner_leaves_alike : ∃ tr st, ServerRun reference noTablesYet tr st ∧
    actions tr = annAndOwner ∧
    LeavesAgree 8 rejoin st.cache := by
  obtain ⟨tr, st, hrun, hact, htest, -⟩ := owner_syncs
  obtain ⟨e, r, h, hflag⟩ := ownerLeaves_of_test htest
  refine ⟨tr, st, hrun, hact, (leaves_agree tr st 8 rejoin e r
    hrun h.entity h.room h.own h.member).mpr (.inr ?_)⟩
  intro q hq
  have hheir := h.heir
  rw [hq, Option.map_some, Option.some_inj] at hheir
  refine ⟨?_, .inl (by rw [hflag, h.flagged])⟩
  intro _
  rw [hheir]
  exact Option.isSome_iff_ne_none.mp h.ann

/-- The owner has sent its attributes once, without the flag: only the leave by a
join promotes Ann. -/
theorem synced_owner_leaves_differently : ∃ tr st e r, ServerRun reference noTablesYet tr st ∧
    actions tr = annAndOwner ++ [rsyncAttr 8 {}] ∧ st.cache.GetEntity 8 = some e ∧
    st.cache.FindEntityRoom 111111 = some r ∧ e.roleInfo.roomid = 111111 ∧
    (∃ p ∈ r.playerinfo, p.roleid = e.roleInfo.roleid) ∧
    ¬LeavesAgree 8 rejoin st.cache := by
  obtain ⟨-, -, -, -, -, tr, st, hrun, hact, htest⟩ := owner_syncs
  obtain ⟨e, r, h, hflag⟩ := ownerLeaves_of_test htest
  refine ⟨tr, st, e, r, hrun, hact, h.entity, h.room, h.own, h.member, ?_⟩
  intro hagree
  obtain ⟨hk, hh⟩ := keyed_headed hrun
  have hflags := (@leaves_agree_at st.cache 8 rejoin r e hk
    (hh _ r h.room) h.entity h.room h.own h.member).mp hagree
  obtain hlast | hheir := hflags
  · rw [h.stays] at hlast
    cases hlast
  · obtain ⟨q, hq, -⟩ := Option.map_eq_some_iff.mp h.heir
    obtain ⟨-, hsame | ⟨hctl, -⟩⟩ := hheir q hq
    · rw [hflag, h.flagged] at hsame
      cases hsame
    · rw [hflag] at hctl
      cases hctl

end Runs

end JiraGame.LeavePaths
