import JiraGame.RoomChanges
import JiraGame.Runs
import JiraGame.Lib.Seniority

namespace JiraGame.Ownership

open JiraGame.Scene JiraGame.DBServer JiraGame.HallScene JiraGame.ServerState JiraGame.Server
open JiraGame.RoomTable JiraGame.Refinement JiraGame.RoomChanges JiraGame.Runs
open JiraGame.Lib.History JiraGame.Lib.Seniority

/-- The step at which each roster entry joined; `now` is the number of steps. -/
structure Ages where
  now : Nat := 0
  stamps : Int → List Nat := fun _ => []

/-- An observer stamps each entry with the step that appends it and drops the
stamps of the entries that a leave strikes. -/
def Ages.see (g : Ages) (l : Lobby) (ev : Event) : Ages where
  now := g.now + 1
  stamps :=
    match ev with
    | .create _ id _ =>
      if l.room id = none then Function.update g.stamps id [g.now] else g.stamps
    | .join _ k _ _ _ => Function.update g.stamps k (g.stamps k ++ [g.now])
    | .leave s k _ =>
      match l.room k, l.role s with
      | some r, some p =>
        Function.update g.stamps k (if lastLeaves r then []
          else keep (fun q => q.roleid ≠ p.roleid) r.playerinfo (g.stamps k))
      | _, _ => g.stamps
    | .gameOver _ k => Function.update g.stamps k []
    | _ => g.stamps

def AllAligned (g : Ages) (l : Lobby) : Prop := ∀ k, Aligned g.now (roster l k) (g.stamps k)

def AllLed (l : Lobby) : Prop :=
  ∀ k r, l.room k = some r → FirstFlagged PlayerInfo.isroomctl r.playerinfo

/-- A leave that keeps the room keeps a member, and an owner who leaves by
`LeaveRoom` or the heartbeat has the flag in its role info as well. -/
def HandsOver (l : Lobby) : Event → Prop
  | .leave s k via => ∀ p r, l.role s = some p → l.room k = some r → lastLeaves r = false →
      (∃ q ∈ r.playerinfo, q.roleid ≠ p.roleid) ∧
        (via ≠ .joinRoom → ∀ q ∈ r.playerinfo, q.isroomctl = true → q.roleid = p.roleid →
          p.isroomctl = true)
  | _ => True

variable {l : Lobby} {ev : Event} {k : Int} {r : RoomInfo}

section Stamps

variable {g : Ages}

theorem allAligned_see (hk : Keyed l) (h : AllAligned g l) (hen : l.Enabled ev) :
    AllAligned (g.see l ev) (l.apply ev) := by
  have hsame : roster (l.apply ev) = roster l → (g.see l ev).stamps = g.stamps →
      AllAligned (g.see l ev) (l.apply ev) := by
    intro hroster hstamps k
    rw [hroster, hstamps]
    exact (h k).wait
  cases ev with
  | create s id roomname =>
    obtain ⟨p, hp, -⟩ := hen
    by_cases hnew : l.room id = none
    · intro k
      have hstamps : (g.see l (.create s id roomname)).stamps = Function.update g.stamps id [g.now] :=
        if_pos hnew
      rw [roster_create hp, if_pos hnew, hstamps]
      exact aligned_update h id ((aligned_nil g.now).append _) k
    · apply hsame
      · rw [roster_create hp, if_neg hnew]
      · exact if_neg hnew
  | join s i team teamid via =>
    obtain ⟨p, r, hp, hr, -⟩ := hen
    intro k
    rw [roster_join hp hr]
    exact aligned_update h i ((h i).append _) k
  | leave s i via =>
    obtain ⟨p, r, hp, hr, -⟩ := hen
    intro k
    have hstamps : (g.see l (.leave s i via)).stamps = Function.update g.stamps i
        (if lastLeaves r then [] else keep (fun q => q.roleid ≠ p.roleid) r.playerinfo
          (g.stamps i)) := by
      simp only [Ages.see, hp, hr]
    rw [roster_leave hk hp hr, hstamps, roster_of_room hr]
    apply aligned_update h i
    split
    · exact aligned_nil _
    · have hi := h i
      rw [roster_of_room hr] at hi
      exact (hi.keep _).wait.congr (length_stay_filter via p r.playerinfo)
  | gameOver s i =>
    intro k
    rw [roster_over]
    exact aligned_update h i (aligned_nil _) k
  | _ => exact hsame (roster_congr rfl) rfl

theorem allAligned_start : AllAligned {} emptyLobby := fun _ => aligned_nil 0

end Stamps

section Led

variable {p q : PlayerInfo} {rest : List PlayerInfo} {via : LeavePath}

theorem stay_owner_stays (hq : q.roleid ≠ p.roleid) (hrest : ∀ x ∈ rest, x.isroomctl = false) :
    ∃ q', (q' = q ∨ q' = q.set_isroomctl true) ∧
      (stay via p (q :: rest)).1 = q' :: rest.filter fun x => x.roleid ≠ p.roleid := by
  have hown : ∀ isCaptain, ∃ q', (q' = q ∨ q' = q.set_isroomctl true) ∧
      (copyOthers p.roleid false isCaptain false (q :: rest)).1 =
        q' :: rest.filter fun x => x.roleid ≠ p.roleid := by
    intro isCaptain
    cases isCaptain with
    | true =>
      refine ⟨q.set_isroomctl true, .inr rfl, ?_⟩
      rw [copyOthers, if_neg hq, if_pos (by decide), copyOthers_leader]
    | false =>
      refine ⟨q, .inl rfl, ?_⟩
      rw [copyOthers, if_neg hq, if_neg (by decide), copyOthers_member _ _ (by simp)]
  cases via with
  | leaveRoom => exact hown p.isroomctl
  | keepAlive => exact hown p.isroomctl
  | joinRoom =>
    refine ⟨q, .inl rfl, ?_⟩
    rw [stay, copyOthers, if_neg hq, if_neg (by decide), copyOthers_member _ _ fun _ => hrest]

theorem stay_owner_leaves (hq : q.roleid = p.roleid) (hflag : q.isroomctl = true) :
    ∃ fromRoster, (stay via p (q :: rest)).1 =
      (copyOthers p.roleid fromRoster (via = .joinRoom || p.isroomctl) false rest).1 := by
  have hown : (copyOthers p.roleid false p.isroomctl false (q :: rest)).1 =
      (copyOthers p.roleid false p.isroomctl false rest).1 := by
    rw [copyOthers, if_pos hq, Bool.false_and, Bool.or_false]
  cases via with
  | leaveRoom => exact ⟨false, hown⟩
  | keepAlive => exact ⟨false, hown⟩
  | joinRoom =>
    refine ⟨true, ?_⟩
    rw [stay, copyOthers, if_pos hq, hflag]
    rfl

theorem unflagged_filter (hrest : ∀ x ∈ rest, x.isroomctl = false) (f : PlayerInfo → Bool) :
    ∀ x ∈ rest.filter f, x.isroomctl = false :=
  fun x hx => hrest x (List.mem_of_mem_filter hx)

theorem firstFlagged_captain_iff {fromRoster : Bool} (hrest : ∀ x ∈ rest, x.isroomctl = false) :
    FirstFlagged PlayerInfo.isroomctl (copyOthers p.roleid fromRoster true false rest).1 ↔
      ∃ x ∈ rest, x.roleid ≠ p.roleid := by
  rw [copyOthers_captain]
  have hun := unflagged_filter hrest fun x => x.roleid ≠ p.roleid
  cases hf : rest.filter fun x => x.roleid ≠ p.roleid with
  | nil =>
    have hnone : ¬ ∃ x ∈ rest, x.roleid ≠ p.roleid := by
      rintro ⟨x, hx, hne⟩
      have hin : x ∈ rest.filter fun x => x.roleid ≠ p.roleid :=
        List.mem_filter.mpr ⟨hx, by simpa using hne⟩
      rw [hf] at hin
      cases hin
    exact ⟨fun h => h.elim, fun h => absurd h hnone⟩
  | cons x xs =>
    rw [hf] at hun
    have hx : x ∈ rest.filter fun x => x.roleid ≠ p.roleid := by
      rw [hf]
      exact List.mem_cons_self
    obtain ⟨hmem, hne⟩ := List.mem_filter.mp hx
    refine ⟨?_, ?_⟩
    · intro _
      exact ⟨x, hmem, by simpa using hne⟩
    · intro _
      exact ⟨rfl, fun y hy => hun y (List.mem_cons_of_mem _ hy)⟩

/-- A leave keeps a led roster led exactly when somebody stays and an owner who
leaves is known to be the owner. -/
theorem firstFlagged_stay_iff {ps : List PlayerInfo} (h : FirstFlagged PlayerInfo.isroomctl ps) :
    FirstFlagged PlayerInfo.isroomctl (stay via p ps).1 ↔
      (∃ q ∈ ps, q.roleid ≠ p.roleid) ∧ (via ≠ .joinRoom → ∀ q ∈ ps, q.isroomctl = true →
        q.roleid = p.roleid → p.isroomctl = true) := by
  cases ps with
  | nil => exact h.elim
  | cons q rest =>
    obtain ⟨hflag, hrest⟩ := h
    have hown : ∀ x ∈ q :: rest, x.isroomctl = true → x = q := by
      intro x hx hxf
      obtain rfl | hx := List.mem_cons.mp hx
      · rfl
      · rw [hrest x hx] at hxf
        cases hxf
    by_cases hq : q.roleid = p.roleid
    · have hsome : (∃ x ∈ q :: rest, x.roleid ≠ p.roleid) ↔ ∃ x ∈ rest, x.roleid ≠ p.roleid := by
        simp [hq]
      have hknown : (via ≠ .joinRoom → ∀ x ∈ q :: rest, x.isroomctl = true →
          x.roleid = p.roleid → p.isroomctl = true) ↔
          (decide (via = .joinRoom) || p.isroomctl) = true := by
        refine ⟨?_, ?_⟩
        · intro hall
          by_cases hvia : via = .joinRoom
          · simp [hvia]
          · simp [hall hvia q List.mem_cons_self hflag hq]
        · intro hor hvia x hx hxf hxid
          simpa [hvia] using hor
      obtain ⟨fromRoster, hstay⟩ := @stay_owner_leaves p q rest via hq hflag
      rw [hstay, hsome, hknown]
      cases hcap : (decide (via = .joinRoom) || p.isroomctl) with
      | true =>
        rw [firstFlagged_captain_iff hrest]
        exact ⟨fun h => ⟨h, rfl⟩, fun h => h.1⟩
      | false =>
        rw [copyOthers_member _ _ fun _ => hrest]
        refine ⟨?_, ?_⟩
        · intro hfirst
          exact absurd hfirst (not_firstFlagged (unflagged_filter hrest _))
        · rintro ⟨-, hfalse⟩
          cases hfalse
    · obtain ⟨q', hq', hstay⟩ := @stay_owner_stays p q rest via hq hrest
      have hflag' : q'.isroomctl = true := by
        obtain rfl | rfl := hq'
        · exact hflag
        · rfl
      rw [hstay]
      refine ⟨?_, ?_⟩
      · intro _
        refine ⟨⟨q, List.mem_cons_self, hq⟩, ?_⟩
        intro _ x hx hxf hxid
        rw [hown x hx hxf] at hxid
        exact absurd hxid hq
      · intro _
        exact ⟨hflag', unflagged_filter hrest _⟩

theorem isroomctl_entryOf (via : JoinPath) (s : SOCKET) (p : PlayerInfo) (r : RoomInfo)
    (team : TeamType) (teamid : Int) : (entryOf via s p r team teamid).isroomctl = false := by
  cases via <;> rfl

theorem allLed_apply_iff (hk : Keyed l) (h : AllLed l) (hen : l.Enabled ev) :
    AllLed (l.apply ev) ↔ HandsOver l ev := by
  refine ⟨?_, ?_⟩
  · intro hafter
    cases ev with
    | leave s k via =>
      intro p r hp hr hlast
      have hroom : (l.apply (.leave s k via)).room k = some (leftRoom r (stay via p r.playerinfo).1) :=
        room_leave hk hp hr (by simp [hlast])
      exact (firstFlagged_stay_iff (h k r hr)).mp (hafter k _ hroom)
    | _ => trivial
  · intro hover k r' hr'
    cases room_change hk hen hr' with
    | kept _ hr => exact h k r' hr
    | created s roomname p _ _ _ he =>
      rw [he]
      exact ⟨rfl, fun x hx => nomatch hx⟩
    | joined s team teamid via p r _ hr _ _ he =>
      rw [he]
      exact (h k r hr).append (isroomctl_entryOf via s p r team teamid)
    | left s via p r hp hr hlast he =>
      rw [Bool.not_eq_true] at hlast
      rw [he]
      exact (firstFlagged_stay_iff (h k r hr)).mpr (hover p r hp hr hlast)

end Led

theorem allLed_empty : AllLed emptyLobby := by
  intro k r h
  cases h

section Run

variable {DB : Type} {sqlite : Sqlite DB} {db : DB}

def ages (sqlite : Sqlite DB) (tr : List (Process DB × Action)) : Ages := seen sqlite {} Ages.see tr

theorem allAligned_run {tr : List (Process DB × Action)} {st : Process DB}
    (h : ServerRun sqlite db tr st) : AllAligned (ages sqlite tr) (lobby st.cache) :=
  seen_invariant (I := AllAligned) (C := fun _ _ => True) keyed_empty (fun _ _ => keyed_apply)
    allAligned_start (fun _ _ _ hk hi _ hen => allAligned_see hk hi hen) h (fun _ _ => trivial)

/-- Every room has exactly one owner, the member who joined first, throughout a
run exactly when every leave hands the ownership over. -/
theorem eldest_owns_iff_handsOver (tr : List (Process DB × Action)) (st : Process DB)
    (h : ServerRun sqlite db tr st) :
    (∀ x ∈ points tr st, ∀ k r, x.2.cache.FindEntityRoom k = some r →
        EldestFlagged PlayerInfo.isroomctl r.playerinfo ((ages sqlite x.1).stamps k)) ↔
      ∀ x ∈ tr, HandsOver (lobby x.1.cache) (event sqlite x.1 x.2) := by
  rw [← lobby_always_iff (I := AllLed) keyed_empty (fun _ _ => keyed_apply) allLed_empty
    (fun _ _ => allLed_apply_iff) h]
  refine forall₂_congr fun x hx => forall₃_congr fun k r hr => ?_
  have halign := allAligned_run (h.of_mem_points x hx) k
  rw [roster_of_room hr] at halign
  exact halign.eldest_iff

theorem eldest_owns_after_joining : ∃ tr st, ServerRun noTables () tr st ∧
    actions tr = [.accept 7 0, createRoom 7, .accept 8 0, joinTeam 8 111111 .Team_B 0] ∧
    ((∀ x ∈ points tr st, ∀ k r, x.2.cache.FindEntityRoom k = some r →
        EldestFlagged PlayerInfo.isroomctl r.playerinfo ((ages noTables x.1).stamps k)) ↔
      ∀ x ∈ tr, HandsOver (lobby x.1.cache) (event noTables x.1 x.2)) := by
  obtain ⟨tr, st, hrun, hact, -⟩ := exists_run noTables ()
    [.accept 7 0, createRoom 7, .accept 8 0, joinTeam 8 111111 .Team_B 0] (fun _ _ => true)
    (by decide +kernel)
  exact ⟨tr, st, hrun, hact, eldest_owns_iff_handsOver tr st hrun⟩

/-- The leave of one of two clients with the role id 0 leaves a room without
owner. -/
theorem leave_without_owner : ∃ tr st, ServerRun noTables () tr st ∧
    actions tr = [.accept 7 0, createRoom 7, .accept 8 0, joinTeam 8 111111 .Team_B 0,
      leaveRoom 7] ∧
    ∃ r, st.cache.FindEntityRoom 111111 = some r ∧
      ¬ EldestFlagged PlayerInfo.isroomctl r.playerinfo ((ages noTables tr).stamps 111111) := by
  obtain ⟨tr, st, hrun, hact, r, hr, hq⟩ := exists_room_run noTables ()
    [.accept 7 0, createRoom 7, .accept 8 0, joinTeam 8 111111 .Team_B 0, leaveRoom 7] 111111
    (fun r => decide (r.playerinfo = [])) (by decide +kernel)
  refine ⟨tr, st, hrun, hact, r, hr, ?_⟩
  rintro ⟨hcount, -⟩
  rw [of_decide_eq_true hq] at hcount
  cases hcount

end Run

end JiraGame.Ownership
