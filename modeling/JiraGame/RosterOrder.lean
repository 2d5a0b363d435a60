import JiraGame.RoomChanges
import JiraGame.Runs

namespace JiraGame.RosterOrder

open JiraGame.Scene JiraGame.DBServer JiraGame.HallScene JiraGame.ServerState JiraGame.Server
open JiraGame.RoomTable JiraGame.Refinement JiraGame.RoomChanges JiraGame.Runs
open JiraGame.Lib.History

/-- At most one entry becomes owner, who was none before; the rest is the same. -/
inductive Promoted : List PlayerInfo → List PlayerInfo → Prop
  | same (ps : List PlayerInfo) : Promoted ps ps
  | one (pre : List PlayerInfo) (q : PlayerInfo) (post : List PlayerInfo) :
      q.isroomctl = false → Promoted (pre ++ q :: post) (pre ++ q.set_isroomctl true :: post)

def unmarked (p : PlayerInfo) : PlayerInfo := { p with isroomctl? := none }

theorem Promoted.cons (p : PlayerInfo) {ps qs : List PlayerInfo} (h : Promoted ps qs) :
    Promoted (p :: ps) (p :: qs) := by
  cases h with
  | same => exact .same _
  | one pre q post hq => exact .one (p :: pre) q post hq

theorem set_isroomctl_owner {p : PlayerInfo} (h : p.isroomctl = true) : p.set_isroomctl true = p := by
  have hbit : p.isroomctl? = some true := by
    cases hp : p.isroomctl? with
    | none => simp [PlayerInfo.isroomctl, hp] at h
    | some b => simpa [PlayerInfo.isroomctl, hp] using h
  rw [PlayerInfo.set_isroomctl, ← hbit]

theorem copyOthers_promoted {roleid : Int} {fromRoster : Bool} (isCaptain leader : Bool)
    (ps : List PlayerInfo) : Promoted (ps.filter fun p => p.roleid ≠ roleid)
      (copyOthers roleid fromRoster isCaptain leader ps).1 := by
  induction ps generalizing isCaptain leader with
  | nil => exact .same []
  | cons p ps ih =>
    by_cases hp : p.roleid = roleid
    · rw [copyOthers, if_pos hp, List.filter_cons_of_neg (by simpa using hp)]
      exact ih _ leader
    · rw [copyOthers, if_neg hp, List.filter_cons_of_pos (by simpa using hp)]
      split
      · rw [copyOthers_leader]
        cases hctl : p.isroomctl with
        | true =>
          rw [set_isroomctl_owner hctl]
          exact .same _
        | false => exact .one [] p _ hctl
      · exact (ih isCaptain leader).cons p

theorem stay_promoted (via : LeavePath) (p : PlayerInfo) (ps : List PlayerInfo) :
    Promoted (ps.filter fun q => q.roleid ≠ p.roleid) (stay via p ps).1 := by
  cases via <;> exact copyOthers_promoted _ _ ps

/-- What may happen to a room that stays stored: some entries go, at most one of
the others becomes owner, and at most one entry is appended. -/
structure Succeeds (r r' : RoomInfo) (joins : Prop) : Prop where
  roomid : r'.roomid = r.roomid
  roomname : r'.roomname = r.roomname
  personcount : r'.personcount = r.personcount
  roster : ∃ kept stayed added, kept.Sublist r.playerinfo ∧ Promoted kept stayed ∧
    r'.playerinfo = stayed ++ added ∧ added.length ≤ 1 ∧ (added ≠ [] → joins)

variable {l : Lobby} {ev : Event} {k : Int} {r r' : RoomInfo}

theorem Succeeds.refl (r : RoomInfo) (joins : Prop) : Succeeds r r joins where
  roomid := rfl
  roomname := rfl
  personcount := rfl
  roster := ⟨r.playerinfo, r.playerinfo, [], List.Sublist.refl _, .same _,
    (List.append_nil _).symm, Nat.zero_le 1, fun h => absurd rfl h⟩

theorem succeeds_joined (r : RoomInfo) (entry : PlayerInfo) {joins : Prop} (hj : joins) :
    Succeeds r (joined r entry) joins where
  roomid := rfl
  roomname := rfl
  personcount := rfl
  roster := ⟨r.playerinfo, r.playerinfo, [entry], List.Sublist.refl _, .same _, rfl,
    Nat.le_refl 1, fun _ => hj⟩

theorem succeeds_left (r : RoomInfo) (via : LeavePath) (p : PlayerInfo) (joins : Prop) :
    Succeeds r (leftRoom r (stay via p r.playerinfo).1) joins where
  roomid := rfl
  roomname := rfl
  personcount := rfl
  roster := ⟨_, _, [], List.filter_sublist, stay_promoted via p r.playerinfo,
    (List.append_nil _).symm, Nat.zero_le 1, fun h => absurd rfl h⟩

theorem room_succeeds (hk : Keyed l) (hen : l.Enabled ev) (hr : l.room k = some r)
    (hr' : (l.apply ev).room k = some r') :
    Succeeds r r' (∃ s team teamid via, ev = .join s k team teamid via) := by
  cases room_change hk hen hr' with
  | kept _ h =>
    rw [hr, Option.some.injEq] at h
    subst h
    exact Succeeds.refl r _
  | created s roomname p _ hnew _ _ =>
    rw [hr] at hnew
    cases hnew
  | joined s team teamid via p r₁ _ hr₁ _ _ he =>
    rw [hr, Option.some.injEq] at hr₁
    subst hr₁
    rw [he]
    exact succeeds_joined r _ ⟨s, team, teamid, via, rfl⟩
  | left s via p r₁ _ hr₁ _ he =>
    rw [hr, Option.some.injEq] at hr₁
    subst hr₁
    rw [he]
    exact succeeds_left r via p _

section History

/-- The entries that joined the room stored under each key since it was created,
in the order of the joins. -/
def enlist (o : Int → List PlayerInfo) (l : Lobby) : Event → Int → List PlayerInfo
  | .create s id _ =>
    match l.room id, l.role s with
    | none, some p => Function.update o id [ownerEntry s p]
    | _, _ => o
  | .join s k team teamid via =>
    match l.room k, l.role s with
    | some r, some p => Function.update o k (o k ++ [entryOf via s p r team teamid])
    | _, _ => o
  | _ => o

def InJoinOrder (o : Int → List PlayerInfo) (l : Lobby) : Prop :=
  ∀ k r, l.room k = some r → (r.playerinfo.map unmarked).Sublist ((o k).map unmarked)

theorem enlist_grows {o : Int → List PlayerInfo} (hr : l.room k = some r) :
    (o k).Sublist (enlist o l ev k) := by
  cases ev with
  | create s id roomname =>
    by_cases hk : k = id
    · subst hk
      simp only [enlist, hr]
      exact List.Sublist.refl _
    · simp only [enlist]
      cases l.room id <;> cases l.role s <;> simp only [Function.update_of_ne hk, List.Sublist.refl]
  | join s j team teamid via =>
    simp only [enlist]
    cases l.room j with
    | none => exact List.Sublist.refl _
    | some r₁ =>
      cases l.role s with
      | none => exact List.Sublist.refl _
      | some p =>
        by_cases hk : k = j
        · subst hk
          dsimp only
          rw [Function.update_self]
          exact List.sublist_append_left _ _
        · dsimp only
          rw [Function.update_of_ne hk]
  | _ => exact List.Sublist.refl _

theorem inJoinOrder_apply {o : Int → List PlayerInfo} (hk : Keyed l) (h : InJoinOrder o l)
    (hen : l.Enabled ev) : InJoinOrder (enlist o l ev) (l.apply ev) := by
  intro k r' hr'
  cases room_change hk hen hr' with
  | kept _ hr => exact (h k r' hr).trans ((enlist_grows hr).map unmarked)
  | created s roomname p hp hnew _ he =>
    simp only [enlist, hnew, hp, Function.update_self, he]
    exact List.Sublist.refl _
  | joined s team teamid via p r hp hr _ _ he =>
    simp only [enlist, hr, hp, Function.update_self, he]
    rw [joined, RoomInfo.add_playerinfo, List.map_append, List.map_append]
    exact (h k r hr).append (List.Sublist.refl _)
  | left s via p r _ hr _ he =>
    rw [he]
    have hstay : (stay via p r.playerinfo).1.map unmarked =
        (r.playerinfo.filter fun q => q.roleid ≠ p.roleid).map unmarked :=
      map_stay unmarked (fun _ => rfl) via p r.playerinfo
    have hsub := (List.filter_sublist (p := fun q => q.roleid ≠ p.roleid) (l := r.playerinfo)).map
      unmarked
    rw [leftRoom, hstay]
    exact hsub.trans (h k r hr)

theorem inJoinOrder_empty (o : Int → List PlayerInfo) : InJoinOrder o emptyLobby := by
  intro k r h
  cases h

end History

variable {DB : Type} {sqlite : Sqlite DB} {db : DB}

/-- Every roster lists its members in the order in which they joined, and a step
alters a room that stays stored by leaves, one change of owner and one join. -/
theorem rosters_in_join_order (tr : List (Process DB × Action)) (st st' : Process DB) (a : Action)
    (h : ServerRun sqlite db tr st) (hstep : Steps sqlite st a st') :
    InJoinOrder (seen sqlite (fun _ => []) enlist tr) (lobby st.cache) ∧
      ∀ k r r', st.cache.FindEntityRoom k = some r → st'.cache.FindEntityRoom k = some r' →
        Succeeds r r' (∃ s team teamid via, event sqlite st a = .join s k team teamid via) := by
  refine ⟨?_, ?_⟩
  · exact seen_invariant (C := fun _ _ => True) keyed_empty (fun _ _ => keyed_apply)
      (inJoinOrder_empty _) (fun _ _ _ hk hi _ hen => inJoinOrder_apply hk hi hen) h
      (fun _ _ => trivial)
  · intro k r r' hr hr'
    obtain ⟨out, hstep⟩ := hstep
    obtain ⟨hen, happ⟩ := step_refines hstep
    have hk : Keyed (lobby st.cache) := lobby_invariant keyed_empty (fun _ _ => keyed_apply) h
    rw [← room_lobby, happ] at hr'
    exact room_succeeds hk hen hr hr'

/-- The second member of a room is listed after its owner. -/
theorem second_member_in_join_order : ∃ tr st st', ServerRun noTables () tr st ∧
    actions tr = [.accept 7 0, createRoom 7, .accept 8 0] ∧
    Steps noTables st (joinTeam 8 111111 .Team_B 0) st' ∧
    InJoinOrder (seen noTables (fun _ => []) enlist tr) (lobby st.cache) ∧
    ∃ r r', st.cache.FindEntityRoom 111111 = some r ∧ st'.cache.FindEntityRoom 111111 = some r' ∧
      Succeeds r r' (∃ s team teamid via,
        event noTables st (joinTeam 8 111111 .Team_B 0) = .join s 111111 team teamid via) := by
  obtain ⟨tr, st, st', hrun, hact, hstep, hrooms⟩ := exists_step noTables ()
    [.accept 7 0, createRoom 7, .accept 8 0] (joinTeam 8 111111 .Team_B 0)
    (fun st st' => (st.cache.FindEntityRoom 111111).isSome &&
      (st'.cache.FindEntityRoom 111111).isSome) (by decide +kernel)
  simp only [Bool.and_eq_true, Option.isSome_iff_exists] at hrooms
  obtain ⟨⟨r, hr⟩, r', hr'⟩ := hrooms
  obtain ⟨horder, hsucc⟩ := rosters_in_join_order tr st st' _ hrun hstep
  exact ⟨tr, st, st', hrun, hact, hstep, horder, r, r', hr, hr', hsucc 111111 r r' hr hr'⟩

end JiraGame.RosterOrder
