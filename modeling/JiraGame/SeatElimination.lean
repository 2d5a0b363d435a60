import JiraGame.Lib.Iterators
import JiraGame.Refinement

namespace JiraGame.SeatElimination

open JiraGame.Scene JiraGame.Command JiraGame.Cache JiraGame.HallScene JiraGame.SeatGrid
open JiraGame.RoomTable JiraGame.Refinement JiraGame.Lib.EraseLoop JiraGame.Lib.Iterators

/-- `team()` and `teamid()` of a roster entry, any integers. -/
structure Place where
  team : Int
  teamid : Int
deriving DecidableEq

def place (p : PlayerInfo) : Place := ⟨p.team.toInt, p.teamid⟩

/-- The loop over `idleTeam->second`. -/
def seatLoop (teamid : Int) (second : List Int) : Option (List Int) :=
  walk (eraseTurn teamid) (2 * second.length + 2) second .first

/-- The loop over `IdleTeam_ID` for one entry of the roster. -/
def teamLoop (idle : List (Int × List Int)) (p : Place) : Option (List (Int × List Int)) :=
  walk (eraseKeyTurn (p.team - 1) (seatLoop p.teamid)) (2 * idle.length + 2) idle .first

def IdleTeam_ID (roster : List Place) : Option (List (Int × List Int)) :=
  roster.foldlM teamLoop allIdle

/-- The seat that a join takes from the front of the map. -/
def assigned (idle : List (Int × List Int)) : Option Place :=
  match idle with
  | (first, pos :: _) :: _ => some ⟨first + 1, pos⟩
  | _ => none

/-- The test of `JoinTeam`: the loop breaks at the first entry on the seat. -/
def JoinRoomState (team teamid : Int) : List Place → Bool
  | [] => true
  | p :: ps => if p.team = team ∧ p.teamid = teamid then false else JoinRoomState team teamid ps

def idlePlaces (roster : List Place) : List (Int × List Int) :=
  [0, 1].filterMap fun t =>
    let js := [0, 1, 2].filter fun j => (⟨t + 1, j⟩ : Place) ∉ roster
    if js = [] then none else some (t, js)

def grid : List Place := [⟨1, 0⟩, ⟨1, 1⟩, ⟨1, 2⟩, ⟨2, 0⟩, ⟨2, 1⟩, ⟨2, 2⟩]

def Place.le (p q : Place) : Prop := p.team < q.team ∨ p.team = q.team ∧ p.teamid ≤ q.teamid

instance (p q : Place) : Decidable (p.le q) :=
  inferInstanceAs (Decidable (p.team < q.team ∨ p.team = q.team ∧ p.teamid ≤ q.teamid))

/-- `q` is the least seat of the grid that nobody of the roster has. -/
def LeastFree (roster : List Place) (q : Place) : Prop :=
  q ∈ grid ∧ q ∉ roster ∧ ∀ q' ∈ grid, q' ∉ roster → q.le q'

section Loops

variable (roster : List Place)

theorem teamLoop_eq (idle : List (Int × List Int)) (p : Place) :
    teamLoop idle p = eraseEntry idle (p.team - 1, p.teamid) := by
  have hseat : seatLoop p.teamid = fun v => eraseScan p.teamid (2 * v.length + 2) v 0 := by
    funext v
    exact walk_eraseScan p.teamid (Nat.zero_le _)
  rw [teamLoop, hseat]
  exact walk_eraseKeyScan _ _ (Nat.zero_le _)

theorem rest_eq (t : Int) :
    rest (roster.map fun p => (p.team - 1, p.teamid)) (t, ([0, 1, 2] : List Int)) =
      [0, 1, 2].filter fun j => (⟨t + 1, j⟩ : Place) ∉ roster := by
  apply List.filter_congr
  intro j _
  have hmem : (t, j) ∈ roster.map (fun p => (p.team - 1, p.teamid)) ↔
      (⟨t + 1, j⟩ : Place) ∈ roster := by
    rw [List.mem_map]
    refine ⟨?_, fun h => ⟨_, h, by simp⟩⟩
    rintro ⟨p, hp, heq⟩
    obtain ⟨rfl, rfl⟩ := Prod.mk.inj heq
    rwa [Int.sub_add_cancel]
  exact decide_eq_decide.mpr (not_congr hmem)

theorem remaining_eq :
    remaining allIdle (roster.map fun p => (p.team - 1, p.teamid)) = idlePlaces roster := by
  rw [remaining, allIdle, idlePlaces]
  simp only [List.filterMap_cons, List.filterMap_nil, rest_eq]

theorem IdleTeam_ID_eq : IdleTeam_ID roster = some (idlePlaces roster) := by
  have h := foldlM_eraseEntry (m := allIdle) (roster.map fun p => (p.team - 1, p.teamid))
    (by decide) (by decide) (by decide)
  rw [List.foldlM_map, remaining_eq] at h
  rw [← h, IdleTeam_ID]
  congr 1
  funext idle p
  exact teamLoop_eq idle p

end Loops

section Seats

variable {roster : List Place} {q : Place}

theorem mem_idlePlaces {t : Int} {js : List Int} : (t, js) ∈ idlePlaces roster ↔
    (t = 0 ∨ t = 1) ∧ js ≠ [] ∧ js = [0, 1, 2].filter fun j => (⟨t + 1, j⟩ : Place) ∉ roster := by
  rw [idlePlaces, List.mem_filterMap]
  refine ⟨?_, ?_⟩
  · rintro ⟨u, hu, h⟩
    dsimp only at h
    split at h
    · cases h
    · rename_i hne
      cases h
      exact ⟨by simpa using hu, hne, rfl⟩
  · rintro ⟨ht, hne, rfl⟩
    exact ⟨t, by simpa using ht, if_neg hne⟩

theorem idle_iff (hq : q ∈ grid) :
    (∃ js, (q.team - 1, js) ∈ idlePlaces roster ∧ q.teamid ∈ js) ↔ q ∉ roster := by
  have hpos : (q.team - 1 = 0 ∨ q.team - 1 = 1) ∧ q.teamid ∈ ([0, 1, 2] : List Int) := by
    revert q
    decide
  have hteam : (⟨q.team - 1 + 1, q.teamid⟩ : Place) = q := by rw [Int.sub_add_cancel]
  refine ⟨?_, ?_⟩
  · rintro ⟨js, hjs, hj⟩
    obtain ⟨-, -, rfl⟩ := mem_idlePlaces.mp hjs
    have hfree := (List.mem_filter.mp hj).2
    rw [hteam] at hfree
    exact of_decide_eq_true hfree
  · intro hfree
    have hj : q.teamid ∈ [0, 1, 2].filter fun j => (⟨q.team - 1 + 1, j⟩ : Place) ∉ roster := by
      rw [List.mem_filter, hteam]
      exact ⟨hpos.2, decide_eq_true hfree⟩
    exact ⟨_, mem_idlePlaces.mpr ⟨hpos.1, List.ne_nil_of_mem hj, rfl⟩, hj⟩

theorem idlePlaces_eq_nil_iff : idlePlaces roster = [] ↔ ∀ q ∈ grid, q ∈ roster := by
  refine ⟨?_, ?_⟩
  · intro h q hq
    by_contra hfree
    obtain ⟨js, hjs, -⟩ := (idle_iff hq).mpr hfree
    rw [h] at hjs
    cases hjs
  · intro h
    rw [List.eq_nil_iff_forall_not_mem]
    rintro ⟨t, js⟩ hjs
    obtain ⟨ht, hne, rfl⟩ := mem_idlePlaces.mp hjs
    obtain ⟨j, hj⟩ := List.exists_mem_of_ne_nil _ hne
    obtain ⟨hpos, hfree⟩ := List.mem_filter.mp hj
    have hin : (⟨t + 1, j⟩ : Place) ∈ grid := by
      simp only [List.mem_cons, List.not_mem_nil, or_false] at hpos
      rcases ht with rfl | rfl <;> rcases hpos with rfl | rfl | rfl <;> decide
    exact of_decide_eq_true hfree (h _ hin)

theorem assigned_filterMap (free : Place → Bool) (ts js : List Int) :
    assigned (ts.filterMap fun t =>
      if js.filter (fun j => free ⟨t + 1, j⟩) = [] then none
      else some (t, js.filter fun j => free ⟨t + 1, j⟩)) =
    (ts.flatMap fun t => js.map fun j => (⟨t + 1, j⟩ : Place)).find? free := by
  induction ts with
  | nil => rfl
  | cons t ts ih =>
    have hfirst : (js.map fun j => (⟨t + 1, j⟩ : Place)).find? free =
        (js.filter fun j => free ⟨t + 1, j⟩).head?.map fun j => ⟨t + 1, j⟩ := by
      rw [List.find?_map, List.head?_filter]
      rfl
    rw [List.flatMap_cons, List.find?_append, hfirst]
    cases h : js.filter fun j => free ⟨t + 1, j⟩ with
    | nil =>
      rw [List.filterMap_cons_none (by rw [if_pos h]), ih]
      rfl
    | cons j more =>
      rw [List.filterMap_cons_some (by rw [h, if_neg (List.cons_ne_nil _ _)])]
      rfl

/-- The front of the map is the first free seat of the grid. -/
theorem assigned_eq : assigned (idlePlaces roster) = grid.find? fun q => q ∉ roster :=
  assigned_filterMap (fun q => q ∉ roster) [0, 1] [0, 1, 2]

theorem LeastFree.unique {q' : Place} (h : LeastFree roster q) (h' : LeastFree roster q') :
    q = q' := by
  have hle := h.2.2 q' h'.1 h'.2.1
  have hge := h'.2.2 q h.1 h.2.1
  obtain ⟨t, j⟩ := q
  obtain ⟨t', j'⟩ := q'
  simp only [Place.le, Place.mk.injEq] at hle hge ⊢
  omega

theorem sorted_grid : grid.Pairwise Place.le := by decide

theorem le_refl (q : Place) : q.le q := .inr ⟨rfl, Int.le_refl _⟩

theorem assigned_iff : assigned (idlePlaces roster) = some q ↔ LeastFree roster q := by
  have hleast : ∀ q, assigned (idlePlaces roster) = some q → LeastFree roster q := by
    intro q h
    rw [assigned_eq, List.find?_eq_some_iff_append] at h
    obtain ⟨hfree, before, behind, hgrid, hbefore⟩ := h
    refine ⟨by rw [hgrid]; simp, of_decide_eq_true hfree, ?_⟩
    intro q' hq' hfree'
    have hsorted := sorted_grid
    rw [hgrid] at hq' hsorted
    obtain hin | hin := List.mem_append.mp hq'
    · have htaken := hbefore q' hin
      simp [hfree'] at htaken
    · obtain rfl | hin := List.mem_cons.mp hin
      · exact le_refl q'
      · exact (List.pairwise_cons.mp (List.pairwise_append.mp hsorted).2.1).1 q' hin
  refine ⟨hleast q, ?_⟩
  intro h
  cases ha : assigned (idlePlaces roster) with
  | none =>
    rw [assigned_eq, List.find?_eq_none] at ha
    exact absurd (decide_eq_true h.2.1) (ha q h.1)
  | some q' => rw [(hleast q' ha).unique h]

theorem JoinRoomState_iff (team teamid : Int) :
    JoinRoomState team teamid roster = true ↔ (⟨team, teamid⟩ : Place) ∉ roster := by
  induction roster with
  | nil => simp [JoinRoomState]
  | cons p ps ih =>
    have hp : p.team = team ∧ p.teamid = teamid ↔ (⟨team, teamid⟩ : Place) = p := by
      obtain ⟨t, j⟩ := p
      simp [eq_comm]
    rw [JoinRoomState, List.mem_cons, not_or, ← ih]
    by_cases h : p.team = team ∧ p.teamid = teamid
    · rw [if_pos h]
      simp [hp.mp h]
    · rw [if_neg h]
      simp [← hp, h]

end Seats

section Joins

variable {c : CCache} {s : SOCKET} {req : HallRequest} {r : RoomInfo} {e : CClientEntity}

theorem gridPlace_place (ps : List PlayerInfo) :
    ps.map gridPlace = (ps.map place).map fun p => (p.team - 1, p.teamid) := by
  rw [List.map_map]
  rfl

theorem idleSeats_eq (ps : List PlayerInfo) : idleSeats ps = idlePlaces (ps.map place) := by
  rw [idleSeats_eq_remaining, gridPlace_place, remaining_eq]

theorem toInt_inj {t u : TeamType} : t.toInt = u.toInt ↔ t = u := by
  cases t <;> cases u <;> decide

theorem scanSeat_place (team : TeamType) (teamid : Int) (ps : List PlayerInfo) (ret : HallReturn) :
    (scanSeat team teamid ps ret).1 = JoinRoomState team.toInt teamid (ps.map place) := by
  induction ps generalizing ret with
  | nil => rfl
  | cons p ps ih =>
    rw [scanSeat, List.map_cons, JoinRoomState]
    have hp : (place p).team = team.toInt ∧ (place p).teamid = teamid ↔
        p.team = team ∧ p.teamid = teamid := and_congr_left' toInt_inj
    by_cases h : p.team = team ∧ p.teamid = teamid
    · rw [if_pos h, if_pos (hp.mpr h)]
    · rw [if_neg h, if_neg (mt hp.mp h)]
      exact ih _

theorem find?_new (hnew : ∀ p ∈ r.playerinfo, p.roleid ≠ e.roleInfo.roleid) :
    r.playerinfo.find? (fun p => p.roleid = e.roleInfo.roleid) = none := by
  rw [List.find?_eq_none]
  intro p hp
  simpa using hnew p hp

theorem JoinRoom_full (hr : c.FindEntityRoom req.inviteinfo.roomid = some r)
    (he : c.GetEntity s = some e) (hnew : ∀ p ∈ r.playerinfo, p.roleid ≠ e.roleInfo.roleid)
    (h : assigned (idlePlaces (r.playerinfo.map place)) = none) :
    JoinRoom s req c = .ok (c, []) := by
  rw [← idleSeats_eq] at h
  simp only [JoinRoom, hr, SeatGrid.IdleTeam_ID_eq, he, find?_new hnew]
  cases hidle : idleSeats r.playerinfo with
  | nil => rfl
  | cons x more =>
    obtain ⟨first, js⟩ := x
    cases js with
    | nil => exact absurd hidle (idleSeats_cons_ne _ _ _)
    | cons pos js => simp [hidle, assigned] at h

theorem JoinRoom_assigns {q : Place} (hr : c.FindEntityRoom req.inviteinfo.roomid = some r)
    (he : c.GetEntity s = some e) (hnew : ∀ p ∈ r.playerinfo, p.roleid ≠ e.roleInfo.roleid)
    (h : assigned (idlePlaces (r.playerinfo.map place)) = some q) :
    ∃ team out, team.toInt = q.team ∧
      JoinRoom s req c = .ok (((c.writeRoom req.inviteinfo.roomid
        (r.set_freepersoncount (r.freepersoncount - 1))).writeRoleInfo s
          (asMember r.roomid team q.teamid)).EntityRoomAddMember req.inviteinfo.roomid
            (entryOf .joinRoom s e.roleInfo r team q.teamid), out) := by
  rw [← idleSeats_eq] at h
  simp only [JoinRoom, hr, SeatGrid.IdleTeam_ID_eq, he, find?_new hnew]
  cases hidle : idleSeats r.playerinfo with
  | nil => simp [hidle, assigned] at h
  | cons x more =>
    obtain ⟨first, js⟩ := x
    cases js with
    | nil => exact absurd hidle (idleSeats_cons_ne _ _ _)
    | cons pos js =>
      rw [hidle] at h
      cases h
      have hin : (first, pos :: js) ∈ idlePlaces (r.playerinfo.map place) := by
        rw [← idleSeats_eq, hidle]
        exact List.mem_cons_self
      have hteam := toInt_teamOfKey first (mem_idlePlaces.mp hin).1
      exact ⟨teamOfKey first, _, Int.sub_eq_iff_eq_add.mp hteam, rfl⟩

theorem JoinRoom_takes {q : Place} (hr : c.FindEntityRoom req.inviteinfo.roomid = some r)
    (he : c.GetEntity s = some e) (hnew : ∀ p ∈ r.playerinfo, p.roleid ≠ e.roleInfo.roleid)
    (hq : LeastFree (r.playerinfo.map place) q) :
    ∃ c' out r' entry, JoinRoom s req c = .ok (c', out) ∧
      c'.FindEntityRoom req.inviteinfo.roomid = some r' ∧
      r'.playerinfo = r.playerinfo ++ [entry] ∧ place entry = q ∧
      (c'.GetEntity s).map (fun e => place e.roleInfo) = some q := by
  obtain ⟨team, out, hteam, hjoin⟩ := JoinRoom_assigns hr he hnew (assigned_iff.mpr hq)
  have hlobby := @lobby_join c s req.inviteinfo.roomid
    (r.set_freepersoncount (r.freepersoncount - 1)) (asMember r.roomid team q.teamid)
    (entryOf .joinRoom s e.roleInfo r team q.teamid)
  have hplace : (⟨team.toInt, q.teamid⟩ : Place) = q := by rw [hteam]
  refine ⟨_, out, joined r (entryOf .joinRoom s e.roleInfo r team q.teamid),
    entryOf .joinRoom s e.roleInfo r team q.teamid, hjoin, ?_, rfl, hplace, ?_⟩
  · rw [← room_lobby, hlobby]
    simp [joined]
  · have hrole := congrArg (fun l => (l.role s).map place) hlobby
    rw [role_lobby, Option.map_map] at hrole
    refine hrole.trans ?_
    simp only [Lobby.role_modify, if_pos, Lobby.role_setRoom, role_of_entity c he,
      Option.map_some]
    exact congrArg some hplace

end Joins

/-- The elimination loops of `JoinRoom` end for every roster without touching an
iterator that stands on no element, and leave the idle positions. These decide
the seat and the test for a full room, and agree with the test of `JoinTeam`. -/
theorem seat_elimination :
    (∀ roster, IdleTeam_ID roster = some (idlePlaces roster)) ∧
    (∀ roster q, assigned (idlePlaces roster) = some q ↔ LeastFree roster q) ∧
    (∀ roster, idlePlaces roster = [] ↔ ∀ q ∈ grid, q ∈ roster) ∧
    (∀ roster, ∀ q ∈ grid, (∃ js, (q.team - 1, js) ∈ idlePlaces roster ∧ q.teamid ∈ js) ↔
      JoinRoomState q.team q.teamid roster = true) ∧
    -- the handlers compute these values
    (∀ ps, HallScene.IdleTeam_ID ps = IdleTeam_ID (ps.map place)) ∧
    (∀ ps team teamid ret, (scanSeat team teamid ps ret).1 =
      JoinRoomState team.toInt teamid (ps.map place)) ∧
    ∀ c s req r e, c.FindEntityRoom req.inviteinfo.roomid = some r → c.GetEntity s = some e →
      (∀ p ∈ r.playerinfo, p.roleid ≠ e.roleInfo.roleid) →
      ((∀ q ∈ grid, q ∈ r.playerinfo.map place) → JoinRoom s req c = .ok (c, [])) ∧
      ∀ q, LeastFree (r.playerinfo.map place) q → ∃ c' out r' entry,
        JoinRoom s req c = .ok (c', out) ∧ c'.FindEntityRoom req.inviteinfo.roomid = some r' ∧
        r'.playerinfo = r.playerinfo ++ [entry] ∧ place entry = q ∧
        (c'.GetEntity s).map (fun e => place e.roleInfo) = some q := by
  refine ⟨IdleTeam_ID_eq, fun _ _ => assigned_iff, fun _ => idlePlaces_eq_nil_iff, ?_, ?_,
    fun ps team teamid ret => scanSeat_place team teamid ps ret, ?_⟩
  · intro roster q hq
    rw [idle_iff hq, JoinRoomState_iff]
  · intro ps
    rw [IdleTeam_ID_eq, SeatGrid.IdleTeam_ID_eq, idleSeats_eq]
  · intro c s req r e hr he hnew
    refine ⟨?_, fun q hq => JoinRoom_takes hr he hnew hq⟩
    intro hfull
    refine JoinRoom_full hr he hnew ?_
    rw [idlePlaces_eq_nil_iff.mpr hfull]
    rfl

example : IdleTeam_ID [⟨1, 1⟩, ⟨2, 0⟩, ⟨1, 1⟩, ⟨1, 7⟩, ⟨5, 2⟩] =
    some [(0, [0, 2]), (1, [1, 2])] := by decide

end JiraGame.SeatElimination
