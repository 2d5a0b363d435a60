import JiraGame.RoomRecord
import Mathlib.Data.List.Perm.Subperm

namespace JiraGame.Capacity

open JiraGame.Scene JiraGame.DBServer JiraGame.HallScene JiraGame.ServerState JiraGame.Server
open JiraGame.RoomTable JiraGame.Refinement JiraGame.RoomChanges JiraGame.RoomRecord
open JiraGame.Runs JiraGame.Lib.History

def grid : List (TeamType × Int) :=
  [(.Team_A, 0), (.Team_A, 1), (.Team_A, 2), (.Team_B, 0), (.Team_B, 1), (.Team_B, 2)]

/-- Everybody sits in the grid, nobody is too many and no free seat is owed. -/
structure Fits (r : RoomInfo) : Prop where
  seated : ∀ q ∈ r.playerinfo, q.seat ∈ grid
  bounded : (r.playerinfo.length : Int) ≤ r.personcount
  free : 0 ≤ r.freepersoncount

def AllFit (l : Lobby) : Prop := ∀ k r, l.room k = some r → Fits r

/-- A join gives a seat of the grid and the room counts a free one. -/
def AdmitsWithin (l : Lobby) : Event → Prop
  | .join _ k team teamid _ => (team, teamid) ∈ grid ∧
      ∀ r, l.room k = some r → 1 ≤ r.freepersoncount
  | _ => True

def AdmitsToFull (l : Lobby) : Event → Prop
  | .join _ k _ _ _ => ∃ r, l.room k = some r ∧ r.personcount ≤ r.playerinfo.length
  | _ => False

variable {l : Lobby} {ev : Event} {k : Int} {r : RoomInfo}

theorem length_le_six {ps : List PlayerInfo} (hnd : (ps.map PlayerInfo.seat).Nodup)
    (hgrid : ∀ q ∈ ps, q.seat ∈ grid) : ps.length ≤ 6 := by
  have hsub : ps.map PlayerInfo.seat ⊆ grid := by
    intro x hx
    obtain ⟨q, hq, rfl⟩ := List.mem_map.mp hx
    exact hgrid q hq
  have hle := (List.subperm_of_subset hnd hsub).length_le
  rwa [List.length_map] at hle

theorem fits_new (s : SOCKET) (k : Int) (roomname : String) (p : PlayerInfo) :
    Fits (newRoom s k roomname p) where
  seated := by
    intro q hq
    have hown : q = ownerEntry s p := List.mem_singleton.mp hq
    rw [hown]
    exact List.mem_cons_self
  bounded := by
    change (1 : Int) ≤ 6
    decide
  free := by
    change (0 : Int) ≤ 5
    decide

/-- A join keeps a room fitting exactly when it stays in the grid and a free
seat was counted. -/
theorem fits_joined_iff (h : Fits r) {entry : PlayerInfo}
    (hrec' : Recorded k (joined r entry)) :
    Fits (joined r entry) ↔ entry.seat ∈ grid ∧ 1 ≤ r.freepersoncount := by
  have hroster : (joined r entry).playerinfo = r.playerinfo ++ [entry] := rfl
  have hfree : (joined r entry).freepersoncount = r.freepersoncount - 1 := rfl
  refine ⟨?_, ?_⟩
  · rintro ⟨hseated, -, hf⟩
    rw [hfree] at hf
    refine ⟨hseated entry ?_, by omega⟩
    rw [hroster]
    exact List.mem_append_right _ List.mem_cons_self
  · rintro ⟨hseat, hf⟩
    have hseated : ∀ q ∈ (joined r entry).playerinfo, q.seat ∈ grid := by
      intro q hq
      rw [hroster] at hq
      obtain hq | hq := List.mem_append.mp hq
      · exact h.seated q hq
      · rw [List.mem_singleton.mp hq]
        exact hseat
    have hlen := length_le_six hrec'.seats hseated
    refine ⟨hseated, ?_, ?_⟩
    · rw [hrec'.personcount]
      exact_mod_cast hlen
    · rw [hfree]
      omega

theorem fits_left (h : Fits r) (via : LeavePath) (p : PlayerInfo) :
    Fits (leftRoom r (stay via p r.playerinfo).1) where
  seated := by
    intro q hq
    have hold := (mem_stay PlayerInfo.seat (fun _ => rfl) (b := q.seat)).mp ⟨q, hq, rfl⟩
    obtain ⟨q', hq', -, hseat⟩ := hold
    rw [← hseat]
    exact h.seated q' hq'
  bounded := by
    have hlen := length_stay via p r.playerinfo
    have hb := h.bounded
    change ((stay via p r.playerinfo).1.length : Int) ≤ r.personcount
    omega
  free := by
    have hf := h.free
    change 0 ≤ r.freepersoncount + 1
    omega

theorem allFit_apply_iff (hrec : AllRecorded l) (h : AllFit l) (hen : l.Enabled ev) :
    AllFit (l.apply ev) ↔ AdmitsWithin l ev := by
  have hrec' := allRecorded_apply hrec hen
  refine ⟨?_, ?_⟩
  · intro hafter
    cases ev with
    | join s k team teamid via =>
      obtain ⟨p, r, hp, hr, -⟩ := hen
      have hroom : (l.apply (.join s k team teamid via)).room k = _ := room_join hp hr
      have hfit := (fits_joined_iff (h k r hr) (hrec' k _ hroom)).mp
        (hafter k _ hroom)
      rw [seat_entryOf] at hfit
      refine ⟨hfit.1, ?_⟩
      intro r₁ hr₁
      rw [hr, Option.some.injEq] at hr₁
      rw [← hr₁]
      exact hfit.2
    | _ => trivial
  · intro hwithin k r' hr'
    cases room_change hrec.keyed hen hr' with
    | kept _ hr => exact h k r' hr
    | created s roomname p _ _ _ he =>
      rw [he]
      exact fits_new s k roomname p
    | joined s team teamid via p r _ hr _ _ he =>
      subst he
      obtain ⟨hseat, hfree⟩ := hwithin
      rw [fits_joined_iff (h k r hr) (hrec' k _ hr'), seat_entryOf]
      exact ⟨hseat, hfree r hr⟩
    | left s via p r _ hr _ he =>
      rw [he]
      exact fits_left (h k r hr) via p

theorem not_admitsToFull (hen : l.Enabled ev) (h' : AllFit (l.apply ev)) :
    ¬ AdmitsToFull l ev := by
  cases ev with
  | join s k team teamid via =>
    rintro ⟨r₁, hr₁, hfull⟩
    obtain ⟨p, r, hp, hr, -⟩ := hen
    rw [hr, Option.some.injEq] at hr₁
    subst hr₁
    have hroom : (l.apply (.join s k team teamid via)).room k = _ := room_join hp hr
    have hb := (h' k _ hroom).bounded
    have hlen : (joined r (entryOf via s p r team teamid)).playerinfo.length =
        r.playerinfo.length + 1 := by
      simp [joined, RoomInfo.add_playerinfo, RoomInfo.set_freepersoncount]
    have hperson : (joined r (entryOf via s p r team teamid)).personcount = r.personcount := rfl
    rw [hlen, hperson] at hb
    omega
  | _ => exact fun h => h

theorem allFit_empty : AllFit emptyLobby := by
  intro k r h
  cases h

variable {DB : Type} {sqlite : Sqlite DB} {db : DB}

/-- All rooms fit and no full room admits anybody throughout a run exactly when
every join stays in the grid and goes to a room that counts a free seat. -/
theorem fit_iff_admitsWithin (tr : List (Process DB × Action)) (st : Process DB)
    (h : ServerRun sqlite db tr st) :
    ((∀ x ∈ points tr st, AllFit (lobby x.2.cache)) ∧
        ∀ x ∈ tr, ¬ AdmitsToFull (lobby x.1.cache) (event sqlite x.1 x.2)) ↔
      ∀ x ∈ tr, AdmitsWithin (lobby x.1.cache) (event sqlite x.1 x.2) := by
  have hiff := lobby_always_iff (I := AllFit) allRecorded_empty (fun _ _ => allRecorded_apply)
    allFit_empty (fun _ _ => allFit_apply_iff) h
  refine ⟨?_, ?_⟩
  · rintro ⟨hfit, -⟩
    exact hiff.mp hfit
  · intro hwithin
    have hfit := hiff.mpr hwithin
    refine ⟨hfit, ?_⟩
    intro x hx
    obtain ⟨pre, t, -, ⟨out, hstep⟩, -, ht⟩ := h.of_mem x hx
    obtain ⟨hen, happ⟩ := step_refines hstep
    apply not_admitsToFull hen
    rw [← happ]
    exact hfit _ ht

theorem fit_after_joining : ∃ tr st, ServerRun noTables () tr st ∧
    actions tr = [.accept 7 0, createRoom 7, .accept 8 0, joinTeam 8 111111 .Team_B 0] ∧
    (((∀ x ∈ points tr st, AllFit (lobby x.2.cache)) ∧
        ∀ x ∈ tr, ¬ AdmitsToFull (lobby x.1.cache) (event noTables x.1 x.2)) ↔
      ∀ x ∈ tr, AdmitsWithin (lobby x.1.cache) (event noTables x.1 x.2)) := by
  obtain ⟨tr, st, hrun, hact, -⟩ := exists_run noTables ()
    [.accept 7 0, createRoom 7, .accept 8 0, joinTeam 8 111111 .Team_B 0] (fun _ _ => true)
    (by decide +kernel)
  exact ⟨tr, st, hrun, hact, fit_iff_admitsWithin tr st hrun⟩

/-- Positions from 3 on are outside the grid and never run out. -/
theorem seats_outside_grid_overfill : ∃ tr st, ServerRun noTables () tr st ∧
    actions tr = .accept 7 0 :: createRoom 7 ::
      [3, 4, 5, 6, 7, 8].map (joinTeam 7 111111 .Team_A) ∧
    ∃ r, st.cache.FindEntityRoom 111111 = some r ∧ ¬ (∀ q ∈ r.playerinfo, q.seat ∈ grid) ∧
      ¬ (r.playerinfo.length : Int) ≤ r.personcount ∧ ¬ 0 ≤ r.freepersoncount := by
  obtain ⟨tr, st, hrun, hact, r, hr, hq⟩ := exists_room_run noTables ()
    (.accept 7 0 :: createRoom 7 :: [3, 4, 5, 6, 7, 8].map (joinTeam 7 111111 .Team_A)) 111111
    (fun r => decide (¬ (∀ q ∈ r.playerinfo, q.seat ∈ grid) ∧
      ¬ (r.playerinfo.length : Int) ≤ r.personcount ∧ ¬ 0 ≤ r.freepersoncount))
    (by decide +kernel)
  exact ⟨tr, st, hrun, hact, r, hr, of_decide_eq_true hq⟩

end JiraGame.Capacity
