import JiraGame.RoomChanges
import JiraGame.Runs

namespace JiraGame.Headcount

open JiraGame.Scene JiraGame.DBServer JiraGame.HallScene JiraGame.ServerState JiraGame.Server
open JiraGame.RoomTable JiraGame.Refinement JiraGame.RoomChanges JiraGame.Runs
open JiraGame.Lib.History

/-- The counters of a room agree with its roster, which is not empty. -/
def Counted (r : RoomInfo) : Prop :=
  r.personcount - r.freepersoncount = r.playerinfo.length ∧ 1 ≤ r.playerinfo.length

def AllCounted (l : Lobby) : Prop := ∀ k r, l.room k = some r → Counted r

/-- A leave that keeps the room strikes exactly one entry. -/
def StrikesOne (l : Lobby) : Event → Prop
  | .leave s k _ => ∀ p r, l.role s = some p → l.room k = some r → lastLeaves r = false →
      r.playerinfo.countP (fun q => q.roleid = p.roleid) = 1
  | _ => True

variable {l : Lobby} {k : Int} {r : RoomInfo}

theorem counted_new (s : SOCKET) (k : Int) (roomname : String) (p : PlayerInfo) :
    Counted (newRoom s k roomname p) := by
  refine ⟨?_, ?_⟩
  · rfl
  · exact Nat.le_refl 1

theorem counted_joined (h : Counted r) (entry : PlayerInfo) : Counted (joined r entry) := by
  obtain ⟨hcount, hpos⟩ := h
  have hlen : (joined r entry).playerinfo.length = r.playerinfo.length + 1 := by
    simp [joined, RoomInfo.add_playerinfo, RoomInfo.set_freepersoncount]
  have hfree : (joined r entry).freepersoncount = r.freepersoncount - 1 := rfl
  have hperson : (joined r entry).personcount = r.personcount := rfl
  refine ⟨?_, ?_⟩
  · rw [hlen, hfree, hperson]
    omega
  · omega

/-- The counters of a room that is kept move by one, the roster by the number
of entries with the leaver's role id. -/
theorem counted_left (h : Counted r) (hlast : lastLeaves r = false) (via : LeavePath)
    (p : PlayerInfo) : Counted (leftRoom r (stay via p r.playerinfo).1) ↔
      r.playerinfo.countP (fun q => q.roleid = p.roleid) = 1 := by
  obtain ⟨hcount, hpos⟩ := h
  have hlen := length_stay via p r.playerinfo
  have hmany : r.personcount ≠ r.freepersoncount + 1 := by simpa [lastLeaves] using hlast
  have hleft : Counted (leftRoom r (stay via p r.playerinfo).1) ↔
      r.personcount - (r.freepersoncount + 1) = (stay via p r.playerinfo).1.length ∧
        1 ≤ (stay via p r.playerinfo).1.length := Iff.rfl
  rw [hleft]
  omega

theorem allCounted_apply {ev : Event} (hk : Keyed l) (h : AllCounted l) (hen : l.Enabled ev)
    (hone : StrikesOne l ev) : AllCounted (l.apply ev) := by
  intro k r' hr'
  cases room_change hk hen hr' with
  | kept _ hr => exact h k r' hr
  | created s roomname p _ _ _ he =>
    rw [he]
    exact counted_new s k roomname p
  | joined s team teamid via p r _ hr _ _ he =>
    rw [he]
    exact counted_joined (h k r hr) _
  | left s via p r hp hr hlast he =>
    rw [Bool.not_eq_true] at hlast
    rw [he]
    exact (counted_left (h k r hr) hlast via p).mpr (hone p r hp hr hlast)

theorem strikesOne_of_counted {ev : Event} (hk : Keyed l) (h : AllCounted l)
    (hafter : AllCounted (l.apply ev)) : StrikesOne l ev := by
  cases ev with
  | leave s k via =>
    intro p r hp hr hlast
    have hroom : (l.apply (.leave s k via)).room k = some (leftRoom r (stay via p r.playerinfo).1) :=
      room_leave hk hp hr (by simp [hlast])
    exact (counted_left (h k r hr) hlast via p).mp (hafter k _ hroom)
  | _ => trivial

theorem allCounted_apply_iff {ev : Event} (hk : Keyed l) (h : AllCounted l) (hen : l.Enabled ev) :
    AllCounted (l.apply ev) ↔ StrikesOne l ev :=
  ⟨strikesOne_of_counted hk h, allCounted_apply hk h hen⟩

theorem allCounted_empty : AllCounted emptyLobby := by
  intro k r h
  cases h

variable {DB : Type} {sqlite : Sqlite DB} {db : DB}

/-- The counters agree with the rosters throughout a run exactly when every
leave that keeps its room strikes exactly one entry. -/
theorem counted_iff_strikesOne (tr : List (Process DB × Action)) (st : Process DB)
    (h : ServerRun sqlite db tr st) :
    (∀ x ∈ points tr st, ∀ k r, x.2.cache.FindEntityRoom k = some r →
        r.personcount - r.freepersoncount = r.playerinfo.length ∧ 1 ≤ r.playerinfo.length) ↔
      ∀ x ∈ tr, StrikesOne (lobby x.1.cache) (event sqlite x.1 x.2) := by
  exact lobby_always_iff (I := AllCounted) keyed_empty (fun _ _ => keyed_apply) allCounted_empty
    (fun _ _ => allCounted_apply_iff) h

theorem counted_after_joining : ∃ tr st, ServerRun noTables () tr st ∧
    actions tr = [.accept 7 0, createRoom 7, joinTeam 7 111111 .Team_B 0] ∧
    ((∀ x ∈ points tr st, ∀ k r, x.2.cache.FindEntityRoom k = some r →
        r.personcount - r.freepersoncount = r.playerinfo.length ∧ 1 ≤ r.playerinfo.length) ↔
      ∀ x ∈ tr, StrikesOne (lobby x.1.cache) (event noTables x.1 x.2)) := by
  obtain ⟨tr, st, hrun, hact, -⟩ := exists_run noTables ()
    [.accept 7 0, createRoom 7, joinTeam 7 111111 .Team_B 0] (fun _ _ => true) (by decide +kernel)
  exact ⟨tr, st, hrun, hact, counted_iff_strikesOne tr st hrun⟩

/-- Two entries of one client are struck at once, and the room stays empty. -/
theorem joined_twice_miscounted : ∃ tr st, ServerRun noTables () tr st ∧
    actions tr = [.accept 7 0, createRoom 7, joinTeam 7 111111 .Team_B 0, leaveRoom 7] ∧
    ∃ r, st.cache.FindEntityRoom 111111 = some r ∧
      ¬ (r.personcount - r.freepersoncount = r.playerinfo.length ∧ 1 ≤ r.playerinfo.length) := by
  obtain ⟨tr, st, hrun, hact, r, hr, hq⟩ := exists_room_run noTables ()
    [.accept 7 0, createRoom 7, joinTeam 7 111111 .Team_B 0, leaveRoom 7] 111111
    (fun r => decide (r.playerinfo.length = 0)) (by decide +kernel)
  refine ⟨tr, st, hrun, hact, r, hr, ?_⟩
  rintro ⟨-, hpos⟩
  rw [of_decide_eq_true hq] at hpos
  exact absurd hpos (by decide)

end JiraGame.Headcount
