import JiraGame.RoomChanges
import JiraGame.Runs

namespace JiraGame.RoomRecord

open JiraGame.Scene JiraGame.DBServer JiraGame.HallScene JiraGame.ServerState JiraGame.Server
open JiraGame.RoomTable JiraGame.RoomChanges JiraGame.Runs JiraGame.Lib.History

/-- What a stored pair `(k, r)` of the room table looks like. -/
structure Recorded (k : Int) (r : RoomInfo) : Prop where
  roomid : r.roomid = k
  personcount : r.personcount = 6
  roomname : r.roomname ≠ ""
  seats : (r.playerinfo.map PlayerInfo.seat).Nodup

def AllRecorded (l : Lobby) : Prop := ∀ k r, l.room k = some r → Recorded k r

variable {l : Lobby} {k : Int} {r : RoomInfo}

theorem AllRecorded.keyed (h : AllRecorded l) : Keyed l := fun k r hr => (h k r hr).roomid

theorem recorded_new {s : SOCKET} {roomname : String} {p : PlayerInfo} (hname : roomname ≠ "") :
    Recorded k (newRoom s k roomname p) where
  roomid := rfl
  personcount := rfl
  roomname := hname
  seats := by simp [newRoom]

theorem recorded_joined (h : Recorded k r) {entry : PlayerInfo}
    (hfree : ∀ q ∈ r.playerinfo, q.seat ≠ entry.seat) : Recorded k (joined r entry) where
  roomid := h.roomid
  personcount := h.personcount
  roomname := h.roomname
  seats := by
    have hroster : (joined r entry).playerinfo = r.playerinfo ++ [entry] := rfl
    rw [hroster, List.map_append, List.map_singleton, List.nodup_append]
    refine ⟨h.seats, List.nodup_singleton _, ?_⟩
    intro x hx y hy
    obtain ⟨q, hq, rfl⟩ := List.mem_map.mp hx
    rw [List.mem_singleton.mp hy]
    exact hfree q hq

theorem recorded_left (h : Recorded k r) (via : LeavePath) (p : PlayerInfo) :
    Recorded k (leftRoom r (stay via p r.playerinfo).1) where
  roomid := h.roomid
  personcount := h.personcount
  roomname := h.roomname
  seats := by
    have hseats : ((stay via p r.playerinfo).1.map PlayerInfo.seat) =
        (r.playerinfo.filter fun q => q.roleid ≠ p.roleid).map PlayerInfo.seat :=
      map_stay PlayerInfo.seat (fun _ => rfl) via p r.playerinfo
    have hsub := (List.filter_sublist (p := fun q => q.roleid ≠ p.roleid) (l := r.playerinfo)).map
      PlayerInfo.seat
    change ((stay via p r.playerinfo).1.map PlayerInfo.seat).Nodup
    rw [hseats]
    exact h.seats.sublist hsub

theorem seat_entryOf (via : JoinPath) (s : SOCKET) (p : PlayerInfo) (r : RoomInfo)
    (team : TeamType) (teamid : Int) : (entryOf via s p r team teamid).seat = (team, teamid) := by
  cases via <;> rfl

theorem allRecorded_apply {ev : Event} (h : AllRecorded l) (hen : l.Enabled ev) :
    AllRecorded (l.apply ev) := by
  intro k r' hr'
  cases room_change h.keyed hen hr' with
  | kept _ hr => exact h k r' hr
  | created s roomname p _ _ hname he =>
    rw [he]
    exact recorded_new hname
  | joined s team teamid via p r _ hr hfree _ he =>
    rw [he]
    apply recorded_joined (h k r hr)
    rw [seat_entryOf]
    exact hfree
  | left s via p r _ hr _ he =>
    rw [he]
    exact recorded_left (h k r hr) via p

theorem allRecorded_empty : AllRecorded emptyLobby := by
  intro k r h
  cases h

variable {DB : Type} {sqlite : Sqlite DB} {db : DB}

/-- The records of the rooms are well formed in every reachable state. -/
theorem rooms_recorded (tr : List (Process DB × Action)) (st : Process DB)
    (h : ServerRun sqlite db tr st) (k : Int) (r : RoomInfo)
    (hr : st.cache.FindEntityRoom k = some r) :
    r.roomid = k ∧ r.personcount = 6 ∧ r.roomname ≠ "" ∧
      (r.playerinfo.map PlayerInfo.seat).Nodup := by
  have hall := lobby_invariant allRecorded_empty (fun _ _ => allRecorded_apply) h
  obtain ⟨hid, hcount, hname, hseats⟩ := hall k r hr
  exact ⟨hid, hcount, hname, hseats⟩

theorem first_room_recorded : ∃ tr st, ServerRun noTables () tr st ∧
    actions tr = [.accept 7 0, createRoom 7] ∧ ∃ r, st.cache.FindEntityRoom 111111 = some r ∧
      r.roomid = 111111 ∧ r.personcount = 6 ∧ r.roomname ≠ "" ∧
      (r.playerinfo.map PlayerInfo.seat).Nodup := by
  obtain ⟨tr, st, hrun, hact, r, hr, -⟩ := exists_room_run noTables () [.accept 7 0, createRoom 7] 111111
    (fun _ => true) (by decide +kernel)
  exact ⟨tr, st, hrun, hact, r, hr, rooms_recorded tr st hrun 111111 r hr⟩

end JiraGame.RoomRecord
