import JiraGame.RoomChanges
import JiraGame.Runs
import JiraGame.Lib.Families

namespace JiraGame.Membership

open JiraGame.Scene JiraGame.DBServer JiraGame.HallScene JiraGame.ServerState JiraGame.Server
open JiraGame.RoomTable JiraGame.Refinement JiraGame.RoomChanges JiraGame.Runs
open JiraGame.Lib.History JiraGame.Lib.Families

def sockets (l : Lobby) (k : Int) : List SOCKET := (roster l k).map PlayerInfo.socket

def entrant (l : Lobby) : Event → Option (Int × SOCKET)
  | .create s id _ => if l.room id = none then some (id, s) else none
  | .join s k _ _ _ => some (k, s)
  | _ => none

/-- Whoever enters a roster is in none. -/
def EntersAlone (l : Lobby) (ev : Event) : Prop :=
  ∀ k s, entrant l ev = some (k, s) → ∀ j, s ∉ sockets l j

variable {l : Lobby} {ev : Event} {k : Int} {s : SOCKET}

theorem socket_entryOf (via : JoinPath) (s : SOCKET) (p : PlayerInfo) (r : RoomInfo)
    (team : TeamType) (teamid : Int) : (entryOf via s p r team teamid).socket = s := by
  cases via <;> rfl

theorem role_over (t : SOCKET) : (l.apply (.gameOver s k)).role t =
    if t ∈ sockets l k then (l.role t).map (·.set_roomid 0) else l.role t := by
  cases hr : l.room k with
  | none => simp [Lobby.apply, hr, sockets, roster]
  | some r => simp only [Lobby.apply, hr, sockets, roster_of_room hr]

theorem sockets_stay (via : LeavePath) (p : PlayerInfo) (ps : List PlayerInfo) :
    ((stay via p ps).1.map PlayerInfo.socket).Sublist (ps.map PlayerInfo.socket) := by
  rw [map_stay PlayerInfo.socket (fun _ => rfl)]
  exact List.filter_sublist.map _

theorem sockets_update {l' : Lobby} {ps : List PlayerInfo}
    (h : roster l' = Function.update (roster l) k ps) :
    sockets l' = Function.update (sockets l) k (ps.map PlayerInfo.socket) := by
  have hcomp := Function.comp_update (List.map PlayerInfo.socket) (roster l) k ps
  rw [← h] at hcomp
  exact hcomp

theorem sockets_congr {l' : Lobby} (h : roster l' = roster l) : sockets l' = sockets l := by
  funext j
  simp only [sockets, h]

theorem sockets_entrant (hen : l.Enabled ev) (he : entrant l ev = some (k, s)) :
    sockets (l.apply ev) = Function.update (sockets l) k (sockets l k ++ [s]) := by
  cases ev with
  | create t id roomname =>
    obtain ⟨p, hp, -⟩ := hen
    simp only [entrant] at he
    split at he
    · rename_i hnew
      cases he
      have hempty : sockets l k = [] := by simp only [sockets, roster, hnew, List.map_nil]
      have hroster := @roster_create l k s p roomname hp
      rw [if_pos hnew] at hroster
      rw [sockets_update hroster, hempty]
      rfl
    · cases he
  | join t i team teamid via =>
    obtain ⟨p, r, hp, hr, -⟩ := hen
    cases he
    rw [sockets_update (roster_join hp hr), List.map_append, List.map_singleton, socket_entryOf]
    rfl
  | _ => cases he

theorem sockets_no_entrant (hk : Keyed l) (hen : l.Enabled ev) (he : entrant l ev = none) (k : Int) :
    (sockets (l.apply ev) k).Sublist (sockets l k) := by
  cases hr' : (l.apply ev).room k with
  | none =>
    have hempty : sockets (l.apply ev) k = [] := by simp only [sockets, roster, hr', List.map_nil]
    rw [hempty]
    exact List.nil_sublist _
  | some r' =>
    rw [sockets, sockets, roster_of_room hr']
    cases room_change hk hen hr' with
    | kept _ hr => rw [roster_of_room hr]
    | created s roomname p _ hnew _ _ => simp [entrant, hnew] at he
    | joined s team teamid via p r _ _ _ _ _ => cases he
    | left s via p r _ hr _ hrec =>
      rw [roster_of_room hr, hrec]
      exact sockets_stay via p r.playerinfo

theorem exclusive_apply_iff (hk : Keyed l) (h : Exclusive (sockets l)) (hen : l.Enabled ev) :
    Exclusive (sockets (l.apply ev)) ↔ EntersAlone l ev := by
  cases he : entrant l ev with
  | none =>
    have hafter := h.sublist (sockets_no_entrant hk hen he)
    exact ⟨fun _ k s hks => (by rw [he] at hks; cases hks), fun _ => hafter⟩
  | some x =>
    rw [sockets_entrant hen he, h.append_iff]
    refine ⟨?_, ?_⟩
    · intro hnew k s hks
      rw [he] at hks
      cases hks
      exact hnew
    · intro hal
      exact hal x.1 x.2 he

theorem exclusive_empty : Exclusive (sockets emptyLobby) := exclusive_nil

variable {DB : Type} {sqlite : Sqlite DB} {db : DB}

/-- Every connection is in at most one roster, at most once, throughout a run
exactly when only connections in no roster enter one. -/
theorem exclusive_iff_entersAlone (tr : List (Process DB × Action)) (st : Process DB)
    (h : ServerRun sqlite db tr st) :
    (∀ x ∈ points tr st, Exclusive (sockets (lobby x.2.cache))) ↔
      ∀ x ∈ tr, EntersAlone (lobby x.1.cache) (event sqlite x.1 x.2) :=
  lobby_always_iff (I := fun l => Exclusive (sockets l)) keyed_empty (fun _ _ => keyed_apply)
    exclusive_empty (fun _ _ => exclusive_apply_iff) h

theorem exclusive_after_joining : ∃ tr st, ServerRun noTables () tr st ∧
    actions tr = [.accept 7 0, createRoom 7, .accept 8 0, joinTeam 8 111111 .Team_B 0] ∧
    ((∀ x ∈ points tr st, Exclusive (sockets (lobby x.2.cache))) ↔
      ∀ x ∈ tr, EntersAlone (lobby x.1.cache) (event noTables x.1 x.2)) := by
  obtain ⟨tr, st, hrun, hact, -⟩ := exists_run noTables ()
    [.accept 7 0, createRoom 7, .accept 8 0, joinTeam 8 111111 .Team_B 0] (fun _ _ => true)
    (by decide +kernel)
  exact ⟨tr, st, hrun, hact, exclusive_iff_entersAlone tr st hrun⟩

/-- A client takes a second seat in its own room. -/
theorem joined_twice_not_exclusive : ∃ tr st, ServerRun noTables () tr st ∧
    actions tr = [.accept 7 0, createRoom 7, joinTeam 7 111111 .Team_B 0] ∧
    ¬ Exclusive (sockets (lobby st.cache)) := by
  obtain ⟨tr, st, hrun, hact, r, hr, hq⟩ := exists_room_run noTables ()
    [.accept 7 0, createRoom 7, joinTeam 7 111111 .Team_B 0] 111111
    (fun r => decide (r.playerinfo.map PlayerInfo.socket = [7, 7])) (by decide +kernel)
  refine ⟨tr, st, hrun, hact, ?_⟩
  rintro ⟨hnodup, -⟩
  have hnd := hnodup 111111
  have hsock : sockets (lobby st.cache) 111111 = [7, 7] := by
    rw [sockets, roster_of_room hr]
    exact of_decide_eq_true hq
  rw [hsock] at hnd
  exact absurd hnd (by decide)

end JiraGame.Membership
