import JiraGame.Membership
import JiraGame.Lib.Placement

namespace JiraGame.Links

open JiraGame.Scene JiraGame.DBServer JiraGame.HallScene JiraGame.MainScene
open JiraGame.AccountScenes JiraGame.ServerState JiraGame.Server JiraGame.RoomTable
open JiraGame.Refinement JiraGame.RoomChanges JiraGame.Membership JiraGame.Runs
open JiraGame.Lib.History JiraGame.Lib.Placement

def roomOf (l : Lobby) (s : SOCKET) : Option Int := (l.role s).map PlayerInfo.roomid

/-- Nobody loses a link: a leave keeps an entry of every other client whose role
info names the room, and only clients in no roster are evicted. -/
def Spares (l : Lobby) : Event → Prop
  | .evict s => ∀ k, s ∉ sockets l k
  | .leave s k _ => k ≠ 0 → ∀ p r, l.role s = some p → l.room k = some r →
      ∀ t, t ≠ s → roomOf l t = some k → lastLeaves r = false ∧
        ∃ q ∈ r.playerinfo, q.socket = t ∧ q.roleid ≠ p.roleid
  | _ => True

variable {l : Lobby} {ev : Event} {k : Int} {s : SOCKET} {f : PlayerInfo → PlayerInfo}

theorem roomOf_setRole (s : SOCKET) (o : Option PlayerInfo) :
    roomOf (l.setRole s o) = Function.update (roomOf l) s (o.map PlayerInfo.roomid) :=
  l.read_setRole (Option.map PlayerInfo.roomid) s o

theorem roomOf_modify_same (s : SOCKET) (hf : ∀ p, (f p).roomid = p.roomid) :
    roomOf (l.modify s f) = roomOf l := by
  refine l.read_modify_same (Option.map PlayerInfo.roomid) s ?_
  intro o
  cases o with
  | none => rfl
  | some p => exact congrArg some (hf p)

theorem roomOf_modify {p : PlayerInfo} {v : Int} (hp : l.role s = some p)
    (hf : ∀ p, (f p).roomid = v) : roomOf (l.modify s f) = Function.update (roomOf l) s (some v) := by
  rw [Lobby.modify, roomOf_setRole, hp, Option.map_some, Option.map_some, hf]

theorem roomOf_setRoom (k : Int) (o : Option RoomInfo) : roomOf (l.setRoom k o) = roomOf l := rfl

theorem roomOf_promote (o : Option PlayerInfo) : roomOf (l.promote o) = roomOf l := by
  cases o with
  | none => rfl
  | some q => exact roomOf_modify_same q.socket fun _ => rfl

theorem role_promote_isSome {p : PlayerInfo} (hp : l.role s = some p) (o : Option PlayerInfo) :
    ∃ p', (l.promote o).role s = some p' := by
  cases o with
  | none => exact ⟨p, hp⟩
  | some q =>
    by_cases hs : s = q.socket
    · subst hs
      exact ⟨_, by rw [Lobby.promote, Lobby.role_modify, if_pos rfl, hp]; rfl⟩
    · exact ⟨p, by rw [Lobby.promote, Lobby.role_modify, if_neg hs]; exact hp⟩

theorem roomOf_create {roomname : String} (hen : l.Enabled (.create s k roomname)) :
    roomOf (l.apply (.create s k roomname)) = Function.update (roomOf l) s (some k) := by
  obtain ⟨p, hp, -⟩ := hen
  have hf : ∀ q, (asOwner k q).roomid = k := fun _ => rfl
  simp only [Lobby.apply, hp]
  split
  · have hp' : (l.setRoom k (some (newRoom s k roomname p))).role s = some p := hp
    rw [roomOf_modify hp' hf, roomOf_setRoom]
  · exact roomOf_modify hp hf

theorem roomOf_join {team : TeamType} {teamid : Int} {via : JoinPath} (hk : Keyed l)
    (hen : l.Enabled (.join s k team teamid via)) :
    roomOf (l.apply (.join s k team teamid via)) = Function.update (roomOf l) s (some k) := by
  obtain ⟨p, r, hp, hr, -⟩ := hen
  have hf : ∀ q, (asMember r.roomid team teamid q).roomid = k := fun _ => hk k r hr
  have hp' : (l.setRoom k (some (joined r (entryOf via s p r team teamid)))).role s = some p := hp
  simp only [Lobby.apply, hp, hr]
  rw [roomOf_modify hp' hf, roomOf_setRoom]

theorem roomOf_over : roomOf (l.apply (.gameOver s k)) =
    fun t => if t ∈ sockets l k then (roomOf l t).map fun _ => 0 else roomOf l t := by
  funext t
  cases hr : l.room k with
  | none => simp [Lobby.apply, hr, sockets, roster]
  | some r =>
    simp only [Lobby.apply, hr, roomOf, sockets, roster_of_room hr]
    split
    · rw [Option.map_map, Option.map_map]
      rfl
    · rfl

section Leave

variable {p : PlayerInfo} {r : RoomInfo} {via : LeavePath}

theorem roomOf_leave (hk : Keyed l) (hp : l.role s = some p) (hr : l.room k = some r) :
    roomOf (l.apply (.leave s k via)) = Function.update (roomOf l) s (some 0) := by
  have hf : ∀ q, (asIdle q).roomid = 0 := fun _ => rfl
  simp only [Lobby.apply, hp, hr, leaveKey_eq hk hr]
  split
  · have hp' : (l.setRoom k none).role s = some p := hp
    rw [roomOf_modify hp' hf, roomOf_setRoom]
  · obtain ⟨p', hp'⟩ := role_promote_isSome hp (stay via p r.playerinfo).2
    rw [roomOf_setRoom, roomOf_modify hp' hf, roomOf_promote]

theorem mem_stay_sockets {t : SOCKET} {ps : List PlayerInfo} :
    t ∈ (stay via p ps).1.map PlayerInfo.socket ↔
      ∃ q ∈ ps, q.socket = t ∧ q.roleid ≠ p.roleid := by
  rw [List.mem_map, mem_stay PlayerInfo.socket (fun _ => rfl)]
  exact exists_congr fun q => and_congr_right fun _ => and_comm

theorem linked_leave_iff (hk : Keyed l) (h : Linked 0 (roomOf l) (sockets l))
    (hp : l.role s = some p) (hr : l.room k = some r) :
    Linked 0 (roomOf (l.apply (.leave s k via))) (sockets (l.apply (.leave s k via))) ↔
      Spares l (.leave s k via) := by
  have hroster : roster (l.apply (.leave s k via)) = _ := roster_leave hk hp hr
  rw [roomOf_leave hk hp hr, sockets_update hroster, h.shrink_iff]
  · have hin : ∀ t, t ∈ (if lastLeaves r then [] else (stay via p (roster l k)).1).map
        PlayerInfo.socket ↔
        lastLeaves r = false ∧ ∃ q ∈ r.playerinfo, q.socket = t ∧ q.roleid ≠ p.roleid := by
      intro t
      rw [roster_of_room hr]
      cases lastLeaves r with
      | true => simp
      | false =>
        simp only [Bool.false_eq_true, if_false, true_and]
        exact mem_stay_sockets
    refine ⟨?_, ?_⟩
    · intro hstay hz p₁ r₁ hp₁ hr₁ t hts ht
      rw [hp, Option.some.injEq] at hp₁
      rw [hr, Option.some.injEq] at hr₁
      subst hp₁ hr₁
      exact (hin t).mp (hstay hz t hts ht)
    · intro hspares hz t hts ht
      exact (hin t).mpr (hspares hz p r hp hr t hts ht)
  · split
    · exact List.nil_subset _
    · exact (sockets_stay via p (roster l k)).subset

end Leave

theorem linked_apply_iff (hk : Keyed l) (h : Linked 0 (roomOf l) (sockets l)) (hen : l.Enabled ev) :
    Linked 0 (roomOf (l.apply ev)) (sockets (l.apply ev)) ↔ Spares l ev := by
  have hsame : roomOf (l.apply ev) = roomOf l → sockets (l.apply ev) = sockets l →
      Linked 0 (roomOf (l.apply ev)) (sockets (l.apply ev)) := by
    intro hroom hsock
    rw [hroom, hsock]
    exact h
  cases ev with
  | quiet => exact ⟨fun _ => trivial, fun _ => h⟩
  | start s => exact ⟨fun _ => trivial, fun _ => h⟩
  | enter s =>
    have hroom : roomOf (l.apply (.enter s)) = Function.update (roomOf l) s (some 0) :=
      roomOf_setRole s _
    have hsock : sockets (l.apply (.enter s)) = sockets l :=
      sockets_congr (roster_congr rfl)
    rw [hroom, hsock]
    exact ⟨fun _ => trivial, fun _ => h.nowhere s⟩
  | evict s =>
    have hroom : roomOf (l.apply (.evict s)) = Function.update (roomOf l) s none :=
      roomOf_setRole s _
    have hsock : sockets (l.apply (.evict s)) = sockets l :=
      sockets_congr (roster_congr rfl)
    rw [hroom, hsock]
    exact h.forget_iff s
  | select s roletype row =>
    refine ⟨fun _ => trivial, fun _ => hsame ?_ (sockets_congr (roster_congr rfl))⟩
    exact roomOf_modify_same s fun p => by cases row <;> rfl
  | wait s =>
    refine ⟨fun _ => trivial, fun _ => hsame ?_ (sockets_congr (roster_congr rfl))⟩
    exact roomOf_modify_same s fun _ => rfl
  | sync s payload =>
    refine ⟨fun _ => trivial, fun _ => hsame ?_ (sockets_congr (roster_congr rfl))⟩
    exact roomOf_modify_same s fun _ => rfl
  | create s id roomname =>
    refine ⟨fun _ => trivial, fun _ => ?_⟩
    rw [roomOf_create hen]
    cases hroom : l.room id with
    | none =>
      have he : entrant l (.create s id roomname) = some (id, s) := by simp [entrant, hroom]
      rw [sockets_entrant hen he]
      exact h.append s id
    | some r =>
      obtain ⟨p, hp, -, -, hfresh⟩ := hen
      have hid : id = 0 := by
        by_contra hne
        rw [hfresh hne] at hroom
        cases hroom
      have hsock : sockets (l.apply (.create s id roomname)) = sockets l := by
        apply sockets_congr
        rw [roster_create hp, if_neg (by simp [hroom])]
      rw [hsock, hid]
      exact h.nowhere s
  | join s k team teamid via =>
    refine ⟨fun _ => trivial, fun _ => ?_⟩
    rw [roomOf_join hk hen, sockets_entrant hen rfl]
    exact h.append s k
  | leave s k via =>
    obtain ⟨p, r, hp, hr, -⟩ := hen
    exact linked_leave_iff hk h hp hr
  | gameOver s k =>
    refine ⟨fun _ => trivial, fun _ => ?_⟩
    rw [roomOf_over, sockets_update roster_over]
    exact h.clear k

theorem linked_empty : Linked 0 (roomOf emptyLobby) (sockets emptyLobby) := linked_none 0

variable {DB : Type} {sqlite : Sqlite DB} {db : DB}

/-- Rooms and role infos refer to each other throughout a run exactly when every
leave and every eviction spares the links of the others. -/
theorem linked_iff_spares (tr : List (Process DB × Action)) (st : Process DB)
    (h : ServerRun sqlite db tr st) :
    (∀ x ∈ points tr st, Linked 0 (roomOf (lobby x.2.cache)) (sockets (lobby x.2.cache))) ↔
      ∀ x ∈ tr, Spares (lobby x.1.cache) (event sqlite x.1 x.2) :=
  lobby_always_iff (I := fun l => Linked 0 (roomOf l) (sockets l)) keyed_empty
    (fun _ _ => keyed_apply) linked_empty (fun _ _ => linked_apply_iff) h

theorem linked_after_joining : ∃ tr st, ServerRun noTables () tr st ∧
    actions tr = [.accept 7 0, createRoom 7, .accept 8 0, joinTeam 8 111111 .Team_B 0] ∧
    ((∀ x ∈ points tr st, Linked 0 (roomOf (lobby x.2.cache)) (sockets (lobby x.2.cache))) ↔
      ∀ x ∈ tr, Spares (lobby x.1.cache) (event noTables x.1 x.2)) := by
  obtain ⟨tr, st, hrun, hact, -⟩ := exists_run noTables ()
    [.accept 7 0, createRoom 7, .accept 8 0, joinTeam 8 111111 .Team_B 0] (fun _ _ => true)
    (by decide +kernel)
  exact ⟨tr, st, hrun, hact, linked_iff_spares tr st hrun⟩

/-- Two clients have the role id 0; when one leaves, the entry of the other goes
too, but its role info still names the room. -/
theorem leave_strikes_other_link : ∃ tr st, ServerRun noTables () tr st ∧
    actions tr = [.accept 7 0, createRoom 7, .accept 8 0, joinTeam 8 111111 .Team_B 0,
      leaveRoom 7] ∧
    ¬ Linked 0 (roomOf (lobby st.cache)) (sockets (lobby st.cache)) := by
  obtain ⟨tr, st, hrun, hact, hq⟩ := exists_run noTables ()
    [.accept 7 0, createRoom 7, .accept 8 0, joinTeam 8 111111 .Team_B 0, leaveRoom 7]
    (fun _ st => decide (roomOf (lobby st.cache) 8 = some 111111 ∧
      sockets (lobby st.cache) 111111 = [])) (by decide +kernel)
  obtain ⟨hroom, hsock⟩ := of_decide_eq_true hq
  refine ⟨tr, st, hrun, hact, ?_⟩
  rintro ⟨-, hlisted⟩
  have hin := hlisted 8 111111 hroom (by decide)
  rw [hsock] at hin
  cases hin

end JiraGame.Links
