import JiraGame.Links

namespace JiraGame.Availability

open JiraGame.Scene JiraGame.Command JiraGame.DBServer JiraGame.HallScene JiraGame.MainScene
open JiraGame.AccountScenes JiraGame.ServerState JiraGame.Server JiraGame.RoomTable
open JiraGame.Refinement JiraGame.RoomChanges JiraGame.Membership JiraGame.Runs JiraGame.Links
open JiraGame.Lib.History

/-- A role info says that its player is idle exactly when it names no room. -/
def Truthful (p : PlayerInfo) : Prop := p.roomstate = .RT_Idle ↔ p.roomid = 0

def AllTruthful (l : Lobby) : Prop := ∀ s p, l.role s = some p → Truthful p

/-- A sync reports an idle player only outside of rooms, the id 0 is neither
drawn nor joined, and a game that is over had idle members only. -/
def KeepsTruthful (l : Lobby) : Event → Prop
  | .sync s payload => ∀ p, l.role s = some p → (payload.roomstate = .RT_Idle ↔ p.roomid = 0)
  | .create _ id _ => id ≠ 0
  | .join _ k _ _ _ => k ≠ 0
  | .gameOver _ k => ∀ t ∈ sockets l k, ∀ p, l.role t = some p → p.roomstate = .RT_Idle
  | _ => True

variable {l : Lobby} {ev : Event} {s : SOCKET} {f : PlayerInfo → PlayerInfo}

theorem truthful_setRole_iff (h : AllTruthful l) (o : Option PlayerInfo) :
    AllTruthful (l.setRole s o) ↔ ∀ p, o = some p → Truthful p :=
  Lobby.roles_setRole_iff h o

theorem truthful_modify_iff (h : AllTruthful l) :
    AllTruthful (l.modify s f) ↔ ∀ p, l.role s = some p → Truthful (f p) :=
  Lobby.roles_modify_iff h

theorem truthful_modify_same (h : AllTruthful l)
    (hstate : ∀ p, (f p).roomstate = p.roomstate) (hroom : ∀ p, (f p).roomid = p.roomid) :
    AllTruthful (l.modify s f) := by
  rw [truthful_modify_iff h]
  intro p hp
  rw [Truthful, hstate, hroom]
  exact h s p hp

theorem truthful_promote (h : AllTruthful l) (o : Option PlayerInfo) : AllTruthful (l.promote o) := by
  cases o with
  | none => exact h
  | some q => exact truthful_modify_same h (fun _ => rfl) fun _ => rfl

theorem truthful_entered {p : PlayerInfo} {k : Int} (hstate : p.roomstate = .RT_JoinRoom)
    (hroom : p.roomid = k) : Truthful p ↔ k ≠ 0 := by
  rw [Truthful, hstate, hroom]
  simp

theorem truthful_over_iff {k : Int} (h : AllTruthful l) :
    AllTruthful (l.apply (.gameOver s k)) ↔ KeepsTruthful l (.gameOver s k) := by
  refine ⟨?_, ?_⟩
  · intro hall t ht p hp
    have hafter : (l.apply (.gameOver s k)).role t = some (p.set_roomid 0) := by
      rw [role_over, if_pos ht, hp]
      rfl
    exact (hall t _ hafter).mpr rfl
  · intro hidle t p hp
    rw [role_over] at hp
    split at hp
    · rename_i ht
      obtain ⟨q, hq, rfl⟩ := Option.map_eq_some_iff.mp hp
      exact ⟨fun _ => rfl, fun _ => hidle t ht q hq⟩
    · exact h t p hp

theorem truthful_apply_iff (hk : Keyed l) (h : AllTruthful l) (hen : l.Enabled ev) :
    AllTruthful (l.apply ev) ↔ KeepsTruthful l ev := by
  cases ev with
  | quiet => exact ⟨fun _ => trivial, fun _ => h⟩
  | start s => exact ⟨fun _ => trivial, fun _ => h⟩
  | enter s =>
    refine ⟨fun _ => trivial, fun _ => (truthful_setRole_iff h _).mpr ?_⟩
    intro p hp
    cases hp
    exact ⟨fun _ => rfl, fun _ => rfl⟩
  | evict s => exact ⟨fun _ => trivial, fun _ => (truthful_setRole_iff h _).mpr fun p hp => by cases hp⟩
  | select s roletype row =>
    refine ⟨fun _ => trivial, fun _ => truthful_modify_same h ?_ ?_⟩
    · intro p
      cases row <;> rfl
    · intro p
      cases row <;> rfl
  | wait s => exact ⟨fun _ => trivial, fun _ => truthful_modify_same h (fun _ => rfl) fun _ => rfl⟩
  | sync s payload => exact truthful_modify_iff h
  | create s id roomname =>
    obtain ⟨p, hp, -⟩ := hen
    have h' : AllTruthful (if l.room id = none then l.setRoom id (some (newRoom s id roomname p))
        else l) := by
      split <;> exact h
    have hp' : (if l.room id = none then l.setRoom id (some (newRoom s id roomname p))
        else l).role s = some p := by
      split <;> exact hp
    simp only [Lobby.apply, hp]
    rw [truthful_modify_iff h']
    refine ⟨?_, ?_⟩
    · intro hall
      exact (truthful_entered (p := asOwner id p) rfl rfl).mp (hall p hp')
    · intro hid q hq
      exact (truthful_entered rfl rfl).mpr hid
  | join s k team teamid via =>
    obtain ⟨p, r, hp, hr, -⟩ := hen
    have hkey : ∀ q, (asMember r.roomid team teamid q).roomid = k := fun _ => hk k r hr
    simp only [Lobby.apply, hp, hr]
    rw [truthful_modify_iff (l := l.setRoom k _) h]
    refine ⟨?_, ?_⟩
    · intro hall
      exact (truthful_entered rfl (hkey p)).mp (hall p hp)
    · intro hk0 q hq
      exact (truthful_entered rfl (hkey q)).mpr hk0
  | leave s k via =>
    obtain ⟨p, r, hp, hr, -⟩ := hen
    refine ⟨fun _ => trivial, fun _ => ?_⟩
    have hidle : ∀ q, Truthful (asIdle q) := fun q => ⟨fun _ => rfl, fun _ => rfl⟩
    simp only [Lobby.apply, hp, hr]
    split
    · exact (truthful_modify_iff (l := l.setRoom _ none) h).mpr fun q _ => hidle q
    · exact (truthful_modify_iff (truthful_promote h _)).mpr fun q _ => hidle q
  | gameOver s k => exact truthful_over_iff h

theorem truthful_empty : AllTruthful emptyLobby := by
  intro s p h
  cases h

variable {DB : Type} {sqlite : Sqlite DB} {db : DB}

/-- Throughout a run the role infos say idle exactly for players outside of rooms
if and only if every step keeps it so. -/
theorem truthful_iff_keepsTruthful (tr : List (Process DB × Action)) (st : Process DB)
    (h : ServerRun sqlite db tr st) :
    (∀ x ∈ points tr st, AllTruthful (lobby x.2.cache)) ↔
      ∀ x ∈ tr, KeepsTruthful (lobby x.1.cache) (event sqlite x.1 x.2) :=
  lobby_always_iff keyed_empty (fun _ _ => keyed_apply) truthful_empty
    (fun _ _ => truthful_apply_iff) h

theorem truthful_after_joining : ∃ tr st, ServerRun noTables () tr st ∧
    actions tr = [.accept 7 0, createRoom 7, .accept 8 0, joinTeam 8 111111 .Team_B 0] ∧
    ((∀ x ∈ points tr st, AllTruthful (lobby x.2.cache)) ↔
      ∀ x ∈ tr, KeepsTruthful (lobby x.1.cache) (event noTables x.1 x.2)) := by
  obtain ⟨tr, st, hrun, hact, -⟩ := exists_run noTables ()
    [.accept 7 0, createRoom 7, .accept 8 0, joinTeam 8 111111 .Team_B 0] (fun _ _ => true)
    (by decide +kernel)
  exact ⟨tr, st, hrun, hact, truthful_iff_keepsTruthful tr st hrun⟩

/-- When the game is over the player has no room, but is not idle either. -/
theorem game_over_not_truthful : ∃ tr st, ServerRun noTables () tr st ∧
    actions tr = [.accept 7 0, createRoom 7, gameOver 7] ∧ ¬ AllTruthful (lobby st.cache) := by
  obtain ⟨tr, st, hrun, hact, hq⟩ := exists_run noTables () [.accept 7 0, createRoom 7, gameOver 7]
    (fun _ st => (lobby st.cache).role 7 |>.any fun p => p.roomid = 0 && p.roomstate = .RT_JoinRoom)
    (by decide +kernel)
  refine ⟨tr, st, hrun, hact, ?_⟩
  intro hall
  obtain ⟨p, hp, hq⟩ := Option.any_eq_true _ _ |>.mp hq
  simp only [Bool.and_eq_true, decide_eq_true_eq] at hq
  have hidle := (hall 7 p hp).mpr hq.1
  rw [hq.2] at hidle
  cases hidle

end JiraGame.Availability
