import JiraGame.Runs
import JiraGame.RoomChanges

namespace JiraGame.RoomId

open JiraGame.Scene JiraGame.Command JiraGame.Utilitys JiraGame.DBServer JiraGame.Cache
open JiraGame.HallScene JiraGame.ServerState JiraGame.Server JiraGame.RoomTable
open JiraGame.Refinement JiraGame.RoomChanges JiraGame.Runs JiraGame.Lib.History

theorem le_digits (acc : Nat) (cs : List Char) : acc ≤ digits acc cs := by
  induction cs generalizing acc with
  | nil => exact Nat.le_refl _
  | cons c cs ih =>
    rw [digits]
    split
    · exact Nat.le_trans (by omega) (ih _)
    · exact Nat.le_refl _

theorem string2Int_pos {str : String} {d : Char} {cs : List Char} (h : str.toList = d :: cs)
    (hd : d ∈ ['1', '2', '3', '4', '5', '6', '7', '8', '9']) : 0 < string2Int str := by
  have hpos : ∀ n : Nat, 1 ≤ n → 0 < min (digits n cs : Int) 2147483647 := by
    intro n hn
    have hle := le_digits n cs
    omega
  rw [string2Int]
  rw [h]
  simp only [List.mem_cons, List.not_mem_nil, or_false] at hd
  rcases hd with rfl | rfl | rfl | rfl | rfl | rfl | rfl | rfl | rfl <;>
    exact hpos _ (by decide)

theorem text_head : ∀ k : Fin 10, (toString (k.val + 1)).toList.head? ∈
    ['1', '2', '3', '4', '5', '6', '7', '8', '9'].map some := by
  decide +kernel

theorem toList_foldl (rand : List Nat) (acc : String) :
    ∃ cs, (rand.foldl (fun CServerRandomID r => CServerRandomID ++ toString (r % 10 + 1)) acc).toList =
      acc.toList ++ cs := by
  induction rand generalizing acc with
  | nil => exact ⟨[], (List.append_nil _).symm⟩
  | cons r rand ih =>
    obtain ⟨cs, hcs⟩ := ih (acc ++ toString (r % 10 + 1))
    refine ⟨(toString (r % 10 + 1)).toList ++ cs, ?_⟩
    rw [List.foldl_cons, hcs, String.toList_append, List.append_assoc]

theorem string2Int_random_pos (r : Nat) (rand : List Nat) :
    0 < string2Int (GenrateRandomID (r :: rand)) := by
  obtain ⟨d, hd, hhead⟩ := List.mem_map.mp (text_head ⟨r % 10, Nat.mod_lt r (by decide)⟩)
  obtain ⟨cs, hcs⟩ := toList_foldl rand ("" ++ toString (r % 10 + 1))
  obtain ⟨ds, hds⟩ := List.head?_eq_some_iff.mp hhead.symm
  refine @string2Int_pos _ d (ds ++ cs) ?_ hd
  rw [GenrateRandomID, List.foldl_cons, hcs, String.toList_append, hds]
  rfl

/-- The id that the first six outputs of `rand()` give. -/
def draw (rand : List Nat) : Int := string2Int (GenrateRandomID (rand.take 6))

def randOf : Action → List Nat
  | .packet _ _ rand => rand
  | _ => []

/-- A room is created with a first draw that no room has. -/
def CreatesFresh {DB : Type} (sqlite : Sqlite DB) (st : Process DB) (a : Action) : Prop :=
  ∀ s id roomname, event sqlite st a = .create s id roomname →
    st.cache.CheckEntityRoomIsOnly (draw (randOf a)) = true

section Generate

variable {c c' : CCache} {rand rest : List Nat} {id : Int} {s : SOCKET} {e : CClientEntity}

theorem GenrateOnlyRoomID_spec (h : GenrateOnlyRoomID c rand = some (id, rest)) :
    0 < draw rand ∧ id = if c.CheckEntityRoomIsOnly (draw rand) then draw rand else 0 := by
  unfold GenrateOnlyRoomID at h
  split at h
  · rename_i r₁ r₂ r₃ r₄ r₅ r₆ more
    have hdraw : draw (r₁ :: r₂ :: r₃ :: r₄ :: r₅ :: r₆ :: more) =
        string2Int (GenrateRandomID [r₁, r₂, r₃, r₄, r₅, r₆]) := rfl
    rw [hdraw]
    refine ⟨string2Int_random_pos _ _, ?_⟩
    dsimp only at h
    split at h
    · rename_i hfresh
      simp only [Option.some.injEq, Prod.mk.injEq] at h
      rw [if_pos hfresh, ← h.1]
    · rename_i hused
      obtain ⟨x, -, hx⟩ := Option.map_eq_some_iff.mp h
      simp only [Prod.mk.injEq] at hx
      rw [if_neg hused, ← hx.1]
  · cases h

theorem id_iff_fresh (h : GenrateOnlyRoomID c rand = some (id, rest)) :
    (id ≠ 0 ∧ c.CheckEntityRoomIsOnly id = true) ↔
      c.CheckEntityRoomIsOnly (draw rand) = true := by
  obtain ⟨hpos, hid⟩ := GenrateOnlyRoomID_spec h
  by_cases hfresh : c.CheckEntityRoomIsOnly (draw rand) = true
  · rw [if_pos hfresh] at hid
    rw [hid]
    exact ⟨fun h => h.2, fun h => ⟨by omega, h⟩⟩
  · rw [if_neg hfresh] at hid
    exact ⟨fun h => absurd hid h.1, fun h => absurd h hfresh⟩

theorem id_ne_zero_iff (h : GenrateOnlyRoomID c rand = some (id, rest)) :
    id ≠ 0 ↔ c.CheckEntityRoomIsOnly (draw rand) = true := by
  obtain ⟨hpos, hid⟩ := GenrateOnlyRoomID_spec h
  by_cases hfresh : c.CheckEntityRoomIsOnly (draw rand) = true
  · rw [if_pos hfresh] at hid
    exact ⟨fun _ => hfresh, fun _ => by omega⟩
  · rw [if_neg hfresh] at hid
    exact ⟨fun h => absurd hid h, fun h => absurd h hfresh⟩

theorem create_iff_fresh {req : HallRequest} {out : Outbox} (he : c.GetEntity s = some e)
    (hroom : e.roleInfo.roomid = 0) (hname : 0 < req.roomname.length)
    (h : CreateRoom s req rand c = .ok (c', out)) :
    (∃ p, (lobby c').role s = some p ∧ p.roomid ≠ 0 ∧
        c'.FindEntityRoom p.roomid = some (newRoom s p.roomid req.roomname e.roleInfo)) ↔
      c.CheckEntityRoomIsOnly (draw rand) = true := by
  obtain ⟨-, happ⟩ := CreateRoom_refines he h
  have hev : ∃ id rest, GenrateOnlyRoomID c rand = some (id, rest) ∧
      createEvent s req rand e c = .create s id req.roomname := by
    simp only [createEvent, hroom, Nat.not_le_of_gt hname, ne_eq, not_true_eq_false, or_self,
      if_false]
    cases hg : GenrateOnlyRoomID c rand with
    | none =>
      simp [CreateRoom, Nat.ne_of_gt hname, he, hroom, hg] at h
    | some x => exact ⟨x.1, x.2, rfl, rfl⟩
  obtain ⟨id, rest, hg, hev⟩ := hev
  rw [hev] at happ
  have hrole : (lobby c').role s = some (asOwner id e.roleInfo) := by
    rw [happ]
    simp only [Lobby.apply, role_of_entity c he]
    split <;> simp [role_of_entity c he]
  have hid : (asOwner id e.roleInfo).roomid = id := rfl
  rw [← id_ne_zero_iff hg]
  refine ⟨?_, ?_⟩
  · rintro ⟨p, hp, hne, -⟩
    rw [hrole, Option.some.injEq] at hp
    rw [← hp, hid] at hne
    exact hne
  · intro hne
    refine ⟨_, hrole, ?_, ?_⟩
    · rw [hid]
      exact hne
    · rw [hid, ← room_lobby, happ]
      exact room_create (role_of_entity c he) (GenrateOnlyRoomID_fresh hg hne)

end Generate

section Events

variable {DB : Type} {sqlite : Sqlite DB} {c : CCache} {rand : List Nat} {s t : SOCKET} {id : Int}
  {roomname : String}

theorem leaveEvent_ne_create (via : LeavePath) : leaveEvent s via c ≠ .create t id roomname := by
  intro h
  rw [leaveEvent] at h
  repeat' split at h
  all_goals cases h

theorem hallEvent_create {req : HallRequest} (h : hallEvent s req rand c = .create t id roomname) :
    ∃ rest, GenrateOnlyRoomID c rand = some (id, rest) := by
  rw [hallEvent] at h
  split at h
  · cases h
  · split at h
    · split at h
      · rw [createEvent] at h
        split at h
        · cases h
        · split at h
          · rename_i hg
            cases h
            exact ⟨_, hg⟩
          · cases h
      · rw [joinTeamEvent] at h
        repeat' split at h
        all_goals cases h
      · rw [joinRoomEvent] at h
        repeat' split at h
        all_goals cases h
      · exact absurd h (leaveEvent_ne_create _)
      all_goals cases h
    · cases h

theorem event_create {st : Process DB} {a : Action}
    (h : event sqlite st a = .create t id roomname) :
    ∃ rest, GenrateOnlyRoomID st.cache (randOf a) = some (id, rest) := by
  cases a with
  | accept s junk =>
    simp only [event] at h
    repeat' split at h
    all_goals cases h
  | close s => cases h
  | packet s m rand =>
    simp only [event] at h
    split at h
    · split at h
      · cases h
      · rw [packetEvent] at h
        split at h
        · rw [selectEvent] at h
          repeat' split at h
          all_goals cases h
        · exact hallEvent_create h
        · rw [mainEvent] at h
          repeat' split at h
          all_goals cases h
        · cases h
    · cases h
  | poll j now =>
    simp only [event] at h
    split at h
    · rw [tickEvent] at h
      repeat' split at h
      all_goals first | cases h | exact absurd h (leaveEvent_ne_create _)
    · cases h

end Events

theorem room_zero_iff {l : Lobby} {ev : Event} (hk : Keyed l) (h : l.room 0 = none)
    (hen : l.Enabled ev) : (l.apply ev).room 0 = none ↔ ∀ s roomname, ev ≠ .create s 0 roomname := by
  refine ⟨?_, ?_⟩
  · rintro hafter s roomname rfl
    obtain ⟨p, hp, -⟩ := hen
    rw [room_create hp h] at hafter
    cases hafter
  · intro hev
    cases hr' : (l.apply ev).room 0 with
    | none => rfl
    | some r' =>
      cases room_change hk hen hr' with
      | kept _ hr => simp [h] at hr
      | created s roomname p _ _ _ _ => exact absurd rfl (hev s roomname)
      | joined s team teamid via p r _ hr _ _ _ => simp [h] at hr
      | left s via p r _ hr _ _ => simp [h] at hr

section Run

variable {DB : Type} {sqlite : Sqlite DB} {db : DB}

theorem createsFresh_iff {st : Process DB} {a : Action} :
    CreatesFresh sqlite st a ↔ ∀ s roomname, event sqlite st a ≠ .create s 0 roomname := by
  refine ⟨?_, ?_⟩
  · intro hfresh s roomname hev
    obtain ⟨rest, hg⟩ := event_create hev
    exact absurd rfl ((id_ne_zero_iff hg).mpr (hfresh s 0 roomname hev))
  · intro hzero s id roomname hev
    obtain ⟨rest, hg⟩ := event_create hev
    rw [← id_ne_zero_iff hg]
    rintro rfl
    exact hzero s roomname hev

theorem no_zero_room_iff {tr : List (Process DB × Action)} {st : Process DB}
    (h : ServerRun sqlite db tr st) :
    (∀ x ∈ points tr st, x.2.cache.FindEntityRoom 0 = none) ↔
      ∀ x ∈ tr, CreatesFresh sqlite x.1 x.2 := by
  refine Run.always_iff (I := fun _ st : _ => (lobby st.cache).room 0 = none) ?_ ?_ h
  · rw [lobby_start]
    rfl
  · rintro tr st a st' hrun hzero ⟨out, hstep⟩
    obtain ⟨hen, happ⟩ := step_refines hstep
    have hk := lobby_invariant keyed_empty (fun _ _ => keyed_apply) hrun
    rw [happ, createsFresh_iff]
    exact room_zero_iff hk hzero hen

/-- A generated id is usable, a created room is the creator's own, and key 0
stays unused, each exactly when the first draw is the id of no room. -/
theorem room_ids_iff_fresh (tr : List (Process DB × Action)) (st : Process DB)
    (h : ServerRun sqlite db tr st) :
    (∀ rand id rest, GenrateOnlyRoomID st.cache rand = some (id, rest) →
      ((id ≠ 0 ∧ st.cache.FindEntityRoom id = none) ↔
        st.cache.FindEntityRoom (draw rand) = none)) ∧
    (∀ s req rand c' out e, CreateRoom s req rand st.cache = .ok (c', out) →
      st.cache.GetEntity s = some e → e.roleInfo.roomid = 0 → 0 < req.roomname.length →
      ((∃ p, (lobby c').role s = some p ∧ p.roomid ≠ 0 ∧
          c'.FindEntityRoom p.roomid = some (newRoom s p.roomid req.roomname e.roleInfo)) ↔
        st.cache.FindEntityRoom (draw rand) = none)) ∧
    ((∀ x ∈ points tr st, x.2.cache.FindEntityRoom 0 = none) ↔
      ∀ x ∈ tr, ∀ s id roomname, event sqlite x.1 x.2 = .create s id roomname →
        x.1.cache.FindEntityRoom (draw (randOf x.2)) = none) := by
  refine ⟨?_, ?_, ?_⟩
  · intro rand id rest hg
    rw [← CCache.isOnly_iff, ← CCache.isOnly_iff]
    exact id_iff_fresh hg
  · intro s req rand c' out e hc he hroom hname
    rw [← CCache.isOnly_iff]
    exact create_iff_fresh he hroom hname hc
  · rw [no_zero_room_iff h]
    simp only [CreatesFresh, CCache.isOnly_iff]

theorem room_ids_after_creating : ∃ tr st, ServerRun noTables () tr st ∧
    actions tr = [.accept 7 0, createRoom 7] ∧
    (∀ rand id rest, GenrateOnlyRoomID st.cache rand = some (id, rest) →
      ((id ≠ 0 ∧ st.cache.FindEntityRoom id = none) ↔
        st.cache.FindEntityRoom (draw rand) = none)) ∧
    (∀ s req rand c' out e, CreateRoom s req rand st.cache = .ok (c', out) →
      st.cache.GetEntity s = some e → e.roleInfo.roomid = 0 → 0 < req.roomname.length →
      ((∃ p, (lobby c').role s = some p ∧ p.roomid ≠ 0 ∧
          c'.FindEntityRoom p.roomid = some (newRoom s p.roomid req.roomname e.roleInfo)) ↔
        st.cache.FindEntityRoom (draw rand) = none)) ∧
    ((∀ x ∈ points tr st, x.2.cache.FindEntityRoom 0 = none) ↔
      ∀ x ∈ tr, ∀ s id roomname, event noTables x.1 x.2 = .create s id roomname →
        x.1.cache.FindEntityRoom (draw (randOf x.2)) = none) := by
  obtain ⟨tr, st, hrun, hact, -⟩ := exists_run noTables () [.accept 7 0, createRoom 7]
    (fun _ _ => true) (by decide +kernel)
  exact ⟨tr, st, hrun, hact, room_ids_iff_fresh tr st hrun⟩

/-- Two clients draw the same id, and the second room is stored under 0. -/
theorem collision_stores_room_zero : ∃ tr st, ServerRun noTables () tr st ∧
    actions tr = [.accept 7 0, createRoom 7, .accept 8 0,
      .packet 8 { curscene? := some .CS_WaitRoom
                  hallrequest? := some { msgtype? := some .HST_CreateRoom
                                         roomname? := some "room" } }
        [0, 0, 0, 0, 0, 0, 1, 0, 0, 0, 0, 0]] ∧
    ∃ r, st.cache.FindEntityRoom 0 = some r := by
  obtain ⟨tr, st, hrun, hact, r, hr, -⟩ := exists_room_run noTables ()
    [.accept 7 0, createRoom 7, .accept 8 0,
      .packet 8 { curscene? := some .CS_WaitRoom
                  hallrequest? := some { msgtype? := some .HST_CreateRoom
                                         roomname? := some "room" } }
        [0, 0, 0, 0, 0, 0, 1, 0, 0, 0, 0, 0]] 0 (fun _ => true) (by decide +kernel)
  exact ⟨tr, st, hrun, hact, r, hr⟩

end Run

end JiraGame.RoomId
