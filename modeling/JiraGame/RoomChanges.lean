import JiraGame.RoomTable

namespace JiraGame.RoomChanges

open JiraGame.Scene JiraGame.HallScene JiraGame.RoomTable

/-- The entry on the seat of the new owner, if there is one, gets the owner flag. -/
def crown (owner : Option PlayerInfo) (p : PlayerInfo) : PlayerInfo :=
  match owner with
  | some q => if p.seat = q.seat then p.set_isroomctl true else p
  | none => p

section Roster

variable {β : Type} {roleid : Int} {fromRoster : Bool}

theorem map_copyOthers (f : PlayerInfo → β) (hf : ∀ p, f (p.set_isroomctl true) = f p)
    (isCaptain leader : Bool) (ps : List PlayerInfo) :
    (copyOthers roleid fromRoster isCaptain leader ps).1.map f =
      (ps.filter fun p => p.roleid ≠ roleid).map f := by
  induction ps generalizing isCaptain leader with
  | nil => rfl
  | cons p ps ih =>
    by_cases hp : p.roleid = roleid
    · rw [copyOthers, if_pos hp, ih, List.filter_cons_of_neg (by simpa using hp)]
    · rw [copyOthers, if_neg hp, List.filter_cons_of_pos (by simpa using hp)]
      split
      · rw [List.map_cons, List.map_cons, hf, ih]
      · rw [List.map_cons, List.map_cons, ih]

theorem forall_copyOthers {P : PlayerInfo → Prop} (hP : ∀ p, P p → P (p.set_isroomctl true))
    {isCaptain leader : Bool} {ps : List PlayerInfo} (h : ∀ p ∈ ps, P p) :
    ∀ q ∈ (copyOthers roleid fromRoster isCaptain leader ps).1, P q := by
  induction ps generalizing isCaptain leader with
  | nil => exact h
  | cons p ps ih =>
    obtain ⟨hp, hps⟩ := List.forall_mem_cons.mp h
    rw [copyOthers]
    split
    · exact ih hps
    · split
      · exact List.forall_mem_cons.mpr ⟨hP p hp, ih hps⟩
      · exact List.forall_mem_cons.mpr ⟨hp, ih hps⟩

theorem copyOthers_leader (isCaptain : Bool) (ps : List PlayerInfo) :
    copyOthers roleid fromRoster isCaptain true ps =
      (ps.filter fun p => p.roleid ≠ roleid, none) := by
  induction ps generalizing isCaptain with
  | nil => rfl
  | cons p ps ih =>
    by_cases hp : p.roleid = roleid
    · rw [copyOthers, if_pos hp, ih, List.filter_cons_of_neg (by simpa using hp)]
    · rw [copyOthers, if_neg hp, if_neg (by simp), ih, List.filter_cons_of_pos (by simpa using hp)]

theorem copyOthers_member (leader : Bool) (ps : List PlayerInfo)
    (h : fromRoster = true → ∀ p ∈ ps, p.isroomctl = false) :
    copyOthers roleid fromRoster false leader ps = (ps.filter fun p => p.roleid ≠ roleid, none) := by
  induction ps with
  | nil => rfl
  | cons p ps ih =>
    have hrest := ih fun hf q hq => h hf q (List.mem_cons_of_mem _ hq)
    by_cases hp : p.roleid = roleid
    · have hno : (false || (fromRoster && p.isroomctl)) = false := by
        cases hf : fromRoster with
        | false => rfl
        | true => simp [h hf p List.mem_cons_self]
      rw [copyOthers, if_pos hp, hno, hrest, List.filter_cons_of_neg (by simpa using hp)]
    · rw [copyOthers, if_neg hp, if_neg (by simp), hrest, List.filter_cons_of_pos (by simpa using hp)]

/-- When the owner leaves, the first who stays becomes owner. -/
theorem copyOthers_captain (ps : List PlayerInfo) :
    (copyOthers roleid fromRoster true false ps).1 =
      match ps.filter fun p => p.roleid ≠ roleid with
      | [] => []
      | q :: rest => q.set_isroomctl true :: rest := by
  induction ps with
  | nil => rfl
  | cons p ps ih =>
    by_cases hp : p.roleid = roleid
    · rw [copyOthers, if_pos hp, Bool.true_or, ih, List.filter_cons_of_neg (by simpa using hp)]
    · rw [copyOthers, if_neg hp, if_pos (by decide), copyOthers_leader,
        List.filter_cons_of_pos (by simpa using hp)]

theorem map_stay (f : PlayerInfo → β) (hf : ∀ p, f (p.set_isroomctl true) = f p) (via : LeavePath)
    (p : PlayerInfo) (ps : List PlayerInfo) :
    (stay via p ps).1.map f = (ps.filter fun q => q.roleid ≠ p.roleid).map f := by
  cases via <;> exact map_copyOthers f hf _ _ ps

theorem length_stay_filter (via : LeavePath) (p : PlayerInfo) (ps : List PlayerInfo) :
    (stay via p ps).1.length = (ps.filter fun q => q.roleid ≠ p.roleid).length := by
  have h := congrArg List.length (map_stay (fun _ => ()) (fun _ => rfl) via p ps)
  simpa only [List.length_map] using h

theorem length_stay (via : LeavePath) (p : PlayerInfo) (ps : List PlayerInfo) :
    (stay via p ps).1.length + ps.countP (fun q => q.roleid = p.roleid) = ps.length := by
  have hcount := List.length_eq_countP_add_countP (fun q => q.roleid = p.roleid) (l := ps)
  simp only [decide_eq_true_eq] at hcount
  rw [length_stay_filter, ← List.countP_eq_length_filter]
  simp only [ne_eq]
  omega

theorem copyOthers_owner_mem {q : PlayerInfo}
    (isCaptain leader : Bool) (ps : List PlayerInfo)
    (h : (copyOthers roleid fromRoster isCaptain leader ps).2 = some q) :
    q ∈ (copyOthers roleid fromRoster isCaptain leader ps).1 := by
  induction ps generalizing isCaptain leader with
  | nil => cases h
  | cons p ps ih =>
    rw [copyOthers] at h ⊢
    split at h
    · rename_i hp
      rw [if_pos hp]
      exact ih _ _ h
    · rename_i hp
      rw [if_neg hp]
      split at h
      · rename_i hcap
        rw [if_pos hcap]
        cases h
        exact List.mem_cons_self
      · rename_i hcap
        rw [if_neg hcap]
        exact List.mem_cons_of_mem _ (ih _ _ h)

theorem crown_of_ne {owner : Option PlayerInfo} {p : PlayerInfo}
    (h : ∀ q, owner = some q → p.seat ≠ q.seat) : crown owner p = p := by
  cases owner with
  | none => rfl
  | some q => rw [crown, if_neg (h q rfl)]

theorem roleid_crown (owner : Option PlayerInfo) (p : PlayerInfo) :
    (crown owner p).roleid = p.roleid := by
  cases owner with
  | none => rfl
  | some q =>
    rw [crown]
    split <;> rfl

theorem socket_crown (owner : Option PlayerInfo) (p : PlayerInfo) :
    (crown owner p).socket = p.socket := by
  cases owner with
  | none => rfl
  | some q =>
    rw [crown]
    split <;> rfl

/-- The loop that copies the members who stay sets the owner flag on the seat of
the new owner, if there is one. -/
theorem copyOthers_crown (isCaptain leader : Bool) {ps : List PlayerInfo}
    (hnd : (ps.map PlayerInfo.seat).Nodup) :
    (copyOthers roleid fromRoster isCaptain leader ps).1 =
      (ps.filter fun p => p.roleid ≠ roleid).map
        (crown (copyOthers roleid fromRoster isCaptain leader ps).2) := by
  induction ps generalizing isCaptain leader with
  | nil => rfl
  | cons p ps ih =>
    rw [List.map_cons, List.nodup_cons] at hnd
    obtain ⟨hseat, hnd⟩ := hnd
    by_cases hp : p.roleid = roleid
    · rw [copyOthers, if_pos hp, List.filter_cons_of_neg (by simpa using hp)]
      exact ih _ leader hnd
    · rw [copyOthers, if_neg hp, List.filter_cons_of_pos (by simpa using hp)]
      split
      · have hsame : p.seat = (p.set_isroomctl true).seat := rfl
        have hrest : ∀ q ∈ ps.filter (fun q => q.roleid ≠ roleid),
            crown (some (p.set_isroomctl true)) q = id q := by
          intro q hq
          refine crown_of_ne ?_
          rintro _ ⟨⟩ he
          exact hseat (List.mem_map.mpr ⟨q, List.mem_of_mem_filter hq, he⟩)
        rw [copyOthers_leader, List.map_cons, crown, if_pos hsame, List.map_congr_left hrest,
          List.map_id]
      · dsimp only
        rw [List.map_cons, ← ih isCaptain leader hnd, crown_of_ne]
        intro q hq he
        have hmem := List.mem_map_of_mem (f := PlayerInfo.seat)
          (copyOthers_owner_mem isCaptain leader ps hq)
        rw [map_copyOthers PlayerInfo.seat fun _ => rfl, ← he] at hmem
        exact hseat ((List.filter_sublist.map PlayerInfo.seat).subset hmem)

theorem stay_crown (via : LeavePath) (p : PlayerInfo) {ps : List PlayerInfo}
    (hnd : (ps.map PlayerInfo.seat).Nodup) :
    (stay via p ps).1 =
      (ps.filter fun q => q.roleid ≠ p.roleid).map (crown (stay via p ps).2) := by
  cases via <;> exact copyOthers_crown _ _ hnd

theorem stay_owner_mem {via : LeavePath} {p q : PlayerInfo} {ps : List PlayerInfo}
    (h : (stay via p ps).2 = some q) : q ∈ (stay via p ps).1 := by
  cases via <;> exact copyOthers_owner_mem _ _ ps h

theorem mem_stay (f : PlayerInfo → β) (hf : ∀ p, f (p.set_isroomctl true) = f p) {via : LeavePath}
    {p : PlayerInfo} {ps : List PlayerInfo} {b : β} :
    (∃ q ∈ (stay via p ps).1, f q = b) ↔ ∃ q ∈ ps, q.roleid ≠ p.roleid ∧ f q = b := by
  have h := congrArg (b ∈ ·) (map_stay f hf via p ps)
  simpa [and_assoc] using h

end Roster

/-- Every room is stored under its own id. -/
def Keyed (l : Lobby) : Prop := ∀ k r, l.room k = some r → r.roomid = k

/-- The four ways the room stored under `k` after an event comes about. -/
inductive RoomChange (l : Lobby) (k : Int) (r' : RoomInfo) : Event → Prop
  | kept (ev : Event) : l.room k = some r' → RoomChange l k r' ev
  | created (s : SOCKET) (roomname : String) (p : PlayerInfo) :
      l.role s = some p → l.room k = none → roomname ≠ "" → r' = newRoom s k roomname p →
      RoomChange l k r' (.create s k roomname)
  | joined (s : SOCKET) (team : TeamType) (teamid : Int) (via : JoinPath) (p : PlayerInfo)
      (r : RoomInfo) :
      l.role s = some p → l.room k = some r → (∀ q ∈ r.playerinfo, q.seat ≠ (team, teamid)) →
      (via = .joinRoom → teamid ∈ [0, 1, 2]) → r' = joined r (entryOf via s p r team teamid) →
      RoomChange l k r' (.join s k team teamid via)
  | left (s : SOCKET) (via : LeavePath) (p : PlayerInfo) (r : RoomInfo) :
      l.role s = some p → l.room k = some r → ¬ lastLeaves r = true →
      r' = leftRoom r (stay via p r.playerinfo).1 → RoomChange l k r' (.leave s k via)

theorem leaveKey_eq {l : Lobby} (hk : Keyed l) {k : Int} {r : RoomInfo} (h : l.room k = some r)
    (via : LeavePath) : leaveKey via k r = k := by
  cases via with
  | joinRoom => exact hk k r h
  | leaveRoom => rfl
  | keepAlive => rfl

variable {l : Lobby} {k : Int} {r' : RoomInfo}

theorem room_change {ev : Event} (hk : Keyed l) (hen : l.Enabled ev)
    (h : (l.apply ev).room k = some r') : RoomChange l k r' ev := by
  cases ev with
  | quiet => exact .kept _ h
  | enter s => exact .kept _ h
  | evict s => exact .kept _ h
  | select s roletype row => exact .kept _ h
  | wait s => exact .kept _ h
  | start s => exact .kept _ h
  | sync s payload => exact .kept _ h
  | create s id roomname =>
    obtain ⟨p, hp, -, hname, -⟩ := hen
    simp only [Lobby.apply, hp, Lobby.room_modify] at h
    split at h
    · rename_i hnew
      rw [Lobby.room_setRoom] at h
      split at h
      · rename_i hki
        rw [Option.some.injEq] at h
        rw [hki]
        exact .created s roomname p hp hnew hname h.symm
      · exact .kept _ h
    · exact .kept _ h
  | join s j team teamid via =>
    obtain ⟨p, r, hp, hr, hfree, hgrid⟩ := hen
    simp only [Lobby.apply, hp, hr, Lobby.room_modify, Lobby.room_setRoom] at h
    split at h
    · rename_i hkj
      rw [Option.some.injEq] at h
      rw [hkj]
      exact .joined s team teamid via p r hp hr hfree hgrid h.symm
    · exact .kept _ h
  | leave s j via =>
    obtain ⟨p, r, hp, hr, -, -⟩ := hen
    simp only [Lobby.apply, hp, hr, leaveKey_eq hk hr] at h
    split at h
    · rw [Lobby.room_modify, Lobby.room_setRoom] at h
      split at h
      · cases h
      · exact .kept _ h
    · rename_i hlast
      rw [Lobby.room_setRoom] at h
      split at h
      · rename_i hkj
        rw [Option.some.injEq] at h
        rw [hkj]
        exact .left s via p r hp hr hlast h.symm
      · rw [Lobby.room_modify, Lobby.room_promote] at h
        exact .kept _ h
  | gameOver s j =>
    cases hr : l.room j with
    | none =>
      simp only [Lobby.apply, hr] at h
      exact .kept _ h
    | some r =>
      simp only [Lobby.apply, hr, Function.update_apply] at h
      split at h
      · cases h
      · exact .kept _ h

section After

variable {s : SOCKET} {p : PlayerInfo} {r : RoomInfo}

theorem room_create {roomname : String} (hp : l.role s = some p) (hr : l.room k = none) :
    (l.apply (.create s k roomname)).room k = some (newRoom s k roomname p) := by
  simp [Lobby.apply, hp, hr]

theorem room_join {team : TeamType} {teamid : Int} {via : JoinPath} (hp : l.role s = some p)
    (hr : l.room k = some r) : (l.apply (.join s k team teamid via)).room k =
      some (joined r (entryOf via s p r team teamid)) := by
  simp [Lobby.apply, hp, hr]

theorem room_leave {via : LeavePath} (hk : Keyed l) (hp : l.role s = some p)
    (hr : l.room k = some r) (hlast : ¬ lastLeaves r = true) :
    (l.apply (.leave s k via)).room k = some (leftRoom r (stay via p r.playerinfo).1) := by
  simp only [Lobby.apply, hp, hr, leaveKey_eq hk hr, if_neg hlast, Lobby.room_setRoom, if_true]

end After

def roster (l : Lobby) (k : Int) : List PlayerInfo :=
  match l.room k with
  | some r => r.playerinfo
  | none => []

section Roster

variable {s : SOCKET} {p : PlayerInfo} {r : RoomInfo}

theorem roster_of_room (h : l.room k = some r) : roster l k = r.playerinfo := by
  simp only [roster, h]

theorem roster_congr {l' : Lobby} (h : l'.room = l.room) : roster l' = roster l := by
  funext j
  simp only [roster, h]

theorem roster_setRoom (k : Int) (o : Option RoomInfo) : roster (l.setRoom k o) =
    Function.update (roster l) k (o.elim [] RoomInfo.playerinfo) := by
  funext j
  by_cases hj : j = k
  · subst hj
    cases o <;> simp [roster]
  · rw [Function.update_of_ne hj]
    simp [roster, hj]

theorem roster_create {roomname : String} (hp : l.role s = some p) :
    roster (l.apply (.create s k roomname)) =
      if l.room k = none then Function.update (roster l) k [ownerEntry s p] else roster l := by
  simp only [Lobby.apply, hp]
  split
  · rw [roster_congr (Lobby.room_modify _ _ _), roster_setRoom]
    rfl
  · exact roster_congr (Lobby.room_modify _ _ _)

theorem roster_join {team : TeamType} {teamid : Int} {via : JoinPath} (hp : l.role s = some p)
    (hr : l.room k = some r) : roster (l.apply (.join s k team teamid via)) =
      Function.update (roster l) k (roster l k ++ [entryOf via s p r team teamid]) := by
  simp only [Lobby.apply, hp, hr]
  rw [roster_congr (Lobby.room_modify _ _ _), roster_setRoom, roster_of_room hr]
  rfl

theorem roster_leave {via : LeavePath} (hk : Keyed l) (hp : l.role s = some p)
    (hr : l.room k = some r) : roster (l.apply (.leave s k via)) =
      Function.update (roster l) k
        (if lastLeaves r then [] else (stay via p (roster l k)).1) := by
  simp only [Lobby.apply, hp, hr, leaveKey_eq hk hr, roster_of_room hr]
  split
  · rw [roster_congr (Lobby.room_modify _ _ _), roster_setRoom]
    rfl
  · rw [roster_setRoom, roster_congr (Lobby.room_modify _ _ _),
      roster_congr (Lobby.room_promote _ _)]
    rfl

theorem roster_over : roster (l.apply (.gameOver s k)) = Function.update (roster l) k [] := by
  cases hr : l.room k with
  | none =>
    have hempty : roster l k = [] := by simp only [roster, hr]
    simp only [Lobby.apply, hr]
    rw [← hempty, Function.update_eq_self]
  | some r =>
    have hroom : (l.apply (.gameOver s k)).room = (l.setRoom k none).room := by
      simp only [Lobby.apply, hr]
      rfl
    rw [roster_congr hroom, roster_setRoom]
    rfl

end Roster

theorem keyed_empty : Keyed emptyLobby := by
  intro k r h
  cases h

theorem keyed_apply {ev : Event} (hk : Keyed l) (hen : l.Enabled ev) : Keyed (l.apply ev) := by
  intro k r' h
  cases room_change hk hen h with
  | kept _ hr => exact hk k r' hr
  | created s roomname p _ _ _ he => rw [he]; rfl
  | joined s team teamid via p r _ hr _ _ he => rw [he]; exact hk k r hr
  | left s via p r _ hr _ he => rw [he]; exact hk k r hr

end JiraGame.RoomChanges
