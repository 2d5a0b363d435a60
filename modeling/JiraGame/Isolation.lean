import JiraGame.Frame

namespace JiraGame.Isolation

open JiraGame.Scene JiraGame.Command JiraGame.DBServer JiraGame.HallScene JiraGame.ServerState
open JiraGame.Server JiraGame.RoomTable JiraGame.Refinement JiraGame.RoomChanges
open JiraGame.Membership JiraGame.Frame JiraGame.Runs JiraGame.Lib.History

/-- A group of clients and the room ids it uses. -/
structure Side where
  member : SOCKET → Bool
  uses : Int → Bool

/-- Clients of the group change rooms of the group only, and the others change
other rooms only. -/
def Within (side : Side) (l : Lobby) : Event → Prop
  | .create s k _ | .join s k _ _ _ | .leave s k _ => side.member s = side.uses k
  | .gameOver s k => l.room k ≠ none → side.member s = side.uses k
  | _ => True

instance (side : Side) (l : Lobby) (ev : Event) : Decidable (Within side l ev) :=
  match ev with
  | .create _ _ _ | .join _ _ _ _ _ | .leave _ _ _ => inferInstanceAs (Decidable (_ = _))
  | .gameOver _ _ => inferInstanceAs (Decidable (_ → _))
  | .quiet | .enter _ | .evict _ | .select _ _ _ | .wait _ | .start _ | .sync _ _ =>
    inferInstanceAs (Decidable True)

def mine (side : Side) (ev : Event) : Bool := (client ev).any side.member

/-- What the group sees of rooms and role infos: its own. -/
def restrict (side : Side) (l : Lobby) : Lobby where
  room := fun k => if side.uses k then l.room k else none
  role := fun s => if side.member s then l.role s else none

/-- Every room has members of one side only. -/
def Separate (side : Side) (l : Lobby) : Prop :=
  ∀ k, ∀ t ∈ sockets l k, side.member t = side.uses k

variable {side : Side} {l : Lobby} {ev : Event} {s : SOCKET} {k : Int}

section Restrict

theorem room_restrict (hk : side.uses k = true) : (restrict side l).room k = l.room k :=
  if_pos hk

theorem role_restrict (hs : side.member s = true) : (restrict side l).role s = l.role s :=
  if_pos hs

theorem restrict_setRoom (hk : side.uses k = true) (o : Option RoomInfo) :
    restrict side (l.setRoom k o) = (restrict side l).setRoom k o := by
  apply Lobby.ext
  · funext j
    by_cases hj : j = k
    · subst hj
      simp [restrict, hk]
    · simp [restrict, hj]
  · rfl

theorem restrict_setRole (hs : side.member s = true) (o : Option PlayerInfo) :
    restrict side (l.setRole s o) = (restrict side l).setRole s o := by
  apply Lobby.ext
  · rfl
  · funext t
    by_cases ht : t = s
    · subst ht
      simp [restrict, hs]
    · simp [restrict, ht]

theorem restrict_modify (s : SOCKET) (f : PlayerInfo → PlayerInfo) :
    restrict side (l.modify s f) = (restrict side l).modify s f := by
  apply Lobby.ext
  · rfl
  · funext t
    by_cases ht : t = s
    · subst ht
      by_cases hs : side.member t = true
      · simp [restrict, hs]
      · simp [restrict, hs]
    · simp [restrict, ht]

theorem restrict_promote (o : Option PlayerInfo) :
    restrict side (l.promote o) = (restrict side l).promote o := by
  cases o with
  | none => rfl
  | some q => exact restrict_modify q.socket _

theorem restrict_mine (hk : Keyed l) (hen : l.Enabled ev) (hw : Within side l ev)
    (hm : mine side ev = true) : restrict side (l.apply ev) = (restrict side l).apply ev := by
  cases ev with
  | quiet => rfl
  | start s => rfl
  | enter s => exact restrict_setRole hm _
  | evict s => exact restrict_setRole hm _
  | select s roletype row => exact restrict_modify s _
  | wait s => exact restrict_modify s _
  | sync s payload => exact restrict_modify s _
  | create s id roomname =>
    obtain ⟨p, hp, -⟩ := hen
    have hid : side.uses id = true := hw ▸ hm
    simp only [Lobby.apply, role_restrict hm, room_restrict hid, hp]
    rw [restrict_modify]
    split
    · rw [restrict_setRoom hid]
    · rfl
  | join s k team teamid via =>
    obtain ⟨p, r, hp, hr, -⟩ := hen
    have hid : side.uses k = true := hw ▸ hm
    simp only [Lobby.apply, role_restrict hm, room_restrict hid, hp, hr]
    rw [restrict_modify, restrict_setRoom hid]
  | leave s k via =>
    obtain ⟨p, r, hp, hr, -⟩ := hen
    have hid : side.uses k = true := hw ▸ hm
    simp only [Lobby.apply, role_restrict hm, room_restrict hid, hp, hr, leaveKey_eq hk hr]
    split
    · rw [restrict_modify, restrict_setRoom hid]
    · rw [restrict_setRoom hid, restrict_modify, restrict_promote]
  | gameOver s k =>
    cases hr : l.room k with
    | none =>
      have hnone : (restrict side l).room k = none := by simp [restrict, hr]
      simp only [Lobby.apply, hr, hnone]
    | some r =>
      have hid : side.uses k = true := (hw (by simp [hr])) ▸ hm
      simp only [Lobby.apply, room_restrict hid, hr]
      apply Lobby.ext
      · funext j
        by_cases hj : j = k
        · simp [restrict, hj]
        · simp [restrict, hj]
      · funext t
        by_cases ht : side.member t = true
        · simp [restrict, ht]
        · simp [restrict, ht]

theorem separate_apply (hk : Keyed l) (h : Separate side l) (hen : l.Enabled ev)
    (hw : Within side l ev) : Separate side (l.apply ev) := by
  intro k t ht
  cases he : entrant l ev with
  | none => exact h k t ((sockets_no_entrant hk hen he k).subset ht)
  | some x =>
    obtain ⟨j, s⟩ := x
    rw [sockets_entrant hen he] at ht
    by_cases hkj : k = j
    · subst hkj
      rw [Function.update_self, List.mem_append, List.mem_singleton] at ht
      obtain ht | rfl := ht
      · exact h k t ht
      · cases ev with
        | create s id roomname =>
          rw [entrant] at he
          split at he
          · cases he
            exact hw
          · cases he
        | join s i team teamid via =>
          cases he
          exact hw
        | _ => cases he
    · rw [Function.update_of_ne hkj] at ht
      exact h k t ht

/-- Another client's event is about a room of the group only when a game ends
without a room. -/
theorem foreign_target (hw : Within side l ev) (hm : mine side ev = false)
    (ht : target ev = some k) (hk : side.uses k = true) :
    ∃ s, ev = .gameOver s k ∧ l.room k = none := by
  cases ev with
  | create s id roomname =>
    cases ht
    have hs : side.member s = true := hw.trans hk
    exact absurd (hs.symm.trans hm) (by decide)
  | join s j team teamid via =>
    cases ht
    have hs : side.member s = true := hw.trans hk
    exact absurd (hs.symm.trans hm) (by decide)
  | leave s j via =>
    cases ht
    have hs : side.member s = true := hw.trans hk
    exact absurd (hs.symm.trans hm) (by decide)
  | gameOver s j =>
    cases ht
    refine ⟨s, rfl, ?_⟩
    by_contra hr
    have hs : side.member s = true := (hw hr).trans hk
    exact absurd (hs.symm.trans hm) (by decide)
  | _ => cases ht

theorem foreign_room (hkey : Keyed l) (hw : Within side l ev) (hm : mine side ev = false)
    (hk : side.uses k = true) : (l.apply ev).room k = l.room k := by
  by_cases ht : target ev = some k
  · obtain ⟨s, rfl, hr⟩ := foreign_target hw hm ht hk
    simp only [Lobby.apply, hr]
  · exact room_frame hkey ht

/-- What is no event of the group leaves its rooms and role infos alone. -/
theorem restrict_other (hkey : Keyed l) (h : Separate side l) (hen : l.Enabled ev)
    (hw : Within side l ev) (hm : mine side ev = false) :
    restrict side (l.apply ev) = restrict side l := by
  have hrole : ∀ t, side.member t = true → (l.apply ev).role t = l.role t := by
    intro t ht
    have hclient : client ev ≠ some t := by
      intro hev
      rw [mine, hev, Option.any_some, ht] at hm
      cases hm
    cases role_frame hkey hen with
    | kept hrole => exact hrole t hclient
    | promoted k r' q hk hr' hq hrole =>
      rw [hrole t hclient, if_neg]
      rintro rfl
      have hin : q.socket ∈ sockets (l.apply ev) k := by
        rw [sockets, roster_of_room hr']
        exact List.mem_map_of_mem hq
      have huses := separate_apply hkey h hen hw k _ hin
      obtain ⟨s, -, hr⟩ := foreign_target hw hm hk (huses.symm.trans ht)
      rw [foreign_room hkey hw hm (huses.symm.trans ht), hr] at hr'
      cases hr'
    | cleared k r hover hk hr _ hrole =>
      rw [hrole t hclient, if_neg]
      intro hin
      have huses := h k t (by rw [sockets, roster_of_room hr]; exact hin)
      obtain ⟨s, -, hnone⟩ := foreign_target hw hm hk (huses.symm.trans ht)
      rw [hr] at hnone
      cases hnone
  apply Lobby.ext
  · funext k
    simp only [restrict]
    split
    · rename_i hk
      exact foreign_room hkey hw hm hk
    · rfl
  · funext t
    simp only [restrict]
    split
    · rename_i ht
      exact hrole t ht
    · rfl

end Restrict

section Runs

variable {DB DB' : Type} {sqlite : Sqlite DB} {sqlite' : Sqlite DB'} {db : DB} {db' : DB'}

def events (sqlite : Sqlite DB) (tr : List (Process DB × Action)) : List Event :=
  (tr.map fun x => event sqlite x.1 x.2).reverse

def replay (evs : List Event) : Lobby := evs.foldl Lobby.apply emptyLobby

theorem replay_append (evs : List Event) (ev : Event) :
    replay (evs ++ [ev]) = (replay evs).apply ev := by
  rw [replay, List.foldl_append]
  rfl

theorem restrict_run {tr : List (Process DB × Action)} {st : Process DB}
    (h : ServerRun sqlite db tr st)
    (hw : ∀ x ∈ tr, Within side (lobby x.1.cache) (event sqlite x.1 x.2)) :
    restrict side (lobby st.cache) = replay ((events sqlite tr).filter (mine side)) ∧
      Separate side (lobby st.cache) := by
  refine Run.always (I := fun tr (st : Process DB) =>
      restrict side (lobby st.cache) = replay ((events sqlite tr).filter (mine side)) ∧
        Separate side (lobby st.cache))
    (C := fun st a => Within side (lobby st.cache) (event sqlite st a)) ?_ ?_ h hw
  · rw [lobby_start]
    refine ⟨?_, fun k t ht => by cases ht⟩
    apply Lobby.ext
    · funext k
      exact ite_self none
    · funext t
      exact ite_self none
  · rintro tr st a st' hrun ⟨hi, hsep⟩ hwithin ⟨out, hstep⟩
    have hkey := lobby_invariant keyed_empty (fun _ _ => keyed_apply) hrun
    obtain ⟨hen, happ⟩ := step_refines hstep
    have hevents : events sqlite ((st, a) :: tr) = events sqlite tr ++ [event sqlite st a] := by
      rw [events, List.map_cons, List.reverse_cons]
      rfl
    rw [happ, hevents, List.filter_append]
    refine ⟨?_, separate_apply hkey hsep hen hwithin⟩
    cases hm : mine side (event sqlite st a) with
    | true =>
      rw [restrict_mine hkey hen hwithin hm, hi, List.filter_singleton, hm]
      exact (replay_append _ _).symm
    | false =>
      rw [restrict_other hkey hsep hen hwithin hm, hi, List.filter_singleton, hm]
      exact (congrArg replay (List.append_nil _)).symm

/-- In two runs in which a group does the same, whatever the others do and however
the two are interleaved, its rooms and role infos are the same in the end. -/
theorem group_isolated (side : Side) (tr : List (Process DB × Action)) (st : Process DB)
    (tr' : List (Process DB' × Action)) (st' : Process DB') (h : ServerRun sqlite db tr st)
    (h' : ServerRun sqlite' db' tr' st')
    (hw : ∀ x ∈ tr, Within side (lobby x.1.cache) (event sqlite x.1 x.2))
    (hw' : ∀ x ∈ tr', Within side (lobby x.1.cache) (event sqlite' x.1 x.2))
    (hsame : (events sqlite tr).filter (mine side) = (events sqlite' tr').filter (mine side)) :
    (∀ k, side.uses k = true → st.cache.FindEntityRoom k = st'.cache.FindEntityRoom k) ∧
      ∀ s, side.member s = true → (lobby st.cache).role s = (lobby st'.cache).role s := by
  have heq : restrict side (lobby st.cache) = restrict side (lobby st'.cache) := by
    rw [(restrict_run h hw).1, (restrict_run h' hw').1, hsame]
  refine ⟨?_, ?_⟩
  · intro k hk
    rw [← room_lobby, ← room_lobby, ← room_restrict hk, heq, room_restrict hk]
  · intro s hs
    rw [← role_restrict hs, heq, role_restrict hs]

def createOther (s : SOCKET) : Action :=
  .packet s { curscene? := some .CS_WaitRoom
              hallrequest? := some { msgtype? := some .HST_CreateRoom, roomname? := some "other" } }
    (List.replicate 12 1)

/-- A check of one run: the group kept to itself and did the given. -/
def keptTo (side : Side) (evs : List Event) (tr : List (Process Unit × Action)) : Bool :=
  (tr.all fun x : Process Unit × Action =>
    decide (Within side (lobby x.1.cache) (event noTables x.1 x.2))) &&
    (events noTables tr).filter (mine side) = evs

/-- Client 7 alone, and beside two clients with a room of their own. -/
theorem creator_isolated : ∃ tr st tr' st', ServerRun noTables () tr st ∧
    ServerRun noTables () tr' st' ∧ actions tr = [.accept 7 0, createRoom 7] ∧
    actions tr' = [.accept 9 0, .accept 7 0, createOther 9, createRoom 7, .accept 8 0,
      joinTeam 8 222222 .Team_B 0] ∧
    st.cache.FindEntityRoom 111111 = st'.cache.FindEntityRoom 111111 ∧
    (lobby st.cache).role 7 = (lobby st'.cache).role 7 := by
  obtain ⟨tr, st, hrun, hact, htest⟩ := exists_run noTables () [.accept 7 0, createRoom 7]
    (fun tr _ => keptTo ⟨fun s => s = 7, fun k => k = 111111⟩
      [.enter 7, .create 7 111111 "room"] tr) (by decide +kernel)
  obtain ⟨tr', st', hrun', hact', htest'⟩ := exists_run noTables () [.accept 9 0, .accept 7 0,
    createOther 9, createRoom 7, .accept 8 0, joinTeam 8 222222 .Team_B 0]
    (fun tr _ => keptTo ⟨fun s => s = 7, fun k => k = 111111⟩
      [.enter 7, .create 7 111111 "room"] tr) (by decide +kernel)
  obtain ⟨hw, hmine⟩ := Bool.and_eq_true_iff.mp htest
  obtain ⟨hw', hmine'⟩ := Bool.and_eq_true_iff.mp htest'
  have hiso := group_isolated ⟨fun s => s = 7, fun k => k = 111111⟩ tr st tr' st' hrun hrun'
    (fun x hx => of_decide_eq_true (List.all_eq_true.mp hw x hx))
    (fun x hx => of_decide_eq_true (List.all_eq_true.mp hw' x hx))
    ((of_decide_eq_true hmine).trans (of_decide_eq_true hmine').symm)
  exact ⟨tr, st, tr', st', hrun, hrun', hact, hact', hiso.1 111111 rfl, hiso.2 7 rfl⟩

end Runs

end JiraGame.Isolation
