import JiraGame.Membership
import JiraGame.RoleIds

namespace JiraGame.Admissions

open JiraGame.Scene JiraGame.Command JiraGame.DBServer JiraGame.Cache JiraGame.HallScene
open JiraGame.ServerState JiraGame.Server JiraGame.RoomTable JiraGame.Refinement
open JiraGame.RoomChanges JiraGame.Membership JiraGame.Identities JiraGame.Runs
open JiraGame.AccountTables JiraGame.AccountStore JiraGame.RelationalSqlite
open JiraGame.AccountRefinement JiraGame.AccountRows JiraGame.RoleIds
open JiraGame.Lib.SqlMeaning JiraGame.Lib.History

/-- What never changes in the entry of a member: its connection, who it is and
where it sits. -/
structure Place where
  socket : SOCKET
  identity : Identity
  seat : TeamType × Int

def placeOf (q : PlayerInfo) : Place where
  socket := q.socket
  identity := identity q
  seat := q.seat

def Sits (l : Lobby) (k : Int) (x : Place) : Prop := ∃ q ∈ roster l k, placeOf q = x

def seatGiven : Event → Option (TeamType × Int)
  | .create _ _ _ => some (.Team_A, 0)
  | .join _ _ team teamid _ => some (team, teamid)
  | _ => none

/-- The event puts the client into the room, as who it is at this moment. -/
structure Admits (l : Lobby) (ev : Event) (k : Int) (x : Place) : Prop where
  enters : entrant l ev = some (k, x.socket)
  identity : identities l x.socket = some x.identity
  seat : seatGiven ev = some x.seat

section Lobby

variable {l : Lobby} {ev : Event} {k : Int} {x : Place}

theorem identities_of_role {s : SOCKET} {p : PlayerInfo} (hp : l.role s = some p) :
    identities l s = some (identity p) := by
  rw [identities, hp]
  rfl

theorem sits_step (hk : Keyed l) (hen : l.Enabled ev) (h : Sits (l.apply ev) k x) :
    Sits l k x ∨ Admits l ev k x := by
  obtain ⟨q, hq, rfl⟩ := h
  rw [roster] at hq
  cases hr' : (l.apply ev).room k with
  | none =>
    simp only [hr'] at hq
    cases hq
  | some r' =>
    simp only [hr'] at hq
    cases room_change hk hen hr' with
    | kept _ hr =>
      rw [← roster_of_room hr] at hq
      exact .inl ⟨q, hq, rfl⟩
    | created s roomname p hp hnew _ hrec =>
      rw [hrec] at hq
      have hplace : placeOf (ownerEntry s p) = ⟨s, Identities.identity p, .Team_A, 0⟩ := rfl
      rw [List.mem_singleton.mp hq, hplace]
      exact .inr ⟨if_pos hnew, identities_of_role hp, rfl⟩
    | joined s team teamid via p r hp hr _ _ hrec =>
      rw [hrec] at hq
      obtain hq | hq := List.mem_append.mp hq
      · have hq : q ∈ r.playerinfo := hq
        rw [← roster_of_room hr] at hq
        exact .inl ⟨q, hq, rfl⟩
      · rw [List.mem_singleton.mp hq]
        have hplace : placeOf (entryOf via s p r team teamid) =
            ⟨s, Identities.identity p, team, teamid⟩ := by
          cases via <;> rfl
        rw [hplace]
        exact .inr ⟨rfl, identities_of_role hp, rfl⟩
    | left s via p r _ hr _ hrec =>
      rw [hrec] at hq
      obtain ⟨q', hq', -, hsame⟩ := (mem_stay placeOf (fun _ => rfl)).mp ⟨q, hq, rfl⟩
      rw [← roster_of_room hr] at hq'
      exact .inl ⟨q', hq', hsame⟩

end Lobby

section Runs

variable {DB : Type} {sqlite : Sqlite DB} {view : DB → Tables} {db : DB} {σ₀ : Store}
  {tr : List (Process DB × Action)} {st : Process DB}

/-- Every member has been in the roster since a step in which its own connection
created or joined the room. -/
theorem sits_since (h : ServerRun sqlite db tr st) {k : Int} {x : Place}
    (hx : Sits (lobby st.cache) k x) : ∃ post pre st₀ a, tr = post ++ (st₀, a) :: pre ∧
      ServerRun sqlite db pre st₀ ∧ Admits (lobby st₀.cache) (event sqlite st₀ a) k x ∧
      ∀ y ∈ post, Sits (lobby y.1.cache) k x := by
  refine Run.origin (H := fun st : Process DB => Sits (lobby st.cache) k x)
    (G := fun _ st a => Admits (lobby st.cache) (event sqlite st a) k x) ?_ ?_ h hx
  · rw [lobby_start]
    rintro ⟨q, hq, -⟩
    cases hq
  · rintro tr st a st' hrun ⟨out, hstep⟩ hx
    obtain ⟨hen, happ⟩ := step_refines hstep
    rw [happ] at hx
    exact sits_step (lobby_invariant keyed_empty (fun _ _ => keyed_apply) hrun) hen hx

theorem hasUser_forward (hrel : Relational sqlite view) (hv : view db = σ₀.tables) (hs : Sound σ₀)
    {post pre : List (Process DB × Action)} {st₀ : Process DB} {a : Action}
    (h : ServerRun sqlite db (post ++ (st₀, a) :: pre) st) {id : Int} {u : String}
    (hu : HasUser (view st₀.db) id u) : HasUser (view st.db) id u := by
  refine Run.forward (P := fun st : Process DB => HasUser (view st.db) id u) ?_ h hu
  intro tr st a st' hrun hstep hu
  exact hasUser_step hrel (stored hrel hv hs hrun) hstep hu

/-- A member has been in its room since its own connection created or joined it,
under the role the connection had then. Its role id is 0 or belongs to the one user
whose login that role was selected with. -/
theorem member_admitted (hrel : Relational sqlite view) (hv : view db = σ₀.tables) (hs : Sound σ₀)
    (h : ServerRun sqlite db tr st) {k : Int} {r : RoomInfo} {q : PlayerInfo}
    (hr : st.cache.FindEntityRoom k = some r) (hq : q ∈ r.playerinfo) :
    ∃ post pre st₀ a, tr = post ++ (st₀, a) :: pre ∧
      Admits (lobby st₀.cache) (event sqlite st₀ a) k (placeOf q) ∧
      (∀ y ∈ post, Sits (lobby y.1.cache) k (placeOf q)) ∧
      (q.roleid = 0 ∨ ∃ u, (watched sqlite pre).chosen q.socket = some u ∧
        HasUser (view st.db) q.roleid u ∧ ∀ v, HasUser (view st.db) q.roleid v → v = u) := by
  have hsits : Sits (lobby st.cache) k (placeOf q) :=
    ⟨q, by rw [roster_of_room (l := lobby st.cache) hr]; exact hq, rfl⟩
  obtain ⟨post, pre, st₀, a, rfl, hpre, hadmits, hsince⟩ := sits_since h hsits
  refine ⟨post, pre, st₀, a, rfl, hadmits, hsince, ?_⟩
  obtain hzero | ⟨u, hu, huser⟩ := (owned hrel hv hs hpre).2 _ _ hadmits.identity
  · exact .inl hzero
  · have huser := hasUser_forward hrel hv hs h huser
    exact .inr ⟨u, hu, huser, fun v hv' => hasUser_inj (stored hrel hv hs h) hv' huser⟩

def createRoomIn (s : SOCKET) (sid : String) : Action :=
  hall s { sessionid? := some sid, msgtype? := some .HST_CreateRoom, roomname? := some "room" }

/-- Ann opens a room as "bob". -/
theorem ann_admitted : ∃ tr st r q, ServerRun reference noTablesYet tr st ∧
    actions tr = annPlaysBob ++ [createRoomIn 7 "ann_111111"] ∧
    st.cache.FindEntityRoom 111111 = some r ∧ q ∈ r.playerinfo ∧ q.roleid = 1 ∧
    ∃ post pre st₀ a, tr = post ++ (st₀, a) :: pre ∧
      Admits (lobby st₀.cache) (event reference st₀ a) 111111 (placeOf q) ∧
      (∀ y ∈ post, Sits (lobby y.1.cache) 111111 (placeOf q)) ∧
      (q.roleid = 0 ∨ ∃ u, (watched reference pre).chosen q.socket = some u ∧
        HasUser st.db q.roleid u ∧ ∀ v, HasUser st.db q.roleid v → v = u) := by
  obtain ⟨tr, st, hrun, hact, r, hr, htest⟩ := exists_room_run reference noTablesYet
    (annPlaysBob ++ [createRoomIn 7 "ann_111111"]) 111111
    (fun r => r.playerinfo.any fun q => q.roleid = 1) (by decide +kernel)
  obtain ⟨q, hq, hid⟩ := List.any_eq_true.mp htest
  exact ⟨tr, st, r, q, hrun, hact, hr, hq, of_decide_eq_true hid,
    member_admitted relational_reference noTablesYet_eq sound_empty hrun hr hq⟩

end Runs

end JiraGame.Admissions
