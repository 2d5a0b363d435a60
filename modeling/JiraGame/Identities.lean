import JiraGame.AccountRefinement
import JiraGame.RoomChanges

namespace JiraGame.Identities

open JiraGame.Scene JiraGame.Command JiraGame.DBServer JiraGame.Cache JiraGame.HallScene
open JiraGame.MainScene JiraGame.AccountScenes JiraGame.ServerState JiraGame.Server
open JiraGame.RoomTable JiraGame.Refinement JiraGame.Session

/-- Who a client is to the other players. -/
structure Identity where
  roleid : Int
  roletype : Int
  name : String
deriving DecidableEq

def identity (p : PlayerInfo) : Identity where
  roleid := p.roleid
  roletype := p.roletype
  name := p.name

def identities (l : Lobby) (s : SOCKET) : Option Identity := (l.role s).map identity

def identified (l : Lobby) : Event → SOCKET → Option Identity
  | .enter s => Function.update (identities l) s (some (identity {}))
  | .evict s => Function.update (identities l) s none
  | .select s t none =>
      Function.update (identities l) s ((identities l s).map fun x => { x with roletype := t })
  | .select s t (some (id, n)) =>
      Function.update (identities l) s
        ((identities l s).map fun _ => { roleid := id, roletype := t, name := n })
  | .sync s payload =>
      Function.update (identities l) s
        ((identities l s).map fun x => { identity payload with roleid := x.roleid })
  | _ => identities l

section Lobby

variable {l : Lobby} {ev : Event} {s : SOCKET} {f : PlayerInfo → PlayerInfo}

theorem identities_setRole (s : SOCKET) (o : Option PlayerInfo) :
    identities (l.setRole s o) = Function.update (identities l) s (o.map identity) :=
  l.read_setRole (Option.map identity) s o

theorem identities_modify {g : Identity → Identity} (s : SOCKET)
    (hf : ∀ p, identity (f p) = g (identity p)) : identities (l.modify s f) =
      Function.update (identities l) s ((identities l s).map g) := by
  rw [Lobby.modify, identities_setRole, identities, Option.map_map, Option.map_map]
  congr 2
  funext p
  exact hf p

theorem identities_modify_same (s : SOCKET) (hf : ∀ p, identity (f p) = identity p) :
    identities (l.modify s f) = identities l := by
  refine l.read_modify_same (Option.map identity) s ?_
  intro o
  cases o with
  | none => rfl
  | some p => exact congrArg some (hf p)

theorem identities_promote (o : Option PlayerInfo) : identities (l.promote o) = identities l := by
  cases o with
  | none => rfl
  | some q => exact identities_modify_same q.socket fun _ => rfl

theorem identities_apply (hen : l.Enabled ev) : identities (l.apply ev) = identified l ev := by
  cases ev with
  | quiet => rfl
  | start s => rfl
  | enter s => exact identities_setRole s _
  | evict s => exact identities_setRole s _
  | select s t row =>
    cases row with
    | none => exact identities_modify s fun _ => rfl
    | some x => exact identities_modify s fun _ => rfl
  | sync s payload => exact identities_modify s fun _ => rfl
  | wait s => exact identities_modify_same s fun _ => rfl
  | create s id roomname =>
    obtain ⟨p, hp, -⟩ := hen
    simp only [Lobby.apply, hp]
    split
    · exact identities_modify_same s fun _ => rfl
    · exact identities_modify_same s fun _ => rfl
  | join s k team teamid via =>
    obtain ⟨p, r, hp, hr, -⟩ := hen
    simp only [Lobby.apply, hp, hr]
    exact identities_modify_same s fun _ => rfl
  | leave s k via =>
    obtain ⟨p, r, hp, hr, -⟩ := hen
    have hidle : ∀ p, identity (asIdle p) = identity p := fun _ => rfl
    simp only [Lobby.apply, hp, hr]
    split
    · exact identities_modify_same s hidle
    · have hstay : identities ((l.promote (stay via p r.playerinfo).2).modify s asIdle) =
          identities l := by
        rw [identities_modify_same s hidle, identities_promote]
      exact hstay
  | gameOver s k =>
    funext t
    cases hr : l.room k with
    | none => simp only [Lobby.apply, hr, identified]
    | some r =>
      simp only [Lobby.apply, hr, identities, identified]
      split
      · rw [Option.map_map]
        rfl
      · rfl

/-- Where an identity after an event comes from. -/
theorem identified_cases {t : SOCKET} {x : Identity} (hx : identified l ev t = some x) :
    (identities l t = some x ∧ ev ≠ .enter t ∧ ∀ roletype row, ev ≠ .select t roletype row) ∨
    (ev = .enter t ∧ x = identity {}) ∨
    (∃ roletype y, ev = .select t roletype none ∧ identities l t = some y ∧
      x = { y with roletype := roletype }) ∨
    (∃ roletype id n, ev = .select t roletype (some (id, n)) ∧
      x = { roleid := id, roletype := roletype, name := n }) ∨
    ∃ payload y, ev = .sync t payload ∧ identities l t = some y ∧
      x = { identity payload with roleid := y.roleid } := by
  have hother : ∀ s (o : Option Identity), t ≠ s → Function.update (identities l) s o t = some x →
      identities l t = some x := fun s o hts h => by rwa [Function.update_of_ne hts] at h
  cases ev with
  | enter s =>
    by_cases hts : t = s
    · subst hts
      rw [identified, Function.update_self] at hx
      cases hx
      exact .inr (.inl ⟨rfl, rfl⟩)
    · exact .inl ⟨hother s _ hts hx, by simpa using Ne.symm hts, by simp⟩
  | evict s =>
    by_cases hts : t = s
    · subst hts
      rw [identified, Function.update_self] at hx
      cases hx
    · exact .inl ⟨hother s _ hts hx, by simp, by simp⟩
  | sync s payload =>
    by_cases hts : t = s
    · subst hts
      rw [identified, Function.update_self] at hx
      obtain ⟨y, hy, rfl⟩ := Option.map_eq_some_iff.mp hx
      exact .inr (.inr (.inr (.inr ⟨payload, y, rfl, hy, rfl⟩)))
    · exact .inl ⟨hother s _ hts hx, by simp, by simp⟩
  | select s roletype row =>
    by_cases hts : t = s
    · subst hts
      cases row with
      | none =>
        rw [identified, Function.update_self] at hx
        obtain ⟨y, hy, rfl⟩ := Option.map_eq_some_iff.mp hx
        exact .inr (.inr (.inl ⟨roletype, y, rfl, hy, rfl⟩))
      | some row =>
        rw [identified, Function.update_self] at hx
        obtain ⟨y, hy, rfl⟩ := Option.map_eq_some_iff.mp hx
        exact .inr (.inr (.inr (.inl ⟨roletype, row.1, row.2, rfl, rfl⟩)))
    · have hold : identities l t = some x := by
        cases row with
        | none => exact hother s _ hts hx
        | some row => exact hother s _ hts hx
      refine .inl ⟨hold, by simp, fun roletype' row' he => hts ?_⟩
      cases he
      rfl
  | _ => exact .inl ⟨hx, by simp, by simp⟩

end Lobby

section Events

variable {DB : Type} {sqlite : Sqlite DB} {c : CCache} {rand : List Nat} {s : SOCKET}
  {st : Process DB} {a : Action}

def rewrites : Event → Bool
  | .select _ _ _ | .sync _ _ => true
  | _ => false

theorem leaveEvent_rewrites (via : LeavePath) : rewrites (leaveEvent s via c) = false := by
  rw [leaveEvent]
  repeat' split
  all_goals rfl

theorem hallEvent_rewrites (req : HallRequest) : rewrites (hallEvent s req rand c) = false := by
  rw [hallEvent]
  split
  · rfl
  · split
    · split
      · rw [createEvent]
        repeat' split
        all_goals rfl
      · rw [joinTeamEvent]
        repeat' split
        all_goals rfl
      · rw [joinRoomEvent]
        repeat' split
        all_goals rfl
      · exact leaveEvent_rewrites _
      all_goals rfl
    · rfl

theorem tickEvent_rewrites (ptr : Nat) : rewrites (tickEvent ptr st) = false := by
  rw [tickEvent]
  repeat' split
  all_goals first | rfl | exact leaveEvent_rewrites _

theorem rewrites_packet (h : rewrites (event sqlite st a) = true) : ∃ s m rand,
    a = .packet s m rand ∧ readable s st = true ∧ (st.cache.GetEntity s).isSome = true ∧
      (m.curscene = .CS_SelectRole ∧
          event sqlite st a = selectEvent sqlite s m.selectrolerequest st.db st.cache ∨
        m.curscene = .CS_MainScene ∧ event sqlite st a = mainEvent s m.gamemainrequest st.cache) := by
  cases a with
  | accept s junk =>
    simp only [event] at h
    repeat' split at h
    all_goals cases h
  | close s => cases h
  | packet s m rand =>
    simp only [event] at h ⊢
    split at h
    · rename_i hr
      split at h
      · cases h
      · rename_i e he
        refine ⟨s, m, rand, rfl, hr, by rw [he]; rfl, ?_⟩
        rw [if_pos hr]
        rw [packetEvent] at h ⊢
        split at h
        · rename_i hm
          exact .inl ⟨hm, rfl⟩
        · rw [hallEvent_rewrites] at h
          cases h
        · rename_i hm
          exact .inr ⟨hm, rfl⟩
        · cases h
    · cases h
  | poll j now =>
    simp only [event] at h
    split at h
    · rw [tickEvent_rewrites] at h
      cases h
    · cases h

end Events

end JiraGame.Identities
