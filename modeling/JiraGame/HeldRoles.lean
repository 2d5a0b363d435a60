import JiraGame.RoleIds

namespace JiraGame.HeldRoles

open JiraGame.Scene JiraGame.Command JiraGame.DBServer JiraGame.Cache JiraGame.HallScene
open JiraGame.AccountScenes JiraGame.ServerState JiraGame.Server JiraGame.RoomTable
open JiraGame.Refinement JiraGame.Runs JiraGame.DatabaseFrame JiraGame.AccountMap
open JiraGame.AccountTables JiraGame.AccountStore JiraGame.RelationalSqlite
open JiraGame.AccountRefinement JiraGame.AccountRows JiraGame.Identities JiraGame.RoleIds
open JiraGame.Lib.SqlMeaning JiraGame.Lib.History JiraGame.Lib.Fails

/-- The role that the server holds of each client is one that its account has. -/
def Held (T : Tables) (l : Lobby) : Prop :=
  ∀ s x, identities l s = some x → x.roleid ≠ 0 → HasRole T x.roleid x.roletype x.name

/-- A selection that finds a role reads a name that the account has a role of this
type under; one that finds none repeats the type that the client has; and a sync
carries type and name of a role of its account. -/
def KeepsRole {DB : Type} (sqlite : Sqlite DB) (view : DB → Tables) (st : Process DB) (a : Action) :
    Prop :=
  match event sqlite st a with
  | .select _ roletype (some (id, n)) => HasRole (view st.db) id roletype n
  | .select s roletype none =>
      ∀ x, identities (lobby st.cache) s = some x → x.roleid ≠ 0 → roletype = x.roletype
  | .sync s payload => ∀ x, identities (lobby st.cache) s = some x → x.roleid ≠ 0 →
      HasRole (view st.db) x.roleid payload.roletype payload.name
  | _ => True

variable {DB : Type} {sqlite : Sqlite DB} {view : DB → Tables} {st st' : Process DB} {a : Action}
  {out : Outbox} {s : SOCKET} {w : Accounts}

theorem db_of_sync {payload : PlayerInfo} (hev : event sqlite st a = .sync s payload)
    (h : step sqlite st a = .ok (st', out)) : st'.db = st.db := by
  obtain ⟨t, m, rand, rfl, hread, hsome, hcase⟩ := rewrites_packet (by rw [hev]; rfl)
  obtain ⟨-, hselect⟩ | ⟨hm, -⟩ := hcase
  · rw [hev, selectEvent] at hselect
    repeat' split at hselect
    all_goals cases hselect
  · obtain hdb | ⟨t', m', rand', x, heq, -, -, hx, hdel⟩ := step_db h
    · exact hdb
    · cases heq
      rw [db_of_deliver hdel]
      simp only [ProcessMsgLogic, hm] at hx
      obtain ⟨y, -, hx⟩ := of_bind_ok hx
      cases hx
      rfl

theorem stored_select (hrel : Relational sqlite view) (hw : Stored view w st) {roletype : Int}
    {row : Option (Int × String)} (hev : event sqlite st a = .select s roletype row)
    (h : step sqlite st a = .ok (st', out)) : Stored view w st' := by
  have hw' := stored_step hrel hw h
  obtain ⟨m, rand, rfl, hread, hsome, hm, -⟩ := select_packet hev
  have ha : arrives st (.packet s m rand) =
      some (s, .selectRole m.selectrolerequest.sessionid m.selectrolerequest.roletype) := by
    rw [arrives, hread, hsome, Bool.and_self, if_pos rfl, request, hm]
    rfl
  rw [serve_arrived cString ha, Accounts.answer_selectRole] at hw'
  exact hw'

theorem hasRole_select (hrel : Relational sqlite view) (hw : Stored view w st)
    {roletype id : Int} {n : String} (hev : event sqlite st a = .select s roletype (some (id, n))) :
    id ≠ 0 ∧ ∃ m, HasRole (view st.db) id roletype m ∧ cString m = n := by
  obtain ⟨σ, hv, hs, -⟩ := hw
  obtain ⟨-, r, p, -, hr, -, hid, hp, ht, hn⟩ := select_row hrel hv hs hev
  obtain ⟨hp, howner⟩ := (AccountReplies.mem_rolesOf hs hr).mp hp
  have hrange := (hs.range r hr).1
  refine ⟨by omega, p.name, ?_, hn⟩
  rw [hv, hasRole_tables hs]
  exact ⟨r, hr, hid, p, hp, howner, ht, rfl⟩

theorem keepsRole_select (hrel : Relational sqlite view) (hw : Stored view w st)
    (hwhole : w.Whole cString) {roletype : Int} {row : Int × String}
    (hev : event sqlite st a = .select s roletype (some row)) : KeepsRole sqlite view st a := by
  obtain ⟨id, n⟩ := row
  obtain ⟨-, m, hm, hn⟩ := hasRole_select hrel hw hev
  simp only [KeepsRole, hev]
  obtain ⟨u, b, hb, -, hrole⟩ := (hasRole_iff hw).mp hm
  rw [(hwhole u b hb).2 roletype m hrole] at hn
  rw [← hn]
  exact hm

theorem held_of_keepsRole (hrel : Relational sqlite view) (hw : Stored view w st)
    (hi : Held (view st.db) (lobby st.cache)) (h : step sqlite st a = .ok (st', out))
    (hc : KeepsRole sqlite view st a) : Held (view st'.db) (lobby st'.cache) := by
  obtain ⟨hen, happ⟩ := step_refines h
  have hstep : Steps sqlite st a st' := ⟨out, h⟩
  have hkeep : ∀ t x, identities (lobby st.cache) t = some x → x.roleid ≠ 0 →
      HasRole (view st'.db) x.roleid x.roletype x.name :=
    fun t x hx hne => hasRole_step hrel hw hstep (hi t x hx hne)
  intro t x hx hne
  rw [happ, identities_apply hen] at hx
  obtain ⟨hold, -⟩ | ⟨-, rfl⟩ | ⟨roletype, y, hev, hy, rfl⟩ | ⟨roletype, id, n, hev, rfl⟩ |
    ⟨payload, y, hev, hy, rfl⟩ := identified_cases hx
  · exact hkeep t x hold hne
  · exact absurd rfl hne
  · simp only [KeepsRole, hev] at hc
    rw [hc y hy hne]
    exact hkeep t y hy hne
  · simp only [KeepsRole, hev] at hc
    exact hasRole_step hrel hw hstep hc
  · simp only [KeepsRole, hev] at hc
    exact hasRole_step hrel hw hstep (hc y hy hne)

theorem keepsRole_of_held (hrel : Relational sqlite view) (hw : Stored view w st)
    (hi : Held (view st.db) (lobby st.cache)) (h : step sqlite st a = .ok (st', out))
    (hheld : Held (view st'.db) (lobby st'.cache)) : KeepsRole sqlite view st a := by
  obtain ⟨hen, happ⟩ := step_refines h
  have hstep : Steps sqlite st a st' := ⟨out, h⟩
  rw [happ] at hheld
  rw [KeepsRole]
  split
  · rename_i s roletype id n hev
    have hafter : identities ((lobby st.cache).apply (event sqlite st a)) s =
        some { roleid := id, roletype := roletype, name := n } := by
      obtain ⟨-, -, -, -, hsome, -⟩ := select_packet hev
      obtain ⟨e, he⟩ := Option.isSome_iff_exists.mp hsome
      rw [identities_apply hen, hev, identified, Function.update_self, identity_of_entity he]
      rfl
    have hrole := hheld s _ hafter (hasRole_select hrel hw hev).1
    rw [hasRole_iff (stored_select hrel hw hev h)] at hrole
    exact (hasRole_iff hw).mpr hrole
  · rename_i s roletype hev
    intro x hx hne
    have hafter : identities ((lobby st.cache).apply (event sqlite st a)) s =
        some { x with roletype := roletype } := by
      rw [identities_apply hen, hev, identified, Function.update_self, hx]
      rfl
    have hold := hasRole_step hrel hw hstep (hi s x hx hne)
    exact hasRole_inj (stored_step hrel hw h) (hheld s _ hafter hne) hold
  · rename_i s payload hev
    intro x hx hne
    have hafter : identities ((lobby st.cache).apply (event sqlite st a)) s =
        some { identity payload with roleid := x.roleid } := by
      rw [identities_apply hen, hev, identified, Function.update_self, hx]
      rfl
    have hrole := hheld s _ hafter hne
    rw [db_of_sync hev h] at hrole
    exact hrole
  · trivial

section Runs

variable {db : DB} {σ₀ : Store} {tr : List (Process DB × Action)}

theorem held_iff (hrel : Relational sqlite view) (hv : view db = σ₀.tables) (hs : Sound σ₀)
    (h : ServerRun sqlite db tr st) :
    (∀ x ∈ points tr st, Held (view x.2.db) (lobby x.2.cache)) ↔
      ∀ x ∈ tr, KeepsRole sqlite view x.1 x.2 := by
  refine Run.always_iff (I := fun _ st => Held (view st.db) (lobby st.cache))
    (C := KeepsRole sqlite view) ?_ ?_ h
  · intro s x hx
    simp [identities, lobby_start, emptyLobby] at hx
  · rintro tr st a st' hrun hi ⟨out, hstep⟩
    have hw := stored hrel hv hs hrun
    exact ⟨keepsRole_of_held hrel hw hi hstep, held_of_keepsRole hrel hw hi hstep⟩

end Runs

theorem bob_is_anns : ∃ tr st, ServerRun reference noTablesYet tr st ∧ actions tr = annPlaysBob ∧
    ∀ x ∈ points tr st, Held x.2.db (lobby x.2.cache) := by
  obtain ⟨tr, st, -, hrun, hact, -, honly, -⟩ := ann_plays_bob
  refine ⟨tr, st, hrun, hact,
    (held_iff relational_reference noTablesYet_eq sound_empty hrun).mpr fun x hx => ?_⟩
  have hquiet := List.all_eq_true.mp honly x hx
  obtain ⟨post, pre, rfl⟩ := List.append_of_mem hx
  have hplain : ∀ y ∈ pre, PlainNames y.1 y.2 := fun y hy =>
    plain_of_actions (by rw [hact]; decide) y (by simp [hy])
  obtain ⟨heq, hwhole, -⟩ :=
    served_of_plain Accounts.whole_noAccounts Accounts.single_noAccounts hplain
  have hw := stored relational_reference noTablesYet_eq sound_empty (Run.before hrun)
  cases hev : event reference x.1 x.2 with
  | select s roletype row =>
    cases row with
    | none => simp [hev] at hquiet
    | some row => exact keepsRole_select relational_reference hw (heq.symm ▸ hwhole) hev
  | sync => simp [hev] at hquiet
  | _ => simp only [KeepsRole, hev]

/-- Asking for a role that the account does not have changes the held type. -/
theorem bob_gets_another_type : ∃ tr st, ServerRun reference noTablesYet tr st ∧
    actions tr = annPlaysBob ++ [AccountRefinement.selectRole 7 "ann_111111" 2] ∧
    identities (lobby st.cache) 7 = some { roleid := 1, roletype := 2, name := "bob" } ∧
    ¬ HasRole st.db 1 2 "bob" := by
  obtain ⟨tr, st, st', hrun, hact, hstep, -, -, hheld, hno⟩ := ann_plays_bob
  refine ⟨_, st', Run.cons hrun hstep, ?_, hheld, ?_⟩
  · rw [actions, List.map_cons, List.reverse_cons, ← hact]
    rfl
  · rintro ⟨-, players, -, hplayers, -, -, role, hrole, -, -, ht, -⟩
    exact hno players hplayers role hrole ht

end JiraGame.HeldRoles
