import JiraGame.AccountRefinement

namespace JiraGame.AccountIntegrity

open JiraGame.Scene JiraGame.Command JiraGame.DBServer JiraGame.Cache JiraGame.HallScene
open JiraGame.AccountScenes JiraGame.AccountStatements JiraGame.ServerState JiraGame.Server
open JiraGame.Session JiraGame.Runs JiraGame.AccountMap JiraGame.AccountTables
open JiraGame.AccountStore JiraGame.RelationalSqlite
open JiraGame.AccountReplies JiraGame.AccountRefinement JiraGame.Listeners JiraGame.DatabaseFrame
open JiraGame.Lib.SqlMeaning JiraGame.Lib.History JiraGame.Lib.Fails

/-- The laws of the rows of both tables. -/
structure Lawful (σ : Store) : Prop where
  userIDs : (σ.users.map UserRow.userID).Nodup
  names : (σ.users.map UserRow.name).Nodup
  linked : ∀ r ∈ σ.users, r.PlayerInfoID = some r.userID
  sessionsOnce : (σ.users.filterMap UserRow.session_id).Nodup
  sessionNames : ∀ r ∈ σ.users, ∀ sid, r.session_id = some sid →
    ∃ rest, sid = r.name ++ "_" ++ rest
  roleNames : (σ.players.map PlayerRow.name).Nodup
  roleTypes : (σ.players.map fun p => (p.roleID, p.roleType)).Nodup
  owners : ∀ p ∈ σ.players, ∃ r ∈ σ.users, r.userID = p.roleID

theorem sessions_nodup {σ : Store} (h : Sound σ) :
    (σ.users.filterMap UserRow.session_id).Nodup := by
  apply List.pairwise_filterMap.mpr
  have hnames : σ.users.Pairwise fun r r' => r.name ≠ r'.name := List.pairwise_map.mp h.names
  apply hnames.imp_of_mem
  rintro r r' hr hr' hne sid hsid sid' hsid' rfl
  exact hne ((h.sessions r hr sid hsid).inj (h.sessions r' hr' sid hsid'))

theorem lawful_iff {σ : Store} (h : Sound σ) : Lawful σ ↔ (accounts σ).Single := by
  rw [single_iff h]
  refine ⟨fun hlawful => hlawful.roleTypes, fun htypes => ?_⟩
  constructor
  case userIDs => exact h.ids
  case names => exact h.names
  case linked => exact h.linked
  case sessionsOnce => exact sessions_nodup h
  case sessionNames =>
    intro r hr sid hsid
    obtain ⟨digits, he, -⟩ := h.sessions r hr sid hsid
    exact ⟨digits, he⟩
  case roleNames => exact h.roleNames
  case roleTypes => exact htypes
  case owners => exact h.owners

def OwnsType (σ : Store) (r : UserRow) (t : Int) : Prop :=
  ∃ p ∈ σ.players, p.roleID = r.userID ∧ p.roleType = t

/-- A user who creates an unused name for a type that it has already is looked up as
one who has the type. The lookup goes by the user's name up to its first NUL. -/
def AsksOwner {DB : Type} (view : DB → Tables) (st : Process DB) (a : Action) : Prop :=
  ∀ s sid t n, arrives st a = some (s, .createRole sid t n) → sessions st.cache s = some sid →
    ∀ σ : Store, view st.db = σ.tables → ∀ r ∈ σ.users, r.session_id = some sid → n ≠ "" →
      (∀ p ∈ σ.players, p.name ≠ n) → OwnsType σ r t →
        ∃ r' ∈ σ.users, r'.name = cString r.name ∧ OwnsType σ r' t

variable {DB : Type} {sqlite : Sqlite DB} {view : DB → Tables} {st st' : Process DB} {s t : SOCKET}
  {m : UnPacket} {rand : List Nat} {out : Outbox} {σ : Store}

theorem register_of_reply (hm : m.curscene = .CS_Register) {p : SOCKET × Packet} (hp : p ∈ out)
    (h : step sqlite st (.packet s m rand) = .ok (st', out)) :
    ∃ x, RegisterLogic sqlite s m.registerrequest st.db st.cache = .ok x ∧ st'.db = x.1 ∧
      ∃ q ∈ x.2.2, q.2 = p.2 := by
  obtain ⟨x, hx, hdel⟩ := of_map_ok h
  have hdb := db_of_deliver hdel
  have hsent : p ∈ (deliver x).2 := by rw [hdel]; exact hp
  obtain ⟨q, hq, hqp⟩ := mem_of_deliver hsent
  rw [receive] at hx
  split at hx
  · split at hx
    · cases hx
      cases hq
    · simp only [ProcessMsgLogic, hm] at hx
      split at hx
      · cases hx
        cases hq
      · obtain ⟨y, hy, hx⟩ := of_bind_ok hx
        cases hx
        exact ⟨y, hy, hdb, q, hq, hqp⟩
  · cases hx
    cases hq

/-- A failing registration runs its update of the known user's row, which writes
what is there already. -/
theorem failed_register (hrel : Relational sqlite view) (hv : view st.db = σ.tables) (hs : Sound σ)
    (hm : m.curscene = .CS_Register) (hfail : (t, registerPacket .RT_Fail) ∈ out)
    (h : step sqlite st (.packet s m rand) = .ok (st', out)) :
    (∃ db', st'.db = (sqlite.exec db' (Query.link m.registerrequest.username).sql).1) ∧
      ∃ σ' : Store, view st'.db = σ'.tables ∧ σ'.users = σ.users ∧ σ'.players = σ.players := by
  obtain ⟨x, hx, hdb, q, hq, hpacket⟩ := register_of_reply hm hfail h
  obtain ⟨y, hy, -, hlink, hrows⟩ :=
    RegisterLogic_rows (s := s) (c := st.cache) hrel hv m.registerrequest
  rw [hx] at hy
  cases hy
  rw [hdb]
  refine ⟨hlink, ?_⟩
  obtain ⟨-, -, hout⟩ | ⟨-, hview, -⟩ := hrows
  · rw [hout] at hq
    rw [List.mem_singleton.mp hq] at hpacket
    simp [registerPacket] at hpacket
  · exact ⟨_, hview, users_link hs, rfl⟩

/-- The rows of both tables obey the laws, and a registration that fails changes no
row, although its update runs. -/
def LawfulAt (sqlite : Sqlite DB) (view : DB → Tables) (st : Process DB) : Prop :=
  ∃ σ : Store, view st.db = σ.tables ∧ Lawful σ ∧
    ∀ s m rand st' out t, m.curscene = .CS_Register →
      step sqlite st (.packet s m rand) = .ok (st', out) → (t, registerPacket .RT_Fail) ∈ out →
      (∃ db', st'.db = (sqlite.exec db' (Query.link m.registerrequest.username).sql).1) ∧
        ∃ σ' : Store, view st'.db = σ'.tables ∧ σ'.users = σ.users ∧ σ'.players = σ.players

section Types

variable {a : Action} {w : Accounts}

theorem lawfulAt_iff (hrel : Relational sqlite view) (hw : Stored view w st) :
    LawfulAt sqlite view st ↔ w.Single := by
  obtain ⟨σ, hv, hs, rfl⟩ := hw
  refine ⟨?_, fun hone => ⟨σ, hv, (lawful_iff hs).mpr hone, ?_⟩⟩
  · rintro ⟨τ, hτ, hlawful, -⟩
    rw [Store.tables_injective (hv.symm.trans hτ)] at hs ⊢
    exact (lawful_iff hs).mp hlawful
  · intro s m rand st' out t hm hstep hfail
    exact failed_register hrel hv hs hm hfail hstep

theorem hasType_shown (hs : Sound σ) {u : String} {t : Int} : (accounts σ).HasType u t ↔
    ∃ r ∈ σ.users, r.name = u ∧ OwnsType σ r t := by
  refine ⟨?_, ?_⟩
  · rintro ⟨b, hb, ht⟩
    obtain ⟨r, hr, hname, rfl⟩ := (account_eq_some hs).mp hb
    exact ⟨r, hr, hname, hasType_iff.mp ht⟩
  · rintro ⟨r, hr, hname, hown⟩
    exact ⟨_, (account_eq_some hs).mpr ⟨r, hr, hname, rfl⟩, hasType_iff.mpr hown⟩

theorem asksOwner_iff (hw : Stored view w st) : AsksOwner view st a ↔
    ∀ s req, arrives st a = some (s, req) → w.Asks cString (sessions st.cache s) req := by
  obtain ⟨σ, hv, hs, rfl⟩ := hw
  refine ⟨fun h s req ha => ?_, fun h s sid t n ha hheld τ hτ r hr hsid hne hunused hown => ?_⟩
  · cases req with
    | register | login | selectRole => trivial
    | createRole sid t n =>
      intro u b hheld howner hne hunused ht
      obtain ⟨r, hr, hsid, hx⟩ := (owns_iff hs).mp (Accounts.owns_of_owner howner)
      cases hx
      exact (hasType_shown hs).mpr (h s sid t n ha hheld σ hv r hr hsid hne
        ((unused_iff hs).mp hunused) (hasType_iff.mp ht))
  · rw [← Store.tables_injective (hv.symm.trans hτ)] at hr hunused hown ⊢
    exact (hasType_shown hs).mp (h s _ ha r.name (accountOf σ r) hheld (owner_of_row hs hr hsid) hne
      ((unused_iff hs).mpr hunused) (hasType_iff.mpr hown))

theorem single_serve_iff (hw : Stored view w st) (hone : w.Single) :
    (serve cString w st a).Single ↔ AsksOwner view st a := by
  rw [asksOwner_iff hw]
  cases ha : arrives st a with
  | none =>
    simp only [serve, ha]
    refine iff_of_true hone ?_
    intro s req h
    cases h
  | some x =>
    obtain ⟨s, req⟩ := x
    rw [serve_arrived cString ha]
    refine ⟨?_, fun h => Accounts.single_answer hone (h s req rfl)⟩
    rintro hafter _ _ ⟨⟩
    exact Accounts.asks_of_single hafter

/-- A user whose name has no NUL is looked up as itself. -/
theorem asksOwner_of_whole (hw : Stored view w st) (hwhole : w.Whole cString) :
    AsksOwner view st a :=
  (asksOwner_iff hw).mpr fun _ _ _ => Accounts.asks_of_whole hwhole

end Types

section Runs

variable {db : DB} {σ₀ : Store} {tr : List (Process DB × Action)}

/-- The laws hold in every state of a run exactly if nobody creates a second role of
a type under a name that is looked up as another user's. -/
theorem accounts_lawful (hrel : Relational sqlite view) (hv : view db = σ₀.tables) (hs : Sound σ₀)
    (hone : (accounts σ₀).Single) (h : ServerRun sqlite db tr st) :
    (∀ x ∈ points tr st, LawfulAt sqlite view x.2) ↔ ∀ x ∈ tr, AsksOwner view x.1 x.2 := by
  refine Run.always_iff (I := fun _ st => LawfulAt sqlite view st) (C := AsksOwner view) ?_ ?_ h
  · exact (lawfulAt_iff hrel ⟨σ₀, hv, hs, rfl⟩).mpr hone
  · rintro tr st a st' hrun hi ⟨out, hstep⟩
    have hw := stored hrel hv hs hrun
    rw [lawfulAt_iff hrel (stored_step hrel hw hstep)]
    exact single_serve_iff hw ((lawfulAt_iff hrel hw).mp hi)

end Runs

section Example

def annCreatesBob : List Action :=
  [.accept 7 0, register 7 "ann" "pw", register 7 "ann" "other", login 7 "ann" "pw",
    createRole 7 "ann_111111" 1 "bob"]

theorem bob_is_lawful : ∃ tr st, ServerRun reference noTablesYet tr st ∧
    actions tr = annCreatesBob ∧ ∀ x ∈ points tr st, LawfulAt reference id x.2 := by
  obtain ⟨tr, st, hrun, hact, -⟩ := exists_run reference noTablesYet annCreatesBob
    (fun _ _ => true) (by decide +kernel)
  refine ⟨tr, st, hrun, hact, (accounts_lawful relational_reference noTablesYet_eq sound_empty
    Accounts.single_noAccounts hrun).mpr fun x hx => ?_⟩
  obtain ⟨post, pre, rfl⟩ := List.append_of_mem hx
  have hpre : ServerRun reference noTablesYet pre x.1 := Run.before hrun
  have hplain : ∀ y ∈ pre, PlainNames y.1 y.2 := fun y hy =>
    plain_of_actions (by rw [hact]; decide) y (by simp [hy])
  obtain ⟨heq, hwhole, -⟩ :=
    served_of_plain Accounts.whole_noAccounts Accounts.single_noAccounts hplain
  have hstored := stored relational_reference noTablesYet_eq sound_empty hpre
  exact asksOwner_of_whole hstored (heq.symm ▸ hwhole)

def roleTypes (T : Tables) : List (Value × Value) :=
  ((T StatementMeanings.playerInfo).map fun players =>
    players.rows.map fun row => (cell 0 row, cell 1 row)).getD []

theorem roleTypes_tables (σ : Store) :
    roleTypes σ.tables = (σ.players.map fun p => (p.roleID, p.roleType)).map
      fun x => (.int x.1, .int x.2) := by
  rw [roleTypes, σ.tables_playerInfo, Store.players]
  cases σ.players? with
  | none => rfl
  | some ps =>
    simp [Store.playerTable, Function.comp_def, cell, PlayerRow.cells]

/-- A user whose name has a NUL gets two roles of one type. -/
theorem two_roles_of_a_type : ∃ tr st, ServerRun reference noTablesYet tr st ∧
    actions tr = [.accept 7 0, register 7 annNul "pw", login 7 annNul "pw", createsRole "bob",
      createsRole "eve"] ∧
    roleTypes st.db = [(.int 1, .int 1), (.int 1, .int 1)] ∧ ¬ LawfulAt reference id st := by
  obtain ⟨tr, st, hrun, hact, hp⟩ := exists_run reference noTablesYet
    [.accept 7 0, register 7 annNul "pw", login 7 annNul "pw", createsRole "bob", createsRole "eve"]
    (fun _ st => decide (roleTypes st.db = [(.int 1, .int 1), (.int 1, .int 1)]))
    (by decide +kernel)
  have hrows := of_decide_eq_true hp
  refine ⟨tr, st, hrun, hact, hrows, ?_⟩
  rintro ⟨σ, hσ, hlawful, -⟩
  have hσ : st.db = σ.tables := hσ
  rw [hσ, roleTypes_tables] at hrows
  have hinj : Function.Injective fun x : Int × Int => ((.int x.1, .int x.2) : Value × Value) := by
    rintro ⟨i, t⟩ ⟨i', t'⟩ he
    simpa using he
  have hnodup := hlawful.roleTypes.map hinj
  rw [hrows] at hnodup
  exact absurd hnodup (by decide)

end Example

end JiraGame.AccountIntegrity
