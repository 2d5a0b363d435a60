import JiraGame.AccountRows
import JiraGame.Identities

namespace JiraGame.RoleIds

open JiraGame.Scene JiraGame.Command JiraGame.DBServer JiraGame.Cache JiraGame.HallScene
open JiraGame.AccountScenes JiraGame.AccountStatements JiraGame.ServerState JiraGame.KeepAlive
open JiraGame.Server JiraGame.RoomTable JiraGame.Refinement JiraGame.Shells JiraGame.Session
open JiraGame.Runs JiraGame.AccountMap JiraGame.AccountTables JiraGame.AccountStore
open JiraGame.RelationalSqlite JiraGame.AccountReplies JiraGame.AccountRefinement
open JiraGame.AccountRows JiraGame.Identities JiraGame.Lib.SqlMeaning JiraGame.Lib.History
open JiraGame.Lib.Fails

/-- What is seen of the entity of each socket: the user of its latest successful
login, and who that was when the entity last selected a role with success. -/
structure Watch where
  user : SOCKET → Option String
  chosen : SOCKET → Option String

section Observer

variable {DB : Type} (sqlite : Sqlite DB)

def logsIn (st : Process DB) (a : Action) : Option (SOCKET × String) :=
  match a with
  | .packet s m _ => (assigns sqlite st a).map fun _ => (s, m.loginrequest.username)
  | _ => none

def selects (st : Process DB) (a : Action) : Option SOCKET :=
  match event sqlite st a with
  | .select s _ (some _) => some s
  | _ => none

def watch (o : Watch) (st : Process DB) (a : Action) : Watch where
  user :=
    match logsIn sqlite st a, event sqlite st a with
    | some (s, u), _ => Function.update o.user s (some u)
    | none, .enter s => Function.update o.user s none
    | none, _ => o.user
  chosen :=
    match event sqlite st a with
    | .enter s => Function.update o.chosen s none
    | .select s _ (some _) => Function.update o.chosen s (o.user s)
    | _ => o.chosen

def watched (tr : List (Process DB × Action)) : Watch :=
  observe { user := fun _ => none, chosen := fun _ => none } (watch sqlite) tr

end Observer

variable {DB : Type} {sqlite : Sqlite DB} {view : DB → Tables} {st st' : Process DB} {a : Action}
  {out : Outbox} {s t : SOCKET} {sid : String} {o : Watch} {σ : Store} {w : Accounts}

section Sessions

theorem assigns_packet (h : assigns sqlite st a = some (t, sid)) : ∃ m rand, a = .packet t m rand ∧
    m.curscene = .CS_Login ∧ loginOf sqlite m.loginrequest rand st.db = some sid := by
  cases a with
  | packet s m rand =>
    rw [assigns] at h
    split at h
    · rename_i hcond
      simp only [Bool.and_eq_true, decide_eq_true_eq] at hcond
      obtain ⟨x, hx, he⟩ := Option.map_eq_some_iff.mp h
      cases he
      exact ⟨m, rand, rfl, hcond.2, hx⟩
    · cases h
  | accept | close | poll => cases h

theorem assigns_of_logsIn {u : String} (h : logsIn sqlite st a = some (s, u)) :
    ∃ sid, assigns sqlite st a = some (s, sid) := by
  cases a with
  | packet t m rand =>
    obtain ⟨⟨t', sid⟩, hx, he⟩ := Option.map_eq_some_iff.mp h
    obtain ⟨m', rand', heq, -⟩ := assigns_packet hx
    cases heq
    cases he
    exact ⟨sid, hx⟩
  | accept | close | poll => cases h

theorem names_loginOf {req : LoginRequest} {rand : List Nat} {db : DB}
    (h : loginOf sqlite req rand db = some sid) : Names req.username sid := by
  rw [loginOf] at h
  split at h
  · cases h
  · split at h
    · cases h
    · rw [sessionOf_eq] at h
      obtain ⟨digits, hd, rfl⟩ := Option.map_eq_some_iff.mp h
      exact names_digitsOf hd

/-- Where a session id comes from: a new entity has none, a login assigns one, and
other steps leave it. -/
theorem step_sessions (h : step sqlite st a = .ok (st', out))
    (ht : sessions st'.cache t = some sid) : sid = "" ∨ assigns sqlite st a = some (t, sid) ∨
      (sessions st.cache t = some sid ∧ ∀ x, assigns sqlite st a ≠ some (t, x)) := by
  cases a with
  | accept s junk =>
    obtain ⟨st₁, hs, h⟩ := of_map_ok h
    cases h
    have hno : ∀ x, assigns sqlite st (.accept s junk) ≠ some (t, x) := fun x hx => by cases hx
    by_cases hmem : s ∈ st.g_CliSocketArr
    · rw [StartCServer, if_pos hmem] at hs
      cases hs
      exact .inr (.inr ⟨ht, hno⟩)
    · obtain hsame | hnew := StartCServer_sessions hmem hs
      · rw [hsame] at ht
        exact .inr (.inr ⟨ht, hno⟩)
      · rw [hnew] at ht
        by_cases hts : t = s
        · subst hts
          rw [Function.update_self, Option.some.injEq] at ht
          exact .inl ht.symm
        · rw [Function.update_of_ne hts] at ht
          exact .inr (.inr ⟨ht, hno⟩)
  | close s =>
    have hno : ∀ x, assigns sqlite st (.close s) ≠ some (t, x) := fun x hx => by cases hx
    simp only [step] at h
    split at h <;> cases h <;> exact .inr (.inr ⟨ht, hno⟩)
  | packet s m rand =>
    obtain ⟨x, hp, h⟩ := of_map_ok h
    rw [cache_of_deliver h] at ht
    obtain ⟨hno, hsame⟩ | ⟨sid', has, hupd⟩ := receive_sessions hp
    · rw [hsame] at ht
      exact .inr (.inr ⟨ht, fun x hx => by rw [hno] at hx; cases hx⟩)
    · rw [hupd] at ht
      by_cases hts : t = s
      · subst hts
        rw [Function.update_self] at ht
        cases ht
        exact .inr (.inl has)
      · rw [Function.update_of_ne hts] at ht
        refine .inr (.inr ⟨ht, fun x hx => hts ?_⟩)
        rw [has] at hx
        cases hx
        rfl
  | poll j now =>
    obtain ⟨x, hp, h⟩ := of_map_ok h
    rw [cache_of_deliver h] at ht
    exact .inr (.inr ⟨poll_sessions hp ht, fun x hx => by cases hx⟩)

end Sessions

section Steps

/-- Every session id in use names the user whose login assigned it. -/
def Traced (o : Watch) (c : CCache) : Prop :=
  ∀ s sid, sessions c s = some sid → sid ≠ "" → ∃ u, o.user s = some u ∧ Names u sid

/-- Every role id in use is the id of the user who was logged in when the role was
selected. -/
def Owned (T : Tables) (o : Watch) (l : Lobby) : Prop :=
  ∀ s x, identities l s = some x → x.roleid = 0 ∨ ∃ u, o.chosen s = some u ∧ HasUser T x.roleid u

theorem traced_step (hi : Traced o st.cache) (h : step sqlite st a = .ok (st', out)) :
    Traced (watch sqlite o st a) st'.cache := by
  intro t sid ht hne
  obtain hempty | hassign | ⟨hold, hno⟩ := step_sessions h ht
  · exact absurd hempty hne
  · obtain ⟨m, rand, rfl, -, hl⟩ := assigns_packet hassign
    refine ⟨m.loginrequest.username, ?_, names_loginOf hl⟩
    have hlog : logsIn sqlite st (.packet t m rand) = some (t, m.loginrequest.username) := by
      rw [logsIn, hassign]
      rfl
    simp only [watch, hlog, Function.update_self]
  · obtain ⟨u, hu, hn⟩ := hi t sid hold hne
    refine ⟨u, ?_, hn⟩
    rw [← hu]
    cases hlog : logsIn sqlite st a with
    | some x =>
      obtain ⟨s, v⟩ := x
      obtain ⟨x, hx⟩ := assigns_of_logsIn hlog
      simp only [watch, hlog]
      exact Function.update_of_ne (fun hts => hno x (by rw [hx, hts])) _ _
    | none =>
      cases hev : event sqlite st a <;> simp only [watch, hlog, hev]
      case enter s =>
        obtain ⟨hen, -⟩ := step_refines h
        rw [hev] at hen
        refine Function.update_of_ne (fun hts => ?_) _ _
        have hnone : sessions st.cache s = none := by
          rw [sessions, Option.map_eq_none_iff]
          exact Option.map_eq_none_iff.mp hen
        rw [hts, hnone] at hold
        cases hold

theorem identified_roleid {l : Lobby} {ev : Event} {x : Identity}
    (hx : identified l ev t = some x) : (ev = .enter t ∧ x.roleid = 0) ∨
      (∃ roletype n, ev = .select t roletype (some (x.roleid, n))) ∨
      ((∃ y, identities l t = some y ∧ y.roleid = x.roleid) ∧ ev ≠ .enter t ∧
        ∀ roletype row, ev ≠ .select t roletype (some row)) := by
  obtain ⟨hold, henter, hselect⟩ | ⟨rfl, rfl⟩ | ⟨roletype, y, rfl, hy, rfl⟩ |
    ⟨roletype, id, n, rfl, rfl⟩ | ⟨payload, y, rfl, hy, rfl⟩ := identified_cases hx
  · exact .inr (.inr ⟨⟨x, hold, rfl⟩, henter, fun roletype row => hselect roletype (some row)⟩)
  · exact .inl ⟨rfl, rfl⟩
  · exact .inr (.inr ⟨⟨y, hy, rfl⟩, by simp, by simp⟩)
  · exact .inr (.inl ⟨roletype, n, rfl⟩)
  · exact .inr (.inr ⟨⟨y, hy, rfl⟩, by simp, by simp⟩)

theorem select_packet {roletype : Int} {row : Option (Int × String)}
    (h : event sqlite st a = .select s roletype row) : ∃ m rand, a = .packet s m rand ∧
      readable s st = true ∧ (st.cache.GetEntity s).isSome = true ∧ m.curscene = .CS_SelectRole ∧
      selectEvent sqlite s m.selectrolerequest st.db st.cache = .select s roletype row := by
  obtain ⟨t, m, rand, rfl, hread, hsome, hev⟩ := rewrites_packet (by rw [h]; rfl)
  obtain ⟨hm, hev⟩ | ⟨-, hev⟩ := hev
  · rw [h] at hev
    have hst : s = t := by
      rw [selectEvent] at hev
      repeat' split at hev
      all_goals cases hev
      all_goals rfl
    subst hst
    exact ⟨m, rand, rfl, hread, hsome, hm, hev.symm⟩
  · rw [h, mainEvent] at hev
    repeat' split at hev
    all_goals cases hev

/-- The row that a successful selection finds is the one of the user who holds the
session id. -/
theorem select_row (hrel : Relational sqlite view) (hv : view st.db = σ.tables) (hs : Sound σ)
    {roletype id : Int} {n : String}
    (h : event sqlite st a = .select s roletype (some (id, n))) :
    ∃ sid r p, sessions st.cache s = some sid ∧ r ∈ σ.users ∧ r.session_id = some sid ∧
      r.userID = id ∧ p ∈ σ.rolesOf r ∧ p.roleType = roletype ∧ cString p.name = n := by
  obtain ⟨m, rand, rfl, -, -, -, hev⟩ := select_packet h
  rw [selectEvent] at hev
  split at hev
  · rename_i hcheck
    have hrows := role_rows hrel hv hs m.selectrolerequest.sessionid m.selectrolerequest.roletype
    have hexec : selectRole sqlite m.selectrolerequest st.db = sqlite.exec st.db
        (Query.role m.selectrolerequest.sessionid m.selectrolerequest.roletype).sql := rfl
    rw [hexec] at hev
    obtain ⟨hfirst, -⟩ | ⟨row, r, p, hfirst, hr, hsid, hp, ht, hid, hname⟩ := hrows
    · simp [hfirst] at hev
    · simp only [hfirst, hname] at hev
      cases hev
      exact ⟨_, r, p, check_iff.mp hcheck, hr, hsid, hid.symm, hp, ht, rfl⟩
  · cases hev

theorem owned_step (hrel : Relational sqlite view) (hw : Stored view w st)
    (htraced : Traced o st.cache) (hi : Owned (view st.db) o (lobby st.cache))
    (h : step sqlite st a = .ok (st', out)) :
    Owned (view st'.db) (watch sqlite o st a) (lobby st'.cache) := by
  obtain ⟨hen, happ⟩ := step_refines h
  have hstep : Steps sqlite st a st' := ⟨out, h⟩
  intro t x hx
  rw [happ, identities_apply hen] at hx
  obtain ⟨-, hzero⟩ | ⟨roletype, n, hev⟩ | ⟨⟨y, hy, hid⟩, henter, hselect⟩ := identified_roleid hx
  · exact .inl hzero
  · right
    obtain ⟨σ, hv, hs, rfl⟩ := hw
    obtain ⟨sid, r, p, hsid, hr, hrow, hid, -⟩ := select_row hrel hv hs hev
    -- the row and the login name the same user
    have hnames := hs.sessions r hr sid hrow
    obtain ⟨u, hu, hn⟩ := htraced t sid hsid hnames.ne_empty
    refine ⟨u, ?_, ?_⟩
    · simp only [watch, hev, Function.update_self]
      exact hu
    · refine hasUser_step hrel ⟨σ, hv, hs, rfl⟩ hstep ?_
      rw [hv, hasUser_tables]
      exact ⟨r, hr, hid, hnames.inj hn⟩
  · obtain hzero | ⟨u, hu, huser⟩ := hi t y hy
    · exact .inl (hid ▸ hzero)
    · refine .inr ⟨u, ?_, hid ▸ hasUser_step hrel hw hstep huser⟩
      rw [← hu]
      cases hev : event sqlite st a <;> simp only [watch, hev]
      case enter s => exact Function.update_of_ne (fun hts => henter (by rw [hev, hts])) _ _
      case select s roletype row =>
        cases row with
        | none => rfl
        | some row => exact Function.update_of_ne (fun hts => hselect roletype row (by rw [hev, hts])) _ _

end Steps

section Runs

variable {db : DB} {σ₀ : Store} {tr : List (Process DB × Action)}

theorem identity_of_entity {c : CCache} {e : CClientEntity} (h : c.GetEntity s = some e) :
    identities (lobby c) s = some (identity e.roleInfo) := by
  rw [identities, role_of_entity c h]
  rfl

theorem owned (hrel : Relational sqlite view) (hv : view db = σ₀.tables) (hs : Sound σ₀)
    (h : ServerRun sqlite db tr st) :
    Traced (watched sqlite tr) st.cache ∧ Owned (view st.db) (watched sqlite tr) (lobby st.cache) := by
  refine Run.always (I := fun tr st => Traced (watched sqlite tr) st.cache ∧
    Owned (view st.db) (watched sqlite tr) (lobby st.cache)) (C := fun _ _ => True) ?_ ?_ h
    fun _ _ => trivial
  · refine ⟨fun s sid hsid => ?_, fun s x hx => ?_⟩
    · simp [sessions, start, CCache.GetEntity] at hsid
    · simp [identities, lobby_start, emptyLobby] at hx
  · rintro tr st a st' hrun ⟨htraced, hi⟩ - ⟨out, hstep⟩
    exact ⟨traced_step htraced hstep, owned_step hrel (stored hrel hv hs hrun) htraced hi hstep⟩

/-- A role id is 0 or the id of the one user whose login had assigned the session
id of the entity when the role was selected, and only such a selection writes it. -/
theorem roleid_of_login (hrel : Relational sqlite view) (hv : view db = σ₀.tables) (hs : Sound σ₀)
    (h : ServerRun sqlite db tr st) :
    (∀ s e, st.cache.GetEntity s = some e → e.roleInfo.roleid = 0 ∨
      ∃ u, (watched sqlite tr).chosen s = some u ∧ HasUser (view st.db) e.roleInfo.roleid u ∧
        ∀ v, HasUser (view st.db) e.roleInfo.roleid v → v = u) ∧
    ∀ a st', Steps sqlite st a st' → ∀ s e e', st.cache.GetEntity s = some e →
      st'.cache.GetEntity s = some e' → selects sqlite st a ≠ some s →
        e'.roleInfo.roleid = e.roleInfo.roleid := by
  refine ⟨fun s e he => ?_, ?_⟩
  · obtain hzero | ⟨u, hu, huser⟩ := (owned hrel hv hs h).2 s _ (identity_of_entity he)
    · exact .inl hzero
    · exact .inr ⟨u, hu, huser, fun v hv' => hasUser_inj (stored hrel hv hs h) hv' huser⟩
  · rintro a st' ⟨out, hstep⟩ s e e' he he' hno
    obtain ⟨hen, happ⟩ := step_refines hstep
    have hx := identity_of_entity he'
    rw [happ, identities_apply hen] at hx
    obtain ⟨hev, -⟩ | ⟨roletype, n, hev⟩ | ⟨⟨y, hy, hid⟩, -⟩ := identified_roleid hx
    · rw [hev] at hen
      have hnone : (lobby st.cache).role s = none := hen
      rw [role_of_entity st.cache he] at hnone
      cases hnone
    · exact absurd (by rw [selects, hev]) hno
    · rw [identity_of_entity he] at hy
      cases hy
      exact hid.symm

end Runs

section Example

def annPlaysBob : List Action :=
  [.accept 7 0, register 7 "ann" "pw", login 7 "ann" "pw", createRole 7 "ann_111111" 1 "bob",
    AccountRefinement.selectRole 7 "ann_111111" 1]

def heldBy7 (st : Process DB) : Option Identity := identities (lobby st.cache) 7

/-- The steps on the way select with success only, and write no role info otherwise. -/
def selectsOnly (tr : List (Process Tables × Action)) : Bool :=
  tr.all fun x =>
    match event reference x.1 x.2 with
    | .select _ _ none | .sync _ _ => false
    | _ => true

theorem ann_plays_bob : ∃ tr st st', ServerRun reference noTablesYet tr st ∧
    actions tr = annPlaysBob ∧ Steps reference st (AccountRefinement.selectRole 7 "ann_111111" 2) st' ∧
    selectsOnly tr = true ∧
    heldBy7 st = some { roleid := 1, roletype := 1, name := "bob" } ∧
    heldBy7 st' = some { roleid := 1, roletype := 2, name := "bob" } ∧
    ∀ players, st'.db StatementMeanings.playerInfo = some players →
      ∀ row ∈ players.rows, cell 1 row ≠ .int 2 := by
  obtain ⟨tr, st, hrun, hact, hp⟩ := exists_run reference noTablesYet annPlaysBob
    (fun tr st => selectsOnly tr &&
      decide (heldBy7 st = some { roleid := 1, roletype := 1, name := "bob" }) &&
      (next reference st (AccountRefinement.selectRole 7 "ann_111111" 2)).any fun st' =>
        decide (heldBy7 st' = some { roleid := 1, roletype := 2, name := "bob" }) &&
        (st'.db StatementMeanings.playerInfo).all fun players =>
          players.rows.all fun row => decide (cell 1 row ≠ .int 2)) (by decide +kernel)
  simp only [Bool.and_eq_true, decide_eq_true_eq] at hp
  obtain ⟨⟨honly, hheld⟩, hnext⟩ := hp
  obtain ⟨st', hst', htest⟩ := (Option.any_eq_true _ _).mp hnext
  simp only [Bool.and_eq_true, decide_eq_true_eq] at htest
  obtain ⟨hheld', hrows⟩ := htest
  refine ⟨tr, st, st', hrun, hact, steps_of_next hst', honly, hheld, hheld', ?_⟩
  intro players hplayers row hrow
  rw [hplayers] at hrows
  exact of_decide_eq_true (List.all_eq_true.mp hrows row hrow)

/-- The role id of the client is Ann's. -/
theorem ann_holds_her_id : ∃ tr st, ServerRun reference noTablesYet tr st ∧
    actions tr = annPlaysBob ∧ ∃ u, (watched reference tr).chosen 7 = some u ∧ HasUser st.db 1 u ∧
      ∀ v, HasUser st.db 1 v → v = u := by
  obtain ⟨tr, st, -, hrun, hact, -, -, hheld, -⟩ := ann_plays_bob
  obtain ⟨p, hp, hid⟩ := Option.map_eq_some_iff.mp hheld
  obtain ⟨e, he, rfl⟩ := Option.map_eq_some_iff.mp hp
  have hroleid : e.roleInfo.roleid = 1 := congrArg Identity.roleid hid
  refine ⟨tr, st, hrun, hact, ?_⟩
  have howned := (roleid_of_login relational_reference noTablesYet_eq sound_empty hrun).1 7 e he
  rw [hroleid] at howned
  exact howned.resolve_left (by decide)

end Example

end JiraGame.RoleIds
