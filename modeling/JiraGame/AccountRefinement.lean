import JiraGame.AccountReplies

namespace JiraGame.AccountRefinement

open JiraGame.Scene JiraGame.Command JiraGame.Utilitys JiraGame.DBServer JiraGame.Cache
open JiraGame.HallScene JiraGame.AccountScenes JiraGame.AccountStatements JiraGame.ServerState
open JiraGame.Server JiraGame.KeepAlive JiraGame.Session JiraGame.Runs JiraGame.DatabaseFrame
open JiraGame.Listeners JiraGame.AccountMap JiraGame.AccountTables JiraGame.AccountStore
open JiraGame.RelationalSqlite JiraGame.AccountReplies JiraGame.Lib.SqlMeaning
open JiraGame.Lib.History JiraGame.Lib.Fails

/-- The account request of a message. A login draws six random numbers, and a
registration on socket 0 is dropped. -/
def request (s : SOCKET) (m : UnPacket) (rand : List Nat) : Option Request :=
  match m.curscene with
  | .CS_Register =>
    if s = 0 then none
    else some (.register m.registerrequest.username m.registerrequest.password)
  | .CS_Login =>
    (digitsOf rand).map fun digits =>
      .login m.loginrequest.username m.loginrequest.password digits
  | .CS_CreateRole =>
    some (.createRole m.createrolerequest.sessionid m.createrolerequest.playerinfo.roletype
      m.createrolerequest.playerinfo.name)
  | .CS_SelectRole =>
    some (.selectRole m.selectrolerequest.sessionid m.selectrolerequest.roletype)
  | _ => none

variable {DB : Type}

/-- The account request that a step hands to a handler. -/
def arrives (st : Process DB) : Action → Option (SOCKET × Request)
  | .packet s m rand =>
    if readable s st && (st.cache.GetEntity s).isSome then (request s m rand).map fun req => (s, req)
    else none
  | _ => none

/-- The account map takes the requests in the order in which they arrive. -/
noncomputable def serve (shown : String → String) (w : Accounts) (st : Process DB) (a : Action) :
    Accounts :=
  match arrives st a with
  | some (s, req) => (w.answer shown (sessions st.cache s) req).1
  | none => w

/-- The accounts after a run. -/
noncomputable def served (shown : String → String) (w : Accounts)
    (tr : List (Process DB × Action)) : Accounts :=
  observe w (serve shown) tr

def Stored (view : DB → Tables) (w : Accounts) (st : Process DB) : Prop :=
  ∃ σ, view st.db = σ.tables ∧ Sound σ ∧ accounts σ = w

section Steps

variable {sqlite : Sqlite DB} {view : DB → Tables} {st st' : Process DB} {s : SOCKET} {m : UnPacket}
  {rand : List Nat} {req : Request} {a : Action} {out : Outbox} {w : Accounts} {σ : Store}

theorem arrives_packet (ha : arrives st a = some (s, req)) : ∃ m rand, a = .packet s m rand ∧
    readable s st = true ∧ (st.cache.GetEntity s).isSome = true ∧ request s m rand = some req := by
  cases a with
  | packet t m rand =>
    rw [arrives] at ha
    split at ha
    · rename_i hr
      obtain ⟨hread, hsome⟩ := Bool.and_eq_true_iff.mp hr
      obtain ⟨req', hreq, he⟩ := Option.map_eq_some_iff.mp ha
      cases he
      exact ⟨m, rand, rfl, hread, hsome, hreq⟩
    · cases ha
  | accept | close | poll => cases ha

theorem ProcessMsgLogic_outcome (hrel : Relational sqlite view) (hv : view st.db = σ.tables)
    (hs : Sound σ) (he : (st.cache.GetEntity s).isSome = true) (hreq : request s m rand = some req) :
    ∃ x, ProcessMsgLogic sqlite s m rand st = .ok x ∧
      Outcome view σ st.cache s req (x.1.db, x.1.cache, x.2) := by
  obtain ⟨e, he⟩ := Option.isSome_iff_exists.mp he
  rw [request] at hreq
  rw [ProcessMsgLogic]
  cases hm : m.curscene <;> simp only [hm, reduceCtorEq] at hreq ⊢
  case CS_Login =>
    obtain ⟨digits, hd, rfl⟩ := Option.map_eq_some_iff.mp hreq
    obtain ⟨x, hx, houtcome⟩ := LoginLogic_outcome hrel hv hs he m.loginrequest hd
    exact ⟨_, by rw [hx]; rfl, houtcome⟩
  case CS_CreateRole =>
    cases hreq
    obtain ⟨x, hx, houtcome⟩ := CreateLogic_outcome hrel hv hs m.createrolerequest
    exact ⟨_, by rw [hx]; rfl, houtcome⟩
  case CS_Register =>
    split at hreq
    · cases hreq
    · rename_i hs0
      cases hreq
      obtain ⟨x, hx, houtcome⟩ := RegisterLogic_outcome hrel hv hs m.registerrequest
      rw [if_neg hs0]
      exact ⟨_, by rw [hx]; rfl, houtcome⟩
  case CS_SelectRole =>
    cases hreq
    obtain ⟨x, hx, houtcome⟩ := SelectLogic_outcome hrel hv hs m.selectrolerequest
    exact ⟨_, by rw [hx]; rfl, houtcome⟩

theorem LoginLogic_view {c : CCache} {db : DB} {x : DB × CCache × Outbox} {r : LoginRequest}
    (hrel : Relational sqlite view) (hv : view db = σ.tables) (hd : digitsOf rand = none)
    (h : LoginLogic sqlite s r rand db c = .ok x) : view x.1 = view db := by
  have hsid : sessionOf r.username rand = none := by
    rw [sessionOf_eq, hd]
    rfl
  rw [LoginLogic_eq] at h
  simp only [hsid] at h
  split at h
  · cases h
    rw [hv]
    exact (exec_reads hrel hv (reads_account σ _ _)).1
  · cases h

theorem ProcessMsgLogic_view {x : Process DB × Outbox} (hrel : Relational sqlite view)
    (hv : view st.db = σ.tables) (hreq : request s m rand = none)
    (h : ProcessMsgLogic sqlite s m rand st = .ok x) : view x.1.db = view st.db := by
  rw [request] at hreq
  rw [ProcessMsgLogic] at h
  cases hm : m.curscene <;> simp only [hm, reduceCtorEq] at hreq h
  case CS_KeepAlive => rw [Start_db h]
  case CS_Login =>
    obtain ⟨y, hy, h⟩ := of_bind_ok h
    cases h
    exact LoginLogic_view hrel hv (Option.map_eq_none_iff.mp hreq) hy
  case CS_Register =>
    split at hreq
    · rename_i hs0
      rw [if_pos hs0] at h
      cases h
      rfl
    · cases hreq
  case CS_WaitRoom | CS_MainScene =>
    obtain ⟨y, -, h⟩ := of_bind_ok h
    cases h
    rfl
  all_goals
    cases h
    rfl

theorem stored_step (hrel : Relational sqlite view) (hw : Stored view w st)
    (h : step sqlite st a = .ok (st', out)) : Stored view (serve cString w st a) st' := by
  obtain ⟨σ, hv, hs, rfl⟩ := hw
  rw [serve]
  cases ha : arrives st a with
  | some x =>
    obtain ⟨s, req⟩ := x
    obtain ⟨m, rand, rfl, hread, hsome, hreq⟩ := arrives_packet ha
    obtain ⟨x, hx, houtcome⟩ := ProcessMsgLogic_outcome hrel hv hs hsome hreq
    obtain ⟨y, hy, h⟩ := of_map_ok h
    obtain ⟨e, he⟩ := Option.isSome_iff_exists.mp hsome
    simp only [receive, hread, he, if_true] at hy
    rw [hx] at hy
    cases hy
    obtain ⟨σ', hv', hs', hacc⟩ := houtcome.stored
    exact ⟨σ', by rw [db_of_deliver h]; exact hv', hs', hacc⟩
  | none =>
    obtain hdb | ⟨s, m, rand, x, rfl, hread, hsome, hx, hdel⟩ := step_db h
    · exact ⟨σ, by rw [hdb]; exact hv, hs, rfl⟩
    · have hreq : request s m rand = none := by
        rw [arrives, hread, hsome, Bool.and_self, if_pos rfl, Option.map_eq_none_iff] at ha
        exact ha
      refine ⟨σ, ?_, hs, rfl⟩
      rw [db_of_deliver hdel, ProcessMsgLogic_view hrel hv hreq hx]
      exact hv

end Steps

section Runs

variable {sqlite : Sqlite DB} {view : DB → Tables} {db : DB} {σ₀ : Store}
  {tr : List (Process DB × Action)} {st : Process DB}

theorem stored (hrel : Relational sqlite view) (hv : view db = σ₀.tables) (hs : Sound σ₀)
    (h : ServerRun sqlite db tr st) : Stored view (served cString (accounts σ₀) tr) st := by
  refine Run.always (I := fun tr st => Stored view (served cString (accounts σ₀) tr) st)
    (C := fun _ _ => True) ?_ ?_ h fun _ _ => trivial
  · exact ⟨σ₀, hv, hs, rfl⟩
  · rintro tr st a st' - hw - ⟨out, hstep⟩
    exact stored_step hrel hw hstep

end Runs

section Answers

variable {sqlite : Sqlite DB} {view : DB → Tables} {db : DB} {σ₀ : Store}
  {tr : List (Process DB × Action)} {st : Process DB} {a : Action} {s : SOCKET} {req : Request}
  {w : Accounts} {out : Outbox}

theorem serve_arrived (shown : String → String) (ha : arrives st a = some (s, req)) :
    serve shown w st a = (w.answer shown (sessions st.cache s) req).1 := by
  simp only [serve, ha]

/-- What a request is answered is written to its client. -/
theorem step_answers (hrel : Relational sqlite view) (hw : Stored view w st) (hreg : Registered st)
    (ha : arrives st a = some (s, req)) : ∃ st' out, step sqlite st a = .ok (st', out) ∧
      Says cString s (w.answer cString (sessions st.cache s) req).2 out ∧
      sessions st'.cache = holds (sessions st.cache) s
        (w.answer cString (sessions st.cache s) req).2 := by
  obtain ⟨σ, hv, hs, rfl⟩ := hw
  obtain ⟨m, rand, rfl, hread, hsome, hreq⟩ := arrives_packet ha
  obtain ⟨x, hx, houtcome⟩ := ProcessMsgLogic_outcome hrel hv hs hsome hreq
  obtain ⟨e, he⟩ := Option.isSome_iff_exists.mp hsome
  have hlistener : listener x.1 s = some s := by
    have hheld : (sessions x.1.cache s).isSome = true := by
      rw [houtcome.held]
      exact holds_isSome (by rw [sessions, he]; rfl) _
    obtain ⟨sid, hsid⟩ := Option.isSome_iff_exists.mp hheld
    rw [registered_packet hreg hsome hx s, hsid]
    rfl
  refine ⟨x.1, x.2, ?_, houtcome.reply, houtcome.held⟩
  simp only [step, receive, hread, he, if_true, hx]
  exact congrArg Except.ok (deliver_own hlistener (says_own houtcome.reply))

end Answers

section Plain

variable {sqlite : Sqlite DB} {view : DB → Tables} {db : DB} {σ₀ : Store}
  {tr : List (Process DB × Action)} {st : Process DB} {s : SOCKET} {req : Request} {w : Accounts}
  {out : Outbox}

/-- No user registers with a name and no role is created with a name that has a NUL. -/
def PlainNames (st : Process DB) (a : Action) : Prop :=
  ∀ s req, arrives st a = some (s, req) → req.Whole cString

def plainAction : Action → Bool
  | .packet s m rand => (request s m rand).all fun req => decide (req.Whole cString)
  | _ => true

theorem plain_of_action {a : Action} (h : plainAction a = true) (st : Process DB) :
    PlainNames st a := by
  intro s req ha
  obtain ⟨m, rand, rfl, -, -, hreq⟩ := arrives_packet ha
  simpa [plainAction, hreq] using h

theorem plain_of_actions (h : (actions tr).all plainAction = true) :
    ∀ x ∈ tr, PlainNames x.1 x.2 := by
  intro x hx
  have hmem : x.2 ∈ actions tr := List.mem_reverse.mpr (List.mem_map_of_mem hx)
  exact plain_of_action (List.all_eq_true.mp h x.2 hmem) x.1

theorem served_of_plain (hw : w.Whole cString) (hsingle : w.Single)
    (htr : ∀ x ∈ tr, PlainNames x.1 x.2) : served cString w tr = served id w tr ∧
      (served id w tr).Whole cString ∧ (served id w tr).Single := by
  induction tr with
  | nil => exact ⟨rfl, hw, hsingle⟩
  | cons x tr ih =>
    obtain ⟨heq, hwhole, hone⟩ := ih fun y hy => htr y (List.mem_cons_of_mem _ hy)
    have hstep : ∀ shown, served shown w (x :: tr) = serve shown (served shown w tr) x.1 x.2 :=
      fun _ => rfl
    rw [hstep, hstep, heq]
    cases ha : arrives x.1 x.2 with
    | none =>
      simp only [serve, ha]
      exact ⟨trivial, hwhole, hone⟩
    | some y =>
      obtain ⟨s, req⟩ := y
      have hreq := htr x List.mem_cons_self s req ha
      rw [serve_arrived cString ha, serve_arrived id ha, ← Accounts.answer_of_whole hwhole]
      exact ⟨rfl, Accounts.whole_answer hwhole hreq,
        Accounts.single_answer hone (Accounts.asks_of_whole hwhole)⟩

theorem lists_congr {a : Account} {entry entry' : Int → String → PlayerInfo} {l : List PlayerInfo}
    (h : Lists a entry l) (he : ∀ t n, a.role t n → entry t n = entry' t n) : Lists a entry' l := by
  obtain ⟨roles, hnodup, hmem, rfl⟩ := h
  refine ⟨roles, hnodup, hmem, List.map_congr_left fun x hx => ?_⟩
  exact he x.1 x.2 ((hmem x.1 x.2).mp hx)

theorem says_of_whole {rep : Reply} (hrep : rep.Whole cString) (h : Says cString s rep out) :
    Says id s rep out := by
  cases rep with
  | loggedIn sid a =>
    obtain ⟨returntype, l, hout, htype, hlists⟩ := h
    exact ⟨returntype, l, hout, htype, lists_congr hlists fun t n hn => by rw [hrep t n hn]; rfl⟩
  | created a? =>
    obtain ⟨l, hout, hlists⟩ := h
    refine ⟨l, hout, ?_⟩
    cases a? with
    | none => exact hlists
    | some a =>
      obtain ⟨htype, hlists⟩ | hnone := hlists
      · exact .inl ⟨htype, lists_congr hlists fun t n hn => by rw [hrep a rfl t n hn]; rfl⟩
      · exact .inr hnone
  | registered | refused | notCreated | selected | silent => exact h

/-- Every account request that arrives in a run is answered with the reply of
the account map, where no name has a NUL. -/
theorem replies_of_accounts (hrel : Relational sqlite view) (hv : view db = σ₀.tables)
    (hs : Sound σ₀) (hwhole : (accounts σ₀).Whole cString) (hsingle : (accounts σ₀).Single)
    (h : ServerRun sqlite db tr st) (htr : ∀ x ∈ tr, PlainNames x.1 x.2) {a : Action}
    (hplain : PlainNames st a) (ha : arrives st a = some (s, req)) :
    (served id (accounts σ₀) tr).Single ∧ ∃ st' out, step sqlite st a = .ok (st', out) ∧
      Says id s ((served id (accounts σ₀) tr).answer id (sessions st.cache s) req).2 out ∧
      sessions st'.cache = holds (sessions st.cache) s
        ((served id (accounts σ₀) tr).answer id (sessions st.cache s) req).2 := by
  obtain ⟨heq, hwhole', hone⟩ := served_of_plain hwhole hsingle htr
  obtain ⟨st', out, hstep, htold, hheld⟩ := step_answers hrel (stored hrel hv hs h) (registered h) ha
  rw [heq] at htold hheld
  have hrep := says_of_whole (Accounts.whole_reply hwhole' (hplain s req ha)) htold
  rw [Accounts.answer_of_whole hwhole'] at hrep hheld
  exact ⟨hone, st', out, hstep, hrep, hheld⟩

end Plain

def noTablesYet : Tables := fun _ => none

theorem noTablesYet_eq : noTablesYet = ({} : Store).tables := by
  funext n
  simp [noTablesYet, Store.tables]

def register (s : SOCKET) (username password : String) : Action :=
  .packet s { curscene? := some .CS_Register
              registerrequest? := some { username? := some username, password? := some password } } []

def createRole (s : SOCKET) (sid : String) (roletype : Int) (name : String) : Action :=
  .packet s { curscene? := some .CS_CreateRole
              createrolerequest? := some
                { sessionid? := some sid
                  playerinfo? := some { roletype? := some roletype, name? := some name } } } []

def selectRole (s : SOCKET) (sid : String) (roletype : Int) : Action :=
  .packet s { curscene? := some .CS_SelectRole
              selectrolerequest? := some { sessionid? := some sid, roletype? := some roletype } } []

theorem served_accept {shown : String → String} {w : Accounts} {s : SOCKET} {junk : Int}
    {tr : List (Process DB × Action)} (h : actions tr = [.accept s junk]) :
    served shown w tr = w := by
  have hmap : tr.map Prod.snd = [.accept s junk] := by
    rw [actions, List.reverse_eq_iff] at h
    exact h
  obtain ⟨⟨st, a⟩, rest, rfl, rfl, hrest⟩ := List.map_eq_cons_iff.mp hmap
  rw [List.map_eq_nil_iff.mp hrest]
  rfl

theorem register_answered : ∃ tr st, ServerRun reference noTablesYet tr st ∧
    actions tr = [.accept 7 0] ∧ ∃ st', step reference st (register 7 "ann" "pw") =
      .ok (st', [(7, registerPacket .RT_Success)]) := by
  obtain ⟨tr, st, hrun, hact, hp⟩ := exists_run reference noTablesYet [.accept 7 0]
    (fun _ st => readable 7 st && (st.cache.GetEntity 7).isSome) (by decide +kernel)
  have ha : arrives st (register 7 "ann" "pw") = some (7, .register "ann" "pw") := by
    rw [register, arrives, if_pos hp]
    rfl
  obtain ⟨-, st', out, hstep, hreply, -⟩ := replies_of_accounts relational_reference
    noTablesYet_eq sound_empty Accounts.whole_noAccounts Accounts.single_noAccounts hrun
    (plain_of_actions (by rw [hact]; decide)) (plain_of_action (by decide) st) ha
  rw [served_accept hact] at hreply
  have hout : out = [(7, registerPacket .RT_Success)] := hreply
  rw [hout] at hstep
  exact ⟨tr, st, hrun, hact, st', hstep⟩

/-- The user with this name is looked up as "ann" when it creates a role. -/
def annNul : String := "ann\x00"

def createsRole (n : String) : Action := createRole 7 (annNul ++ "_111111") 1 n

def createdNone : Outbox := [(7, createPacket { returntype? := some .CRT_Success })]

/-- A registration on socket 0 is not answered, also of an unknown user. A user whose
name has a NUL creates two roles of one type. -/
theorem register_unanswered : (∃ tr st, ServerRun reference noTablesYet tr st ∧
    actions tr = [.accept 0 0] ∧ readable 0 st = true ∧ (st.cache.GetEntity 0).isSome = true ∧
    (noAccounts.answer id (sessions st.cache 0) (.register "ann" "pw")).2 = .registered true ∧
    step reference st (register 0 "ann" "pw") = .ok (st, [])) ∧
    ∃ tr st st₁ st₂, ServerRun reference noTablesYet tr st ∧
      actions tr = [.accept 7 0, register 7 annNul "pw", login 7 annNul "pw"] ∧
      step reference st (createsRole "bob") = .ok (st₁, createdNone) ∧
      step reference st₁ (createsRole "eve") = .ok (st₂, createdNone) := by
  constructor
  · obtain ⟨tr, st, hrun, hact, hp⟩ := exists_run reference noTablesYet [.accept 0 0]
      (fun _ st => readable 0 st && (st.cache.GetEntity 0).isSome) (by decide +kernel)
    obtain ⟨hread, hsome⟩ := Bool.and_eq_true_iff.mp hp
    refine ⟨tr, st, hrun, hact, hread, hsome, rfl, ?_⟩
    obtain ⟨e, he⟩ := Option.isSome_iff_exists.mp hsome
    simp only [register, step, receive, hread, he, if_true]
    rfl
  · obtain ⟨tr, st, hrun, hact, hp⟩ := exists_run reference noTablesYet
      [.accept 7 0, register 7 annNul "pw", login 7 annNul "pw"]
      (fun _ st => (step reference st (createsRole "bob")).toOption.any
        fun x : Process Tables × Outbox => decide (x.2 = createdNone) &&
          (step reference x.1 (createsRole "eve")).toOption.any
            fun y : Process Tables × Outbox => decide (y.2 = createdNone)) (by decide +kernel)
    obtain ⟨⟨st₁, out₁⟩, hstep, hx⟩ := of_any_ok hp
    obtain ⟨hout, hx⟩ := Bool.and_eq_true_iff.mp hx
    obtain ⟨⟨st₂, out₂⟩, hstep', hout'⟩ := of_any_ok hx
    have hout : out₁ = createdNone := of_decide_eq_true hout
    have hout' : out₂ = createdNone := of_decide_eq_true hout'
    subst hout hout'
    exact ⟨tr, st, st₁, st₂, hrun, hact, hstep, hstep'⟩

end JiraGame.AccountRefinement
