import JiraGame.AccountRows

namespace JiraGame.AccountLife

open JiraGame.Scene JiraGame.Command JiraGame.DBServer JiraGame.HallScene JiraGame.AccountScenes
open JiraGame.AccountStatements hiding text
open JiraGame.ServerState JiraGame.Server JiraGame.Session JiraGame.Runs JiraGame.Listeners
open JiraGame.AccountMap JiraGame.AccountTables JiraGame.AccountStore JiraGame.RelationalSqlite
open JiraGame.AccountReplies JiraGame.AccountRefinement JiraGame.AccountRows
open JiraGame.Lib.SqlMeaning
open JiraGame.Lib.History JiraGame.Lib.Fails

section Answers

variable {w : Accounts} {held : Option String} {req : Request} {u sid : String} {a : Account}

/-- A request that leaves the session id of a user alone: any but a login of the
user with the password. -/
def KeepsSession (u password : String) : Request → Prop
  | .login v p _ => v = u → p ≠ password
  | _ => True

/-- An account keeps its password; its session id changes when the user logs in. -/
theorem Becomes.keeps {shown : String → String} {b : Account}
    (h : Accounts.Becomes shown w held req u a b) :
    b.password = a.password ∧ (KeepsSession u a.password req → b.session = a.session) := by
  cases h with
  | kept => exact ⟨rfl, fun _ => rfl⟩
  | loggedIn digits hreq =>
    subst hreq
    exact ⟨rfl, fun hkeeps => absurd rfl (hkeeps rfl)⟩
  | added => exact ⟨rfl, fun _ => rfl⟩

end Answers

variable {DB : Type} {sqlite : Sqlite DB} {view : DB → Tables} {db : DB} {σ₀ : Store}
  {tr post pre : List (Process DB × Action)} {st st₀ st₁ : Process DB} {a : Action} {s : SOCKET}
  {req : Request} {out : Outbox} {w : Accounts} {u p sid : String} {b : Account}

theorem served_arrived (ha : arrives st a = some (s, req)) : served cString w ((st, a) :: tr) =
    ((served cString w tr).answer cString (sessions st.cache s) req).1 :=
  serve_arrived cString ha

/-- No request that arrives later takes an account or its password away. -/
theorem served_account (post : List (Process DB × Action)) (h : (served cString w tr).account u = some b) :
    ∃ c, (served cString w (post ++ tr)).account u = some c ∧ c.password = b.password ∧
      ((∀ y ∈ post, ∀ s req, arrives y.1 y.2 = some (s, req) → KeepsSession u b.password req) →
        c.session = b.session) := by
  induction post with
  | nil => exact ⟨b, h, rfl, fun _ => rfl⟩
  | cons y post ih =>
    obtain ⟨c, hc, hpass, hsess⟩ := ih
    have hstep : served cString w (y :: post ++ tr) = serve cString (served cString w (post ++ tr)) y.1 y.2 := rfl
    rw [hstep]
    cases ha : arrives y.1 y.2 with
    | none =>
      simp only [serve, ha]
      exact ⟨c, hc, hpass, fun hall => hsess fun z hz => hall z (List.mem_cons_of_mem _ hz)⟩
    | some x =>
      obtain ⟨s, req⟩ := x
      rw [serve_arrived cString ha]
      obtain ⟨d, hd, hbecomes⟩ := Accounts.answer_account req hc
      obtain ⟨hpass', hsess'⟩ := Becomes.keeps hbecomes
      refine ⟨d, hd, hpass'.trans hpass, fun hall => ?_⟩
      have hkeeps := hall y List.mem_cons_self s req ha
      rw [← hpass] at hkeeps
      rw [hsess' hkeeps]
      exact hsess fun z hz => hall z (List.mem_cons_of_mem _ hz)

section Replies

theorem step_says (hrel : Relational sqlite view) (hv : view db = σ₀.tables) (hs : Sound σ₀)
    (h : ServerRun sqlite db tr st) (ha : arrives st a = some (s, req)) :
    ∃ st' out, step sqlite st a = .ok (st', out) ∧
      Says cString s ((served cString (accounts σ₀) tr).answer cString (sessions st.cache s) req).2 out := by
  obtain ⟨st', out, hstep, htold, -⟩ := step_answers hrel (stored hrel hv hs h) (registered h) ha
  exact ⟨st', out, hstep, htold⟩

theorem says_of_step (hrel : Relational sqlite view) (hv : view db = σ₀.tables) (hs : Sound σ₀)
    (h : ServerRun sqlite db tr st) (ha : arrives st a = some (s, req))
    (hstep : step sqlite st a = .ok (st₁, out)) :
    Says cString s ((served cString (accounts σ₀) tr).answer cString (sessions st.cache s) req).2 out := by
  obtain ⟨st', out', hstep', htold⟩ := step_says hrel hv hs h ha
  rw [hstep] at hstep'
  cases hstep'
  exact htold

theorem registered_account {held : Option String}
    (htold : Says cString s (w.answer cString held (.register u p)).2 out)
    (hok : (s, registerPacket .RT_Success) ∈ out) :
    ∃ b, (w.answer cString held (.register u p)).1.account u = some b ∧ b.password = p := by
  rw [Accounts.answer] at htold ⊢
  split at htold
  · have hout : out = [(s, registerPacket .RT_Fail)] := htold
    rw [hout, List.mem_singleton] at hok
    simp [registerPacket] at hok
  · refine ⟨{ id := w.count + 1, password := p }, ?_, rfl⟩
    dsimp only
    rw [Accounts.account_put, if_pos rfl]

theorem not_refused {ret : LoginReturn} (hmem : (s, loginPacket ret) ∈ out)
    (hok : ret.returntype? ≠ some .Fail) :
    ¬ out = [(s, loginPacket { returntype? := some .Fail })] := by
  rintro rfl
  rw [List.mem_singleton] at hmem
  simp only [loginPacket, Prod.mk.injEq, Packet.mk.injEq, Option.some.injEq, true_and,
    and_true] at hmem
  rw [hmem] at hok
  exact hok rfl

theorem login_answer {held : Option String} {digits : String} {ret : LoginReturn}
    (htold : Says cString s (w.answer cString held (.login u p digits)).2 out) (hmem : (s, loginPacket ret) ∈ out)
    (hok : ret.returntype? ≠ some .Fail) : ∃ b, w.account u = some b ∧ b.password = p ∧
      w.answer cString held (.login u p digits) =
        (w.put u { b with session := some (u ++ "_" ++ digits) },
          .loggedIn (u ++ "_" ++ digits) { b with session := some (u ++ "_" ++ digits) }) := by
  rw [Accounts.answer] at htold ⊢
  split at htold
  · exact absurd htold (not_refused hmem hok)
  · rename_i b hb
    split at htold
    · rename_i hp
      exact ⟨b, hb, hp, if_pos hp⟩
    · exact absurd htold (not_refused hmem hok)

theorem loggedIn_account {held : Option String} {digits : String} {ret : LoginReturn}
    (htold : Says cString s (w.answer cString held (.login u p digits)).2 out) (hmem : (s, loginPacket ret) ∈ out)
    (hok : ret.returntype? ≠ some .Fail) :
    ∃ b, (w.answer cString held (.login u p digits)).1.account u = some b ∧ b.password = p ∧
      b.session = some (u ++ "_" ++ digits) := by
  obtain ⟨b, -, hp, heq⟩ := login_answer htold hmem hok
  refine ⟨{ b with session := some (u ++ "_" ++ digits) }, ?_, hp, rfl⟩
  rw [heq]
  dsimp only
  rw [Accounts.account_put, if_pos rfl]

end Replies

/-- How the server answers for a user with a password: the name is taken, and the
password alone logs in. -/
structure Known (sqlite : Sqlite DB) (st : Process DB) (u p : String) : Prop where
  taken : ∀ a s p', arrives st a = some (s, .register u p') →
    ∃ st', step sqlite st a = .ok (st', [(s, registerPacket .RT_Fail)])
  refused : ∀ a s p' digits, p' ≠ p → arrives st a = some (s, .login u p' digits) →
    ∃ st', step sqlite st a = .ok (st', [(s, loginPacket { returntype? := some .Fail })])
  admitted : ∀ a s digits, arrives st a = some (s, .login u p digits) →
    ∃ st' ret, step sqlite st a = .ok (st', [(s, loginPacket ret)]) ∧
      ret.sessionid? = some (u ++ "_" ++ digits) ∧ ret.returntype? ≠ some .Fail

/-- How the server answers to a session id that no account has any more. -/
structure Stale (sqlite : Sqlite DB) (st : Process DB) (sid : String) : Prop where
  creates : ∀ a s t n, arrives st a = some (s, .createRole sid t n) →
    ∃ st', step sqlite st a = .ok (st', [(s, createPacket { returntype? := some .CRT_Fail })])
  selects : ∀ a s t, arrives st a = some (s, .selectRole sid t) →
    ∃ st' out, step sqlite st a = .ok (st', out) ∧ ∀ y ∈ out, y = (s, selectPacket {})

theorem known_of_account (hrel : Relational sqlite view) (hv : view db = σ₀.tables) (hs : Sound σ₀)
    (h : ServerRun sqlite db tr st) (hb : (served cString (accounts σ₀) tr).account u = some b) :
    Known sqlite st u b.password where
  taken := by
    intro a s p' ha
    obtain ⟨st', out, hstep, htold⟩ := step_says hrel hv hs h ha
    simp only [Accounts.answer, hb] at htold
    exact ⟨st', hstep.trans (by rw [htold]; rfl)⟩
  refused := by
    intro a s p' digits hp ha
    obtain ⟨st', out, hstep, htold⟩ := step_says hrel hv hs h ha
    simp only [Accounts.answer, hb, if_neg (Ne.symm hp)] at htold
    exact ⟨st', hstep.trans (by rw [htold])⟩
  admitted := by
    intro a s digits ha
    obtain ⟨st', out, hstep, htold⟩ := step_says hrel hv hs h ha
    simp only [Accounts.answer, hb, if_true] at htold
    obtain ⟨returntype, l, rfl, htype, -⟩ := htold
    refine ⟨st', _, hstep, rfl, ?_⟩
    obtain ⟨-, rfl⟩ | ⟨-, rfl⟩ := htype <;> simp

/-- Once a registration has been answered with success, the user stays known by
that name and password, whatever arrives in between. -/
theorem registration_lasts (post : List (Process DB × Action)) (hrel : Relational sqlite view)
    (hv : view db = σ₀.tables) (hs : Sound σ₀) (h : ServerRun sqlite db (post ++ (st₀, a) :: pre) st)
    (ha : arrives st₀ a = some (s, .register u p))
    (hstep : step sqlite st₀ a = .ok (st₁, out)) (hok : (s, registerPacket .RT_Success) ∈ out) :
    Known sqlite st u p := by
  have hpre : ServerRun sqlite db pre st₀ := Run.before h
  obtain ⟨b, hb, hpass⟩ := registered_account (says_of_step hrel hv hs hpre ha hstep) hok
  rw [← served_arrived ha] at hb
  obtain ⟨c, hc, hpass', -⟩ := served_account post hb
  have hknown := known_of_account hrel hv hs h hc
  rw [hpass', hpass] at hknown
  exact hknown

theorem stale_of_owner (hrel : Relational sqlite view) (hv : view db = σ₀.tables) (hs : Sound σ₀)
    (h : ServerRun sqlite db tr st) (hnone : (served cString (accounts σ₀) tr).owner sid = none) :
    Stale sqlite st sid where
  creates := by
    intro a s t n ha
    obtain ⟨st', out, hstep, htold⟩ := step_says hrel hv hs h ha
    have hout : out = [(s, createPacket { returntype? := some .CRT_Fail })] := by
      rw [Accounts.answer] at htold
      split at htold
      · rw [hnone] at htold
        exact htold
      · exact htold
    exact ⟨st', hstep.trans (by rw [hout])⟩
  selects := by
    intro a s t ha
    obtain ⟨st', out, hstep, htold⟩ := step_says hrel hv hs h ha
    refine ⟨st', out, hstep, ?_⟩
    rw [Accounts.answer] at htold
    split at htold
    · rw [hnone] at htold
      have hout : out = [(s, selectPacket {})] := htold
      rw [hout]
      exact fun y hy => List.mem_singleton.mp hy
    · have hout : out = [] := htold
      rw [hout]
      exact fun y hy => by cases hy

theorem owner_of_other {st : Process DB} (hw : Stored view w st) (hb : w.account u = some b)
    (hn : Names u sid) (hne : b.session ≠ some sid) : w.owner sid = none := by
  obtain ⟨σ, -, hs, rfl⟩ := hw
  apply Accounts.owner_eq_none
  rintro ⟨v, c⟩ hown
  obtain ⟨r, hr, hsid, heq⟩ := (owns_iff hs).mp hown
  cases heq
  have huser : r.name = u := (hs.sessions r hr sid hsid).inj hn
  subst huser
  rw [(account_eq_some hs).mpr ⟨r, hr, rfl, rfl⟩, Option.some.injEq] at hb
  subst hb
  exact hne hsid

/-- After a login no other session id of the user is worth anything for the roles of
the account, until the next login of the user. -/
theorem other_sessions_stale (post : List (Process DB × Action)) (hrel : Relational sqlite view)
    (hv : view db = σ₀.tables) (hs : Sound σ₀) (h : ServerRun sqlite db (post ++ (st₀, a) :: pre) st) {digits : String}
    (ha : arrives st₀ a = some (s, .login u p digits))
    (hstep : step sqlite st₀ a = .ok (st₁, out)) {ret : LoginReturn}
    (hmem : (s, loginPacket ret) ∈ out) (hok : ret.returntype? ≠ some .Fail)
    (hsince : ∀ y ∈ post, ∀ t req, arrives y.1 y.2 = some (t, req) → KeepsSession u p req)
    (hn : Names u sid) (hne : sid ≠ u ++ "_" ++ digits) : Stale sqlite st sid := by
  have hpre : ServerRun sqlite db pre st₀ := Run.before h
  obtain ⟨b, hb, hpass, hsess⟩ := loggedIn_account (says_of_step hrel hv hs hpre ha hstep) hmem hok
  rw [← served_arrived ha] at hb
  obtain ⟨c, hc, -, hkept⟩ := served_account post hb
  have hother : c.session ≠ some sid := by
    rw [hkept (by rw [hpass]; exact hsince), hsess, ne_eq, Option.some.injEq]
    exact Ne.symm hne
  exact stale_of_owner hrel hv hs h (owner_of_other (stored hrel hv hs h) hc hn hother)

section Roles

variable {id t : Int} {n : String} {ret : CreateRoleReturn}

theorem served_extends (w : Accounts) (post tr : List (Process DB × Action)) :
    (served cString w tr).Extends (served cString w (post ++ tr)) := by
  induction post with
  | nil => exact Accounts.Extends.refl _
  | cons y post ih => exact ih.trans (serve_extends _ y.1 y.2)

theorem account_of_owner (hw : Stored view w st) (h : w.owner sid = some (u, b)) :
    w.account u = some b ∧ Names u sid := by
  obtain ⟨hb, hsess⟩ := Accounts.owns_of_owner h
  obtain ⟨σ, -, hs, rfl⟩ := hw
  obtain ⟨r, hr, rfl, rfl⟩ := (account_eq_some hs).mp hb
  exact ⟨hb, hs.sessions r hr sid hsess⟩

theorem owner_of_account (hw : Stored view w st) (hb : w.account u = some b)
    (hsess : b.session = some sid) : w.owner sid = some (u, b) := by
  obtain ⟨σ, -, hs, rfl⟩ := hw
  obtain ⟨r, hr, rfl, rfl⟩ := (account_eq_some hs).mp hb
  exact owner_of_row hs hr hsess

theorem created_role {held : Option String}
    (htold : Says cString s (w.answer cString held (.createRole sid t n)).2 out)
    (hmem : (s, createPacket ret) ∈ out) (hok : ret.returntype? = some .CRT_Success) :
    ∃ u b c, w.owner sid = some (u, b) ∧
      (w.answer cString held (.createRole sid t n)).1.account u = some c ∧ c.role t n := by
  have hfailed : ¬ out = [(s, createPacket { returntype? := some .CRT_Fail })] := by
    rintro rfl
    rw [List.mem_singleton] at hmem
    simp only [createPacket, Prod.mk.injEq, Packet.mk.injEq, Option.some.injEq, true_and,
      and_true] at hmem
    rw [hmem] at hok
    cases hok
  rw [Accounts.answer] at htold ⊢
  split at htold
  · rename_i hheld
    rw [if_pos hheld]
    split at htold
    · exact absurd htold hfailed
    · rename_i u b howner
      split at htold
      · rename_i hfree
        refine ⟨u, b, b.addRole t n, howner, ?_, .inr ⟨rfl, rfl⟩⟩
        simp only [if_pos hfree]
        rw [Accounts.account_put, if_pos rfl]
      · exact absurd htold hfailed
  · exact absurd htold hfailed

/-- How the server answers about a role of a user: nobody gets its name and the user no
second role of its type (if the user's name has no NUL), and after a login the user is
shown it and can select it. -/
structure Plays (sqlite : Sqlite DB) (st : Process DB) (u : String) (id t : Int) (n : String) :
    Prop where
  taken : ∀ a s sid t', arrives st a = some (s, .createRole sid t' n) →
    ∃ st', step sqlite st a = .ok (st', [(s, createPacket { returntype? := some .CRT_Fail })])
  single : '\x00' ∉ u.toList → ∀ a s sid n', Names u sid → arrives st a = some (s, .createRole sid t n') →
    ∃ st', step sqlite st a = .ok (st', [(s, createPacket { returntype? := some .CRT_Fail })])
  playable : ∀ a s p digits st' out ret, arrives st a = some (s, .login u p digits) →
    step sqlite st a = .ok (st', out) → (s, loginPacket ret) ∈ out →
    ret.returntype? ≠ some .Fail → (roleEntry t (cString n)).set_roleid (inInt id) ∈ ret.playerinfo ∧
      ∀ b, arrives st' b = some (s, .selectRole (u ++ "_" ++ digits) t) →
        ∃ st'', step sqlite st' b = .ok (st'', [(s, selectPacket { userid? := some id })])

theorem notCreated_of {held : Option String} (hw : Stored view w st)
    (hb : w.account u = some b) (hrole : b.role t n) {t' : Int} {n' : String}
    (htold : Says cString s (w.answer cString held (.createRole sid t' n')).2 out)
    (hclash : n' = n ∨ '\x00' ∉ u.toList ∧ Names u sid ∧ t' = t) :
    out = [(s, createPacket { returntype? := some .CRT_Fail })] := by
  rw [Accounts.answer] at htold
  split at htold
  · split at htold
    · exact htold
    · rename_i v c howner
      split at htold
      · rename_i hfree
        obtain ⟨-, hnone, hunused⟩ := hfree
        obtain rfl | ⟨hnul, hu, rfl⟩ := hclash
        · exact absurd hrole (hunused u b t hb)
        · obtain ⟨-, hv⟩ := account_of_owner hw howner
          rw [← hu.inj hv, cString_eq_iff.mpr hnul] at hnone
          exact absurd ⟨b, hb, n, hrole⟩ hnone
      · exact htold
  · exact htold

theorem plays_of_account (hrel : Relational sqlite view) (hv : view db = σ₀.tables) (hs : Sound σ₀)
    (h : ServerRun sqlite db tr st) (hb : (served cString (accounts σ₀) tr).account u = some b)
    (hrole : b.role t n) : Plays sqlite st u b.id t n where
  taken := by
    intro a s sid t' ha
    obtain ⟨st', out, hstep, htold⟩ := step_says hrel hv hs h ha
    rw [notCreated_of (stored hrel hv hs h) hb hrole htold (.inl rfl)] at hstep
    exact ⟨st', hstep⟩
  single := by
    intro hnul a s sid n' hu ha
    obtain ⟨st', out, hstep, htold⟩ := step_says hrel hv hs h ha
    rw [notCreated_of (stored hrel hv hs h) hb hrole htold (.inr ⟨hnul, hu, rfl⟩)] at hstep
    exact ⟨st', hstep⟩
  playable := by
    intro a s p digits st' out ret ha hstep hmem hok
    obtain ⟨st₁, out₁, hstep₁, htold, hheld⟩ :=
      step_answers hrel (stored hrel hv hs h) (registered h) ha
    rw [hstep] at hstep₁
    cases hstep₁
    obtain ⟨c, hc, -, heq⟩ := login_answer htold hmem hok
    rw [hb, Option.some.injEq] at hc
    subst hc
    have hrun : ServerRun sqlite db ((st, a) :: tr) st' := Run.cons h ⟨out, hstep⟩
    have hserved : served cString (accounts σ₀) ((st, a) :: tr) = _ := served_arrived ha
    rw [heq] at htold hheld hserved
    constructor
    · obtain ⟨returntype, l, rfl, -, roles, -, hroles, rfl⟩ := htold
      rw [List.mem_singleton] at hmem
      simp only [loginPacket, Prod.mk.injEq, Packet.mk.injEq, Option.some.injEq, true_and,
        and_true] at hmem
      rw [hmem]
      exact List.mem_map.mpr ⟨(t, n), (hroles t n).mpr hrole, rfl⟩
    · intro a' ha'
      obtain ⟨st'', out', hstep', htold'⟩ := step_says hrel hv hs hrun ha'
      have hacc : (served cString (accounts σ₀) ((st, a) :: tr)).account u =
          some { b with session := some (u ++ "_" ++ digits) } := by
        rw [hserved]
        dsimp only
        rw [Accounts.account_put, if_pos rfl]
      have howner := owner_of_account (stored hrel hv hs hrun) hacc rfl
      have hsid : sessions st'.cache s = some (u ++ "_" ++ digits) := by
        rw [hheld, holds, Function.update_self]
      rw [Accounts.answer, if_pos hsid, howner] at htold'
      dsimp only at htold'
      rw [if_pos ⟨n, hrole⟩] at htold'
      have hout : out' = [(s, selectPacket { userid? := some b.id })] := htold'
      rw [hout] at hstep'
      exact ⟨st'', hstep'⟩

end Roles

section Example

def answered7 (st : Process Tables) (a : Action) (P : Packet → Bool) : Bool :=
  readable 7 st && (st.cache.GetEntity 7).isSome &&
    (step reference st a).toOption.any fun x => x.2.any fun y => decide (y.1 = 7) && P y.2

theorem answered7_spec {st : Process Tables} {a : Action} {P : Packet → Bool}
    (h : answered7 st a P = true) : (readable 7 st && (st.cache.GetEntity 7).isSome) = true ∧
      ∃ st₁ out, step reference st a = .ok (st₁, out) ∧ ∃ y ∈ out, y.1 = 7 ∧ P y.2 = true := by
  obtain ⟨hread, hstep⟩ := Bool.and_eq_true_iff.mp h
  refine ⟨hread, ?_⟩
  obtain ⟨x, hx, hany⟩ := of_any_ok hstep
  obtain ⟨y, hy, htest⟩ := List.any_eq_true.mp hany
  obtain ⟨h7, hP⟩ := Bool.and_eq_true_iff.mp htest
  exact ⟨x.1, x.2, hx, y, hy, of_decide_eq_true h7, hP⟩

theorem ann_is_known : ∃ tr st st₁, ServerRun reference noTablesYet tr st ∧
    actions tr = [.accept 7 0] ∧ Steps reference st (register 7 "ann" "pw") st₁ ∧
    Known reference st₁ "ann" "pw" := by
  obtain ⟨tr, st, hrun, hact, htest⟩ := exists_run reference noTablesYet [.accept 7 0]
    (fun _ st => answered7 st (register 7 "ann" "pw") fun p => p = registerPacket .RT_Success)
    (by decide +kernel)
  obtain ⟨hread, st₁, out, hstep, ⟨t, p⟩, hy, rfl, hp⟩ := answered7_spec htest
  have hp : p = registerPacket .RT_Success := of_decide_eq_true hp
  subst hp
  have ha : arrives st (register 7 "ann" "pw") = some (7, .register "ann" "pw") := by
    rw [register, arrives, if_pos hread]
    rfl
  refine ⟨tr, st, st₁, hrun, hact, ⟨out, hstep⟩, ?_⟩
  exact registration_lasts [] relational_reference noTablesYet_eq sound_empty
    (Run.cons hrun ⟨out, hstep⟩) ha hstep hy

/-- Another session id of Ann is refused after her login. -/
theorem ann_has_one_session : ∃ tr st st₁, ServerRun reference noTablesYet tr st ∧
    actions tr = [.accept 7 0, register 7 "ann" "pw"] ∧
    Steps reference st (login 7 "ann" "pw") st₁ ∧ Stale reference st₁ "ann_222222" := by
  obtain ⟨tr, st, hrun, hact, htest⟩ := exists_run reference noTablesYet
    [.accept 7 0, register 7 "ann" "pw"]
    (fun _ st => answered7 st (login 7 "ann" "pw") fun p =>
      p.loginreturn?.any fun ret => decide (p = loginPacket ret ∧ ret.returntype? ≠ some .Fail))
    (by decide +kernel)
  obtain ⟨hread, st₁, out, hstep, ⟨t, p⟩, hy, rfl, hp⟩ := answered7_spec htest
  obtain ⟨ret, -, hret⟩ := (Option.any_eq_true _ _).mp hp
  obtain ⟨rfl, hok⟩ := of_decide_eq_true hret
  have ha : arrives st (login 7 "ann" "pw") = some (7, .login "ann" "pw" "111111") := by
    rw [login, arrives, if_pos hread]
    rfl
  refine ⟨tr, st, st₁, hrun, hact, ⟨out, hstep⟩, ?_⟩
  have hnames : Names "ann" "ann_222222" := ⟨"222222", rfl, by simp⟩
  exact other_sessions_stale [] relational_reference noTablesYet_eq sound_empty
    (Run.cons hrun ⟨out, hstep⟩) ha hstep hy hok (fun y hy => by cases hy) hnames (by decide)

end Example

end JiraGame.AccountLife
