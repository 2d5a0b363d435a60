import JiraGame.AccountStatements
import JiraGame.DatabaseFrame
import JiraGame.Lib.Keyed
import JiraGame.Runs

namespace JiraGame.StatementTexts

open JiraGame.Scene JiraGame.Command JiraGame.Utilitys JiraGame.DBServer JiraGame.Cache
open JiraGame.HallScene JiraGame.AccountScenes JiraGame.AccountStatements JiraGame.ServerState
open JiraGame.Server JiraGame.KeepAlive JiraGame.DatabaseFrame JiraGame.Runs
open JiraGame.Lib.SqlLexer JiraGame.Lib.SqlQuoting JiraGame.Lib.Keyed JiraGame.Lib.Fails

def strings (q : Sql) : List String :=
  q.filterMap fun p =>
    match p with
    | .raw _ => none
    | .quoted value => some value

/-- The tokens of the text are those of the statement with each quoted string as
the content of one literal. -/
def AsMeant (q : Sql) : Prop := lex .blank ((text q).map .char) = lex .blank (meant (pieces q))

instance (q : Sql) : Decidable (AsMeant q) :=
  inferInstanceAs (Decidable (lex .blank ((text q).map .char) = lex .blank (meant (pieces q))))

/-- SQLite with a list of the statements that it was given. -/
def recording {DB : Type} (sqlite : Sqlite DB) : Sqlite (DB × List Sql) where
  exec := fun x q => (((sqlite.exec x.1 q).1, x.2 ++ [q]), (sqlite.exec x.1 q).2)

section Issued

variable {DB : Type} {sqlite : Sqlite DB} {s : SOCKET} {c c' : CCache} {x y z : DB × List Sql}
  {out : Outbox}

/-- Only statements of the account scenes were issued on the way from `x` to `y`. -/
def Issued (x y : DB × List Sql) : Prop := ∃ qs : List Query, y.2 = x.2 ++ qs.map Query.sql

theorem Issued.refl (x : DB × List Sql) : Issued x x := ⟨[], (List.append_nil _).symm⟩

theorem Issued.exec (h : Issued x y) (q : Query) :
    Issued x ((recording sqlite).exec y q.sql).1 := by
  obtain ⟨qs, hqs⟩ := h
  refine ⟨qs ++ [q], ?_⟩
  have hlog : ((recording sqlite).exec y q.sql).1.2 = y.2 ++ [q.sql] := rfl
  rw [hlog, hqs, List.map_append, List.append_assoc]
  rfl

theorem LoginLogic_issued {req : LoginRequest} {rand : List Nat}
    (h : LoginLogic (recording sqlite) s req rand x c = .ok (y, c', out)) : Issued x y := by
  rw [LoginLogic_eq] at h
  dsimp only at h
  split at h
  · cases h
    exact (Issued.refl x).exec _
  · split at h
    · cases h
    · cases h
      exact (((Issued.refl x).exec _).exec _).exec _

theorem RegisterLogic_issued {req : RegisterRequest}
    (h : RegisterLogic (recording sqlite) s req x c = .ok (y, c', out)) : Issued x y := by
  rw [RegisterLogic_eq] at h
  dsimp only at h
  split at h
  · cases h
    exact ((((Issued.refl x).exec _).exec _).exec _).exec _
  · cases h
    exact (((Issued.refl x).exec _).exec _).exec _

theorem CreateLogic_issued {req : CreateRoleRequest}
    (h : CreateLogic (recording sqlite) s req x c = .ok (y, c', out)) : Issued x y := by
  rw [CreateLogic_eq] at h
  dsimp only at h
  split at h
  · split at h
    · cases h
      exact ((Issued.refl x).exec _).exec _
    · split at h
      · cases h
        exact ((Issued.refl x).exec _).exec _
      · split at h
        · cases h
        · split at h
          · cases h
            exact (((Issued.refl x).exec _).exec _).exec _
          · split at h
            · cases h
              exact (((((Issued.refl x).exec _).exec _).exec _).exec _).exec _
            · cases h
              exact ((((Issued.refl x).exec _).exec _).exec _).exec _
  · cases h
    exact Issued.refl x

theorem SelectLogic_issued {req : SelectRoleRequest}
    (h : SelectLogic (recording sqlite) s req x c = .ok (y, c', out)) : Issued x y := by
  rw [SelectLogic_eq] at h
  dsimp only at h
  split at h
  · split at h
    · cases h
      exact (Issued.refl x).exec _
    · split at h
      · cases h
      · cases h
        exact (Issued.refl x).exec _
  · cases h
    exact Issued.refl x

end Issued

section Statements

variable {DB : Type} {sqlite : Sqlite DB} {s : SOCKET} {m : UnPacket} {rand : List Nat}
  {st st' : Process (DB × List Sql)} {out : Outbox}

theorem ProcessMsgLogic_issued
    (h : ProcessMsgLogic (recording sqlite) s m rand st = .ok (st', out)) :
    Issued st.db st'.db := by
  rw [ProcessMsgLogic] at h
  split at h
  · rw [Start_db h]
    exact Issued.refl _
  · obtain ⟨x, hx, h⟩ := of_bind_ok h
    cases h
    exact LoginLogic_issued hx
  · obtain ⟨x, hx, h⟩ := of_bind_ok h
    cases h
    exact CreateLogic_issued hx
  · split at h
    · cases h
      exact Issued.refl _
    · obtain ⟨x, hx, h⟩ := of_bind_ok h
      cases h
      exact RegisterLogic_issued hx
  · obtain ⟨x, hx, h⟩ := of_bind_ok h
    cases h
    exact SelectLogic_issued hx
  · obtain ⟨x, hx, h⟩ := of_bind_ok h
    cases h
    exact Issued.refl _
  · obtain ⟨x, hx, h⟩ := of_bind_ok h
    cases h
    exact Issued.refl _
  · cases h
    exact Issued.refl _

theorem values_pieces (q : Sql) : values (pieces q) = (strings q).map String.toList := by
  induction q with
  | nil => rfl
  | cons p q ih =>
    cases p with
    | raw text => exact ih
    | quoted value => exact congrArg (value.toList :: ·) ih

theorem asMeant_iff (q : Query) : AsMeant q.sql ↔ ∀ x ∈ strings q.sql, Clean x.toList := by
  rw [AsMeant, text, lex_written_iff (framed_sql q), values_pieces, List.forall_mem_map]

end Statements

section Login

def word (text : String) : Token := .word text.toList

def operator (c : Char) : Token := .operator [c]

/-- `select * from userInfo where name = u and password = p`. -/
def loginTokens (u p : String) : List Token :=
  [word "select", operator '*', word "from", word "userInfo", word "where",
    word "name", operator '=', .string u.toList, word "and",
    word "password", operator '=', .string p.toList, operator ';']

theorem meant_account (u p : String) :
    lex .blank (meant (pieces (Query.account u p).sql)) = loginTokens u p := by
  rw [lex_meant (framed_sql _)]
  rfl

/-- The text of the statement that looks an account up fits one pair of user
name and password, and its condition compares both with literals. -/
def FindsAccount (u p : String) : Prop :=
  lex .blank ((text (Query.account u p).sql).map .char) = loginTokens u p ∧
    ∀ u' p', text (Query.account u' p').sql = text (Query.account u p).sql → u' = u ∧ p' = p

theorem text_account (u p : String) : text (Query.account u p).sql =
    "select * from userInfo where name='".toList ++
      (u.toList ++ '\'' :: (" and password=".toList ++ '\'' :: (p.toList ++ "';".toList))) := by
  simp [text, pieces, Query.sql, SelectWhere, joinPairs, raw, quoted, written]

theorem account_text_inj {u p u' p' : String} (hu : '\'' ∉ u.toList) (hp : '\'' ∉ p.toList)
    (h : text (Query.account u' p').sql = text (Query.account u p).sql) : u' = u ∧ p' = p := by
  rw [text_account, text_account, List.append_cancel_left_eq] at h
  have hcount := congrArg (List.count '\'') h
  simp only [List.count_append, List.count_cons_self, List.count_eq_zero.mpr hu,
    List.count_eq_zero.mpr hp] at hcount
  have hu' : '\'' ∉ u'.toList := List.count_eq_zero.mp (by omega)
  have hp' : '\'' ∉ p'.toList := List.count_eq_zero.mp (by omega)
  obtain ⟨hname, h⟩ := separator_inj hu' hu h
  rw [List.append_cancel_left_eq, List.cons.injEq, List.append_cancel_right_eq] at h
  exact ⟨String.toList_inj.mp hname, String.toList_inj.mp h.2⟩

theorem findsAccount_iff (u p : String) :
    FindsAccount u p ↔ Clean u.toList ∧ Clean p.toList := by
  have htext := asMeant_iff (.account u p)
  have hstrings : strings (Query.account u p).sql = [u, p] := rfl
  rw [AsMeant, meant_account, hstrings, List.forall_mem_cons, List.forall_mem_singleton] at htext
  refine ⟨fun h => htext.mp h.1, fun h => ⟨htext.mpr h, fun u' p' he => ?_⟩⟩
  exact account_text_inj h.1.1 h.2.1 he

theorem LoginLogic_issues_account {DB : Type} {sqlite : Sqlite DB} {s : SOCKET}
    {req : LoginRequest} {rand : List Nat} {c c' : CCache} {x y : DB × List Sql} {out : Outbox}
    (h : LoginLogic (recording sqlite) s req rand x c = .ok (y, c', out)) :
    (Query.account req.username req.password).sql ∈ y.2 := by
  rw [LoginLogic_eq] at h
  dsimp only at h
  split at h
  · cases h
    exact List.mem_append_right _ List.mem_cons_self
  · split at h
    · cases h
    · cases h
      refine List.mem_append_left _ (List.mem_append_left _ ?_)
      exact List.mem_append_right _ List.mem_cons_self

end Login

section Messages

variable {DB : Type} {sqlite : Sqlite DB} {s : SOCKET} {m : UnPacket} {rand : List Nat}
  {st st' : Process (DB × List Sql)} {out : Outbox}

/-- A statement is read as meant exactly when the strings in it contain neither
a quote nor NUL; the lookup of an account then finds that account only. -/
theorem statements_as_meant_iff
    (h : ProcessMsgLogic (recording sqlite) s m rand st = .ok (st', out)) (hlog : st.db.2 = []) :
    (∀ q ∈ st'.db.2, AsMeant q ↔ ∀ x ∈ strings q, Clean x.toList) ∧
      (m.curscene = .CS_Login →
        (Query.account m.loginrequest.username m.loginrequest.password).sql ∈ st'.db.2 ∧
          (FindsAccount m.loginrequest.username m.loginrequest.password ↔
            Clean m.loginrequest.username.toList ∧ Clean m.loginrequest.password.toList)) := by
  refine ⟨?_, ?_⟩
  · obtain ⟨qs, hqs⟩ := ProcessMsgLogic_issued h
    rw [hlog, List.nil_append] at hqs
    rw [hqs]
    intro q hq
    obtain ⟨q, -, rfl⟩ := List.mem_map.mp hq
    exact asMeant_iff q
  · intro hm
    refine ⟨?_, findsAccount_iff _ _⟩
    simp only [ProcessMsgLogic, hm] at h
    obtain ⟨x, hx, h⟩ := of_bind_ok h
    cases h
    exact LoginLogic_issues_account hx

end Messages

def loginMessage (username password : String) : UnPacket :=
  { curscene? := some .CS_Login
    loginrequest? := some { username? := some username, password? := some password } }

def lookedUp (username password : String) : Process (Unit × List Sql) :=
  start ((), [(Query.account username password).sql])

theorem lookedUp_spec (s : SOCKET) (u p : String) (rand : List Nat) :
    ProcessMsgLogic (recording noTables) s (loginMessage u p) rand (start ((), [])) =
      .ok (lookedUp u p, [(s, loginPacket { returntype? := some .Fail })]) := rfl

theorem login_as_meant :
    (∃ out, ProcessMsgLogic (recording noTables) 7 (loginMessage "ann" "pw") [] (start ((), [])) =
      .ok (lookedUp "ann" "pw", out)) ∧
    AsMeant (Query.account "ann" "pw").sql ∧ FindsAccount "ann" "pw" := by
  obtain ⟨hall, hlogin⟩ := statements_as_meant_iff (lookedUp_spec 7 "ann" "pw" []) rfl
  obtain ⟨hissued, hfinds⟩ := hlogin rfl
  exact ⟨⟨_, lookedUp_spec 7 "ann" "pw" []⟩,
    (hall _ hissued).mpr (by decide +kernel), hfinds.mpr (by decide +kernel)⟩

/-- A password with quotes makes the condition true for every row, and a pair of
user name and password with quotes shares its text with another one. -/
theorem password_ends_literal :
    (∃ out, ProcessMsgLogic (recording noTables) 7 (loginMessage "ann" "' or ''='") []
      (start ((), [])) = .ok (lookedUp "ann" "' or ''='", out)) ∧
    ¬ AsMeant (Query.account "ann" "' or ''='").sql ∧
    lex .blank ((text (Query.account "ann" "' or ''='").sql).map .char) =
      (loginTokens "ann" "").dropLast ++
        [word "or", .string [], operator '=', .string [], operator ';'] ∧
    text (Query.account "ann" "a' and password='b").sql =
      text (Query.account "ann' and password='a" "b").sql :=
  ⟨⟨_, lookedUp_spec 7 "ann" "' or ''='" []⟩, by decide +kernel, by decide +kernel,
    by decide +kernel⟩

end JiraGame.StatementTexts
