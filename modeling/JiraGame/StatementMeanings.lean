import JiraGame.AccountStatements
import JiraGame.Lib.SqlMeaning

namespace JiraGame.StatementMeanings

open JiraGame.Utilitys JiraGame.DBServer JiraGame.AccountScenes JiraGame.AccountStatements
open JiraGame.Lib.SqlLexer JiraGame.Lib.SqlQuoting JiraGame.Lib.SqlSyntax JiraGame.Lib.SqlMeaning

def userInfo : Name := "userinfo".toList

def playerInfo : Name := "playerinfo".toList

def column (name : String) : Ref := { table? := none, column := name.toList }

def of (table : Name) (name : String) : Ref := { table? := some table, column := name.toList }

def equals (r : Ref) (l : Literal) : Equation := { left := r, right := .literal l }

def quote (x : String) : Literal := .text x.toList

/-- `left join playerInfo on userInfo.PlayerInfoID=playerInfo.roleID`. -/
def withRoles : Join :=
  { table := playerInfo
    condition := { left := of userInfo "playerinfoid", right := .ref (of playerInfo "roleid") } }

def fromRoles : Join :=
  { table := playerInfo
    condition := { left := of playerInfo "roleid", right := .ref (of userInfo "playerinfoid") } }

def userColumns : List Column :=
  [{ name := "userid".toList, affinity := .integer, autoincrement := true },
    { name := "playerinfoid".toList, affinity := .integer },
    { name := "session_id".toList, affinity := .text },
    { name := "name".toList, affinity := .text, unique := true },
    { name := "password".toList, affinity := .text }]

def playerColumns : List Column :=
  [{ name := "roleid".toList, affinity := .integer },
    { name := "roletype".toList, affinity := .integer },
    { name := "team".toList, affinity := .integer },
    { name := "name".toList, affinity := .text, unique := true },
    { name := "level".toList, affinity := .integer },
    { name := "hp".toList, affinity := .real },
    { name := "mp".toList, affinity := .real },
    { name := "attack".toList, affinity := .real },
    { name := "movespeed".toList, affinity := .real }]

def statement : Query → Statement
  | .account u p =>
      .select none userInfo none [equals (column "name") (quote u), equals (column "password") (quote p)]
  | .setSession u sid =>
      .update userInfo (equals (column "session_id") (quote sid)) [equals (column "name") (quote u)]
  | .loginRoles u =>
      .select (some [column "roletype", of playerInfo "name", column "userid"]) userInfo (some withRoles)
        [equals (of userInfo "name") (quote u),
          { left := column "roleid", right := .ref (column "playerinfoid") }]
  | .createUsers => .createTable userInfo userColumns
  | .username u => .select none userInfo none [equals (column "name") (quote u)]
  | .insertUser u p => .insert userInfo ["name".toList, "password".toList] [quote u, quote p]
  | .link u =>
      .update userInfo { left := column "playerinfoid", right := .ref (column "userid") }
        [equals (column "name") (quote u)]
  | .createPlayers => .createTable playerInfo playerColumns
  | .session sid =>
      .select (some [column "playerinfoid", column "name"]) userInfo none
        [equals (column "session_id") (quote sid)]
  | .owned t u =>
      .select (some [column "playerinfoid"]) userInfo (some withRoles)
        [equals (of playerInfo "roletype") (integerLiteral t), equals (of userInfo "name") (quote u)]
  | .insertRole id t n =>
      .insert playerInfo ["roleid".toList, "roletype".toList, "name".toList] [integerLiteral id, integerLiteral t, quote n]
  | .roles u =>
      .select (some [column "roletype", of playerInfo "name"]) userInfo (some fromRoles)
        [equals (of userInfo "name") (quote u)]
  | .role sid t =>
      .select (some [column "userid", of playerInfo "name"]) userInfo (some withRoles)
        [equals (column "session_id") (quote sid), equals (of playerInfo "roletype") (quote (int2String t))]

theorem tokens_decimal {σ : State} {c : Char} {cs : List Char} {ps : List Piece} (n : Int)
    (hσ : σ = .blank ∨ σ = .pending '=') (hc : c = ' ' ∨ c = ',') :
    tokens σ (.text (int2String n).toList :: .text (c :: cs) :: ps) =
      flush σ ++ (decimal n ++ tokens .blank (.text (c :: cs) :: ps)) := by
  obtain ⟨acc, hacc, hdecimal⟩ := run_decimal hσ n
  rw [tokens, tokens, int2String, hacc, run_number_break hc, List.cons_append, ← List.append_assoc,
    ← hdecimal, List.append_assoc]
  rfl

section Long

set_option maxRecDepth 8000

theorem parse_loginRoles (u : String) :
    parse (tokens .blank (pieces (Query.loginRoles u).sql)) = some (statement (.loginRoles u)) := by
  have htext : pieces (Query.loginRoles u).sql = [.text (String.ofList _).toList, .value u.toList,
      .text (String.ofList _).toList] := rfl
  rw [htext, text_literal, text_literal]
  rfl

theorem parse_owned (t : Int) (u : String) :
    parse (tokens .blank (pieces (Query.owned t u).sql)) = some (statement (.owned t u)) := by
  have htext : pieces (Query.owned t u).sql = [.text (String.ofList _).toList,
      .text (int2String t).toList, .text (' ' :: "and userInfo.name=".toList), .value u.toList,
      .text ";".toList] := rfl
  rw [htext, text_literal, tokens, tokens_decimal t (by decide +kernel) (.inl rfl)]
  cases t <;> rfl

theorem parse_roles (u : String) :
    parse (tokens .blank (pieces (Query.roles u).sql)) = some (statement (.roles u)) := by
  have htext : pieces (Query.roles u).sql = [.text (String.ofList _).toList, .value u.toList,
      .text (String.ofList _).toList] := rfl
  rw [htext, text_literal, text_literal]
  rfl

theorem parse_role (sid : String) (t : Int) :
    parse (tokens .blank (pieces (Query.role sid t).sql)) = some (statement (.role sid t)) := by
  have htext : pieces (Query.role sid t).sql = [.text (String.ofList _).toList, .value sid.toList,
      .text (String.ofList _).toList, .value (int2String t).toList, .text (String.ofList _).toList] :=
    rfl
  rw [htext, text_literal, text_literal, text_literal]
  rfl

end Long

theorem parse_insertRole (id t : Int) (n : String) :
    parse (tokens .blank (pieces (Query.insertRole id t n).sql)) =
      some (statement (.insertRole id t n)) := by
  have htokens : tokens .blank (pieces (Query.insertRole id t n).sql) = tokens .blank
      (.text _ :: .text _ :: .text _ :: .text _ :: .text _ :: .text _ :: .text _ ::
        .text (int2String id).toList :: .text [','] :: .text (int2String t).toList :: .text [','] ::
        [.value n.toList, .text ");".toList]) := rfl
  rw [htokens, tokens, tokens, tokens, tokens, tokens, tokens, tokens,
    tokens_decimal id (by decide +kernel) (.inr rfl), tokens, tokens_decimal t (by decide) (.inr rfl)]
  cases id <;> cases t <;> rfl

/-- The text of a statement, with each quoted string as the content of one
literal, is read as its statement. -/
theorem parse_sql (q : Query) : parse (lex .blank (meant (pieces q.sql))) = some (statement q) := by
  rw [lex_meant (framed_sql q)]
  cases q with
  | setSession u sid =>
    rw [setSession_sql]
    rfl
  | loginRoles u => exact parse_loginRoles u
  | createUsers => decide +kernel
  | createPlayers => decide +kernel
  | owned t u => exact parse_owned t u
  | insertRole id t n => exact parse_insertRole id t n
  | roles u => exact parse_roles u
  | role sid t => exact parse_role sid t
  | _ => rfl

end JiraGame.StatementMeanings
