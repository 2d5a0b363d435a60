import Mathlib.Data.List.Basic
import Mathlib.Data.List.Infix
import Mathlib.Data.List.TakeWhile

namespace JiraGame.Lib.SqlLexer

/-- The tokens of SQL text. Blanks and comments leave none. -/
inductive Token
  | word (text : List Char)
  | number (text : List Char)
  | string (value : List Char)
  | blob (text : List Char)
  | name (text : List Char)
  | variable (text : List Char)
  | operator (text : List Char)
  | illegal (text : List Char)
deriving DecidableEq

/-- What the lexer reads: a character, or a whole string literal that is given
by its value. -/
inductive Symbol
  | char (c : Char)
  | literal (value : List Char)
deriving DecidableEq

/-- What has been read of the current token, latest character first. -/
inductive State
  | blank
  | word (acc : List Char)
  | number (acc : List Char)
  | exponent (acc : List Char) (sign : Char)
  | pending (c : Char)
  | lineComment
  | commentStart
  | comment (star : Bool)
  | string (acc : List Char)
  | closing (acc : List Char)
  | name (delim : Char) (acc : List Char)
  | nameClosing (delim : Char) (acc : List Char)
  | bracket (acc : List Char)
  | blob (acc : List Char)
  | variable (acc : List Char)
deriving DecidableEq

def isSpace (c : Char) : Bool := c = ' ' || c = '\t' || c = '\n' || c = '\x0c' || c = '\r'

def isIdChar (c : Char) : Bool := c.isAlphanum || c = '_' || c = '$' || 128 ≤ c.toNat

def isHex (c : Char) : Bool := c.isDigit || ('a' ≤ c && c ≤ 'f') || ('A' ≤ c && c ≤ 'F')

def isExponent : List Char → Bool
  | [] => true
  | e :: '+' :: d :: ds => (e = 'e' || e = 'E') && (d :: ds).all Char.isDigit
  | e :: '-' :: d :: ds => (e = 'e' || e = 'E') && (d :: ds).all Char.isDigit
  | e :: d :: ds => (e = 'e' || e = 'E') && (d :: ds).all Char.isDigit
  | _ => false

/-- Digits, with a fraction and an exponent, or hexadecimal. -/
def isNumeral (text : List Char) : Bool :=
  match text with
  | '0' :: 'x' :: h :: hs | '0' :: 'X' :: h :: hs => (h :: hs).all isHex
  | _ =>
    match text.dropWhile Char.isDigit with
    | '.' :: rest => isExponent (rest.dropWhile Char.isDigit)
    | rest => isExponent rest

def numeral (acc : List Char) : Token :=
  if isNumeral acc.reverse then .number acc.reverse else .illegal acc.reverse

/-- A number ends in `e`, so that a sign may belong to it. -/
def opensExponent : List Char → Bool
  | e :: acc => (e = 'e' || e = 'E') && acc.all (fun c => c.isDigit || c = '.')
  | [] => false

/-- The token of what has been read, when the input ends or the next character
does not belong to it. -/
def flush : State → List Token
  | .blank | .lineComment | .comment _ => []
  | .word acc => [.word acc.reverse]
  | .number acc => [numeral acc]
  | .exponent acc sign => [numeral acc, .operator [sign]]
  | .pending '!' => [.illegal ['!']]
  | .pending c => [.operator [c]]
  | .commentStart => [.operator ['/'], .operator ['*']]
  | .string acc => [.illegal ('\'' :: acc.reverse)]
  | .closing acc => [.string acc.reverse]
  | .name delim acc => [.illegal (delim :: acc.reverse)]
  | .nameClosing _ acc => [.name acc.reverse]
  | .bracket acc => [.illegal ('[' :: acc.reverse)]
  | .blob acc => [.illegal ('x' :: '\'' :: acc.reverse)]
  | .variable [c] => [if c = '?' then .variable [c] else .illegal [c]]
  | .variable acc => [.variable acc.reverse]

def first (c : Char) : List Token × State :=
  if isSpace c then ([], .blank)
  else if c = '\'' then ([], .string [])
  else if c.isDigit then ([], .number [c])
  else if c = '$' || c = '?' || c = '@' || c = '#' || c = ':' then ([], .variable [c])
  else if isIdChar c then ([], .word [c])
  else if c = '=' || c = '<' || c = '>' || c = '!' || c = '|' || c = '-' || c = '/' || c = '.' then
    ([], .pending c)
  else if c = '\x22' || c = '\x60' then ([], .name c [])
  else if c = '[' then ([], .bracket [])
  else if c = '(' || c = ')' || c = ';' || c = '+' || c = '*' || c = '%' || c = ',' || c = '&' ||
      c = '~' then ([.operator [c]], .blank)
  else ([.illegal [c]], .blank)

def next (σ : State) (c : Char) : List Token × State := (flush σ ++ (first c).1, (first c).2)

def pairs : List (List Char) :=
  [['=', '='], ['<', '='], ['<', '>'], ['<', '<'], ['>', '='], ['>', '>'], ['!', '='], ['|', '|']]

def afterPending (p c : Char) : List Token × State :=
  if [p, c] ∈ pairs then ([.operator [p, c]], .blank)
  else if p = '-' && c = '-' then ([], .lineComment)
  else if p = '/' && c = '*' then ([], .commentStart)
  else if p = '.' && c.isDigit then ([], .number [c, '.'])
  else next (.pending p) c

def step (σ : State) (c : Char) : List Token × State :=
  match σ with
  | .blank => first c
  | .word acc =>
    if isIdChar c then ([], .word (c :: acc))
    else if c = '\'' && (acc = ['x'] || acc = ['X']) then ([], .blob [])
    else next σ c
  | .number acc =>
    if isIdChar c || (c = '.' && acc.all Char.isDigit) then ([], .number (c :: acc))
    else if (c = '+' || c = '-') && opensExponent acc then ([], .exponent acc c)
    else next σ c
  | .exponent acc sign =>
    if c.isDigit then ([], .number (c :: sign :: acc))
    else if sign = '-' && c = '-' then ([numeral acc], .lineComment)
    else next σ c
  | .pending p => afterPending p c
  | .lineComment => ([], if c = '\n' then .blank else .lineComment)
  | .commentStart => ([], .comment (c = '*'))
  | .comment star => ([], if star && c = '/' then .blank else .comment (c = '*'))
  | .string acc => ([], if c = '\'' then .closing acc else .string (c :: acc))
  | .closing acc => if c = '\'' then ([], .string ('\'' :: acc)) else next σ c
  | .name delim acc => ([], if c = delim then .nameClosing delim acc else .name delim (c :: acc))
  | .nameClosing delim acc => if c = delim then ([], .name delim (delim :: acc)) else next σ c
  | .bracket acc => if c = ']' then ([.name acc.reverse], .blank) else ([], .bracket (c :: acc))
  | .blob acc =>
    if c = '\'' then
      ([if acc.all isHex && acc.length % 2 = 0 then .blob acc.reverse else .illegal acc.reverse],
        .blank)
    else ([], .blob (c :: acc))
  | .variable acc =>
    if isIdChar c && (acc.getLast? ≠ some '?' || c.isDigit) then ([], .variable (c :: acc))
    else next σ c

def run (σ : State) : List Char → List Token × State
  | [] => ([], σ)
  | c :: cs => ((step σ c).1 ++ (run (step σ c).2 cs).1, (run (step σ c).2 cs).2)

/-- The tokens of the input; the character NUL ends it. -/
def lex (σ : State) : List Symbol → List Token
  | [] => flush σ
  | .char c :: ss => if c = '\x00' then flush σ else (step σ c).1 ++ lex (step σ c).2 ss
  | .literal v :: ss => flush σ ++ lex (.closing v.reverse) ss

section Numbers

variable {σ : State} {acc cs : List Char}

theorem isIdChar_of_isDigit {c : Char} (h : c.isDigit = true) : isIdChar c = true := by
  simp [isIdChar, Char.isAlphanum, h]

theorem first_digit {c : Char} (h : c.isDigit = true) : first c = ([], .number [c]) := by
  have hspace : isSpace c = false := by
    simp only [isSpace, Bool.or_eq_false_iff, decide_eq_false_iff_not]
    refine ⟨⟨⟨⟨?_, ?_⟩, ?_⟩, ?_⟩, ?_⟩ <;> rintro rfl <;> revert h <;> decide
  have hquote : c ≠ '\'' := by
    rintro rfl
    revert h
    decide
  rw [first, hspace, if_neg Bool.false_ne_true, if_neg hquote, if_pos h]

theorem run_digits (h : ∀ c ∈ cs, c.isDigit = true) :
    run (.number acc) cs = ([], .number (cs.reverse ++ acc)) := by
  induction cs generalizing acc with
  | nil => rfl
  | cons c cs ih =>
    rw [List.forall_mem_cons] at h
    have hstep : step (.number acc) c = ([], .number (c :: acc)) := by
      simp [step, isIdChar_of_isDigit h.1]
    rw [run, hstep, ih h.2, List.nil_append, List.reverse_cons, List.append_assoc]
    rfl

/-- Nothing, or a single operator, has been read. -/
def Opens (σ : State) : Prop := σ = .blank ∨ σ = .pending '=' ∨ σ = .pending '-'

theorem step_digit {c : Char} (hσ : Opens σ) (h : c.isDigit = true) :
    step σ c = (flush σ, .number [c]) := by
  have hne : ∀ d : Char, d.isDigit = false → c ≠ d := by
    rintro d hd rfl
    rw [hd] at h
    cases h
  have heq := hne '=' rfl
  have hgt := hne '>' rfl
  have hlt := hne '<' rfl
  have hbar := hne '|' rfl
  have hminus := hne '-' rfl
  obtain rfl | rfl | rfl := hσ
  · exact first_digit h
  · simp [step, afterPending, pairs, next, first_digit h, heq, flush]
  · simp [step, afterPending, pairs, next, first_digit h, hminus, flush]

theorem run_number (hσ : Opens σ) (h : ∀ c ∈ cs, c.isDigit = true) (hne : cs ≠ []) :
    run σ cs = (flush σ, .number cs.reverse) := by
  cases cs with
  | nil => exact absurd rfl hne
  | cons c cs =>
    rw [List.forall_mem_cons] at h
    rw [run, step_digit hσ h.1, run_digits h.2, List.append_nil, List.reverse_cons]

theorem numeral_digits (h : ∀ c ∈ cs, c.isDigit = true) : numeral cs.reverse = .number cs := by
  have hdrop : cs.dropWhile Char.isDigit = [] := List.dropWhile_eq_nil_iff.mpr h
  have hnum : isNumeral cs = true := by
    rw [isNumeral]
    · rw [hdrop]
      rfl
    · rintro e es rfl
      exact absurd (h 'x' (by simp)) (by decide)
    · rintro e es rfl
      exact absurd (h 'X' (by simp)) (by decide)
  rw [numeral, List.reverse_reverse, if_pos hnum]

theorem run_number_break {c : Char} (hc : c = ' ' ∨ c = ',') :
    run (.number acc) (c :: cs) =
      (numeral acc :: (run .blank (c :: cs)).1, (run .blank (c :: cs)).2) := by
  obtain rfl | rfl := hc <;> rfl

def decimal : Int → List Token
  | .ofNat k => [.number (Nat.toDigits 10 k)]
  | .negSucc k => [.operator ['-'], .number (Nat.toDigits 10 (k + 1))]

theorem digits_toDigits (k : Nat) : ∀ c ∈ Nat.toDigits 10 k, c.isDigit = true :=
  fun _ hc => Nat.isDigit_of_mem_toDigits (by decide) (by decide) hc

theorem toList_toString (n : Int) : (toString n).toList =
    match n with
    | .ofNat k => Nat.toDigits 10 k
    | .negSucc k => '-' :: Nat.toDigits 10 (k + 1) := by
  cases n with
  | ofNat k => exact Nat.toList_repr
  | negSucc k =>
    have htext : (toString (Int.negSucc k)).toList = ("-" ++ (k + 1).repr).toList := rfl
    rw [htext, String.toList_append, Nat.toList_repr]
    rfl

theorem run_decimal (hσ : σ = .blank ∨ σ = .pending '=') (n : Int) :
    ∃ acc, (run σ (toString n).toList).2 = .number acc ∧
      (run σ (toString n).toList).1 ++ [numeral acc] = flush σ ++ decimal n := by
  rw [toList_toString]
  cases n with
  | ofNat k =>
    have hopens : Opens σ := hσ.imp_right .inl
    refine ⟨(Nat.toDigits 10 k).reverse, ?_⟩
    rw [run_number hopens (digits_toDigits k) Nat.toDigits_ne_nil,
      numeral_digits (digits_toDigits k)]
    exact ⟨rfl, rfl⟩
  | negSucc k =>
    have hminus : step σ '-' = (flush σ, .pending '-') := by
      obtain rfl | rfl := hσ <;> rfl
    refine ⟨(Nat.toDigits 10 (k + 1)).reverse, ?_⟩
    dsimp only
    rw [run, hminus, run_number (.inr (.inr rfl)) (digits_toDigits (k + 1)) Nat.toDigits_ne_nil,
      numeral_digits (digits_toDigits (k + 1)), List.append_assoc]
    exact ⟨rfl, rfl⟩

end Numbers

end JiraGame.Lib.SqlLexer
