import JiraGame.Lib.SqlQuoting
import Mathlib.Algebra.GroupWithZero.Nat

namespace JiraGame.Lib.SqlSpacing

open JiraGame.Lib.SqlLexer JiraGame.Lib.SqlQuoting

def keyword : List Char := ['a', 'n', 'd', ' ']

/-- A letter does not go on with what has been read. -/
def Apart : State → Bool
  | .word _ | .number _ | .string _ | .name _ _ | .bracket _ | .blob _ => false
  | .variable acc => acc.getLast? = some '?'
  | _ => true

/-- Wherever the keyword follows, it is a token of its own or stands inside a
comment. Nothing matters behind the character NUL. -/
def Separated : State → List (List Char) → Prop
  | σ, x :: y :: xs =>
    '\x00' ∈ x ∨
      Apart (run σ x).2 = true ∧ Separated (run (run σ x).2 keyword).2 (y :: xs)
  | _, _ => True

/-- A name does not end at a character of the keyword. -/
def Proper : State → Prop
  | .name delim _ | .nameClosing delim _ => delim ∉ keyword
  | _ => True

def chars : Token → List Char
  | .word t | .number t | .string t | .blob t | .name t | .variable t | .operator t
  | .illegal t => t

def weight (ts : List Token) : Nat := (ts.map fun t => (chars t).length + 1).sum

/-- The same place in the text, with `d` more characters in an open token. -/
inductive Wider (d : Nat) : State → State → Prop
  | same (σ : State) : d = 0 → Wider d σ σ
  | string {acc acc' : List Char} : acc'.length = acc.length + d → Wider d (.string acc) (.string acc')
  | closing {acc acc' : List Char} :
      acc'.length = acc.length + d → Wider d (.closing acc) (.closing acc')
  | name {acc acc' : List Char} (delim : Char) :
      acc'.length = acc.length + d → Wider d (.name delim acc) (.name delim acc')
  | nameClosing {acc acc' : List Char} (delim : Char) :
      acc'.length = acc.length + d → Wider d (.nameClosing delim acc) (.nameClosing delim acc')
  | bracket {acc acc' : List Char} :
      acc'.length = acc.length + d → Wider d (.bracket acc) (.bracket acc')
  | blob {acc acc' : List Char} : acc'.length = acc.length + d → Wider d (.blob acc) (.blob acc')

section Weights

variable {d : Nat} {σ σ' : State}

@[simp] theorem weight_nil : weight [] = 0 := rfl

@[simp] theorem weight_cons (t : Token) (ts : List Token) :
    weight (t :: ts) = (chars t).length + 1 + weight ts := by
  simp [weight]

@[simp] theorem weight_append (ts us : List Token) : weight (ts ++ us) = weight ts + weight us := by
  simp [weight]

theorem wider_flush (h : Wider d σ σ') : weight (flush σ') = weight (flush σ) + d := by
  cases h with
  | same _ hd => rw [hd, Nat.add_zero]
  | string h | closing h | name _ h | nameClosing _ h | bracket h | blob h =>
    simp only [flush, weight_cons, weight_nil, chars, List.length_cons, List.length_reverse]
    omega

theorem wider_next (h : weight (flush σ') = weight (flush σ) + d) (c : Char) :
    ∃ d', Wider d' (next σ c).2 (next σ' c).2 ∧
      weight (next σ' c).1 + d' = weight (next σ c).1 + d := by
  refine ⟨0, .same _ rfl, ?_⟩
  simp only [next, weight_append]
  omega

theorem wider_step (h : Wider d σ σ') (c : Char) : ∃ d', Wider d' (step σ c).2 (step σ' c).2 ∧
    weight (step σ' c).1 + d' = weight (step σ c).1 + d := by
  have hflush := wider_flush h
  cases h with
  | same _ hd => exact ⟨0, .same _ rfl, by rw [hd]⟩
  | string hl =>
    by_cases hc : c = '\''
    · simp only [step, hc, if_true]
      exact ⟨d, .closing hl, rfl⟩
    · simp only [step, hc, if_false]
      exact ⟨d, .string (by simp [hl]; omega), rfl⟩
  | closing hl =>
    by_cases hc : c = '\''
    · simp only [step, hc, if_true]
      exact ⟨d, .string (by simp [hl]; omega), rfl⟩
    · simp only [step, hc, if_false]
      exact wider_next hflush c
  | name delim hl =>
    by_cases hc : c = delim
    · simp only [step, hc, if_true]
      exact ⟨d, .nameClosing _ hl, rfl⟩
    · simp only [step, hc, if_false]
      exact ⟨d, .name _ (by simp [hl]; omega), rfl⟩
  | nameClosing delim hl =>
    by_cases hc : c = delim
    · simp only [step, hc, if_true]
      exact ⟨d, .name _ (by simp [hl]; omega), rfl⟩
    · simp only [step, hc, if_false]
      exact wider_next hflush c
  | bracket hl =>
    by_cases hc : c = ']'
    · simp only [step, hc, if_true]
      exact ⟨0, .same _ rfl, by simp [chars, hl]; omega⟩
    · simp only [step, hc, if_false]
      exact ⟨d, .bracket (by simp [hl]; omega), rfl⟩
  | @blob acc acc' hl =>
    by_cases hc : c = '\''
    · have hblob : ∀ a : List Char, weight (step (.blob a) '\'').1 = a.length + 1 := by
        intro a
        simp only [step, if_true]
        split <;> simp [chars]
      rw [hc]
      refine ⟨0, .same _ rfl, ?_⟩
      rw [hblob, hblob]
      omega
    · simp only [step, hc, if_false]
      exact ⟨d, .blob (by simp [hl]; omega), rfl⟩

theorem wider_run (h : Wider d σ σ') (cs : List Char) : ∃ d', Wider d' (run σ cs).2 (run σ' cs).2 ∧
    weight (run σ' cs).1 + d' = weight (run σ cs).1 + d := by
  induction cs generalizing d σ σ' with
  | nil => exact ⟨d, h, rfl⟩
  | cons c cs ih =>
    obtain ⟨d₁, hstep, hw₁⟩ := wider_step h c
    obtain ⟨d₂, hrun, hw₂⟩ := ih hstep
    refine ⟨d₂, hrun, ?_⟩
    simp only [run, weight_append]
    omega

end Weights

section Proper

variable {σ : State}

theorem proper_first (c : Char) : Proper (first c).2 := by
  rw [first]
  repeat' split
  all_goals try exact trivial
  -- a name opens with its own delimiter
  rename_i hdelim
  simp only [Bool.or_eq_true, decide_eq_true_eq] at hdelim
  obtain rfl | rfl := hdelim <;> simp [Proper, keyword]

theorem proper_step (h : Proper σ) (c : Char) : Proper (step σ c).2 := by
  have hnext : ∀ τ, Proper (next τ c).2 := fun τ => proper_first c
  cases σ with
  | blank => exact proper_first c
  | commentStart => exact trivial
  | pending p =>
    rw [step, afterPending]
    split_ifs
    all_goals first | exact trivial | exact hnext _
  | name delim acc | nameClosing delim acc =>
    rw [step]
    split_ifs
    all_goals first | exact h | exact hnext _
  | _ =>
    simp only [step]
    split_ifs
    all_goals first | exact trivial | exact hnext _

theorem proper_run (h : Proper σ) (cs : List Char) : Proper (run σ cs).2 := by
  induction cs generalizing σ with
  | nil => exact h
  | cons c cs ih => exact ih (proper_step h c)

end Proper

section Keyword

variable {d : Nat} {σ σ' : State} {acc : List Char}

def keywordToken : Token := .word ['a', 'n', 'd']

theorem next_a : next σ 'a' = (flush σ, .word ['a']) := Prod.ext (List.append_nil _) rfl

theorem next_blank : next σ ' ' = (flush σ, .blank) := Prod.ext (List.append_nil _) rfl

theorem run_next_keyword (h : step σ 'a' = next σ 'a') :
    run σ keyword = (flush σ ++ [keywordToken], .blank) := by
  rw [keyword, run, h, next_a]
  rfl

theorem run_next_spaced (h : step σ ' ' = next σ ' ') :
    run σ (' ' :: keyword) = (flush σ ++ [keywordToken], .blank) := by
  rw [run, h, next_blank]
  rfl

theorem step_pending (p c : Char) (hc : c = 'a' ∨ c = ' ') :
    step (.pending p) c = next (.pending p) c := by
  obtain rfl | rfl := hc <;> simp [step, afterPending, pairs]

theorem step_exponent (sign c : Char) (hc : c = 'a' ∨ c = ' ') :
    step (.exponent acc sign) c = next (.exponent acc sign) c := by
  obtain rfl | rfl := hc <;> simp [step]

theorem isIdChar_letter : ∀ c ∈ ['a', 'n', 'd'], isIdChar c = true := by
  simp [isIdChar]

theorem isIdChar_blank : isIdChar ' ' = false := by decide

theorem step_variable_blank : step (.variable acc) ' ' = next (.variable acc) ' ' := by
  simp [step, isIdChar_blank]

/-- Behind a token that ends there, and in a comment, the keyword is read with a
blank in front as without. -/
theorem run_apart (hσ : Proper σ) (h : Apart σ = true) :
    run σ (' ' :: keyword) = run σ keyword := by
  match σ, h with
  | .blank, _ | .closing _, _ | .lineComment, _ | .commentStart, _ => rfl
  | .pending p, _ =>
    rw [run_next_keyword (step_pending p _ (.inl rfl)),
      run_next_spaced (step_pending p _ (.inr rfl))]
  | .exponent acc sign, _ =>
    rw [run_next_keyword (step_exponent sign _ (.inl rfl)),
      run_next_spaced (step_exponent sign _ (.inr rfl))]
  | .comment star, _ => cases star <;> rfl
  | .nameClosing delim acc, _ =>
    have ha : step (.nameClosing delim acc) 'a' = next (.nameClosing delim acc) 'a' :=
      if_neg (by rintro rfl; exact hσ (by decide))
    have hblank : step (.nameClosing delim acc) ' ' = next (.nameClosing delim acc) ' ' :=
      if_neg (by rintro rfl; exact hσ (by decide))
    rw [run_next_keyword ha, run_next_spaced hblank]
  | .variable acc, h =>
    have hlast : acc.getLast? = some '?' := of_decide_eq_true h
    have ha : step (.variable acc) 'a' = next (.variable acc) 'a' := by
      simp [step, hlast]
    rw [run_next_keyword ha, run_next_spaced step_variable_blank]

theorem wider_inside {f : List Char → State} {acc' : List Char}
    (h : ∀ a, ∀ c ∈ keyword, step (f a) c = ([], f (c :: a)))
    (hf : ∀ {d a a'}, a'.length = a.length + d → Wider d (f a) (f a'))
    (hl : acc'.length = acc.length + d) :
    ∃ d', Wider d' (run (f acc) keyword).2 (run (f acc') (' ' :: keyword)).2 ∧
      weight (run (f acc') (' ' :: keyword)).1 + d' = weight (run (f acc) keyword).1 + d + 1 := by
  have hspaced : ∀ c ∈ ' ' :: keyword, c ∈ keyword := by simp [keyword]
  have hrun : ∀ cs : List Char, (∀ c ∈ cs, c ∈ keyword) → ∀ a,
      run (f a) cs = ([], f (cs.reverse ++ a)) := by
    intro cs
    induction cs with
    | nil => exact fun _ _ => rfl
    | cons c cs ih =>
      intro hcs a
      rw [List.forall_mem_cons] at hcs
      rw [run, h a c hcs.1, ih hcs.2, List.reverse_cons, List.append_assoc]
      rfl
  refine ⟨d + 1, ?_, ?_⟩
  · rw [hrun _ (fun _ hc => hc), hrun _ hspaced]
    apply hf
    simp only [List.length_append, List.length_reverse, List.length_cons]
    omega
  · rw [hrun _ (fun _ hc => hc), hrun _ hspaced]
    simp

theorem wider_extended {t : Token} (hrun : run σ keyword = ([t], .blank))
    (hblank : step σ ' ' = next σ ' ') (hw : weight [t] = weight (flush σ) + 3) :
    ∃ d', Wider d' (run σ keyword).2 (run σ (' ' :: keyword)).2 ∧
      weight (run σ (' ' :: keyword)).1 + d' = weight (run σ keyword).1 + 0 + 1 := by
  rw [run_next_spaced hblank, hrun]
  refine ⟨0, .same _ rfl, ?_⟩
  rw [hw, weight_append]
  rfl

theorem run_word_keyword : run (.word acc) keyword =
    ([.word ('d' :: 'n' :: 'a' :: acc).reverse], .blank) := by
  simp [keyword, run, step, isIdChar_letter, isIdChar_blank, next_blank, flush]

theorem run_number_keyword : run (.number acc) keyword =
    ([numeral ('d' :: 'n' :: 'a' :: acc)], .blank) := by
  simp [keyword, run, step, isIdChar_letter, isIdChar_blank, next_blank, flush]

theorem run_variable_keyword (h : acc.getLast? ≠ some '?') : run (.variable acc) keyword =
    ([.variable ('d' :: 'n' :: 'a' :: acc).reverse], .blank) := by
  have hlast : ∀ (a : List Char) (c : Char), a.getLast? ≠ some '?' → c ≠ '?' →
      (c :: a).getLast? ≠ some '?' := by
    intro a c ha hc
    cases a with
    | nil => simpa using hc
    | cons x a => simpa using ha
  have hvar : ∀ a : List Char, a.getLast? ≠ some '?' → ∀ c ∈ ['a', 'n', 'd'],
      step (.variable a) c = ([], .variable (c :: a)) := by
    intro a ha c hc
    simp [step, isIdChar_letter c hc, ha]
  have hn := hlast _ 'a' h (by decide)
  have hd := hlast _ 'n' hn (by decide)
  rw [keyword, run, hvar _ h _ (by decide), run, hvar _ hn _ (by decide), run,
    hvar _ hd _ (by decide), run, step_variable_blank, next_blank]
  rfl

theorem weight_variable (acc : List Char) :
    weight (flush (.variable acc)) = acc.length + 1 := by
  cases acc with
  | nil => rfl
  | cons c acc =>
    cases acc with
    | nil =>
      rw [flush]
      split <;> rfl
    | cons c' acc => simp [flush, chars]

theorem weight_numeral (acc : List Char) : weight [numeral acc] = acc.length + 1 := by
  rw [numeral]
  split <;> simp [chars]

theorem wider_keyword (hσ : Proper σ) (h : Wider d σ σ') :
    ∃ d', Wider d' (run σ keyword).2 (run σ' (' ' :: keyword)).2 ∧
      weight (run σ' (' ' :: keyword)).1 + d' =
        weight (run σ keyword).1 + d + (if Apart σ then 0 else 1) := by
  by_cases ha : Apart σ = true
  · obtain ⟨d', hw, hd⟩ := wider_run h (' ' :: keyword)
    rw [run_apart hσ ha] at hw hd
    exact ⟨d', hw, by rw [if_pos ha, hd, Nat.add_zero]⟩
  · have hstring : ∀ a, ∀ c ∈ keyword, step (.string a) c = ([], .string (c :: a)) := by
      simp [keyword, step]
    have hbracket : ∀ a, ∀ c ∈ keyword, step (.bracket a) c = ([], .bracket (c :: a)) := by
      simp [keyword, step]
    have hblob : ∀ a, ∀ c ∈ keyword, step (.blob a) c = ([], .blob (c :: a)) := by
      simp [keyword, step]
    have hname : ∀ delim, delim ∉ keyword → ∀ a, ∀ c ∈ keyword,
        step (.name delim a) c = ([], .name delim (c :: a)) := by
      intro delim hdelim a c hc
      have hne : c ≠ delim := fun he => hdelim (he ▸ hc)
      simp [step, hne]
    rw [if_neg ha]
    cases h with
    | same _ hd =>
      subst hd
      cases σ with
      | word acc =>
        exact wider_extended run_word_keyword (by simp [step, isIdChar_blank])
          (by simp [flush, chars])
      | number acc =>
        refine wider_extended run_number_keyword (by simp [step, isIdChar_blank]) ?_
        rw [flush, weight_numeral, weight_numeral]
        rfl
      | «variable» acc =>
        have hlast : acc.getLast? ≠ some '?' := fun h => ha (decide_eq_true h)
        refine wider_extended (run_variable_keyword hlast) step_variable_blank ?_
        rw [weight_variable]
        simp [chars]
      | string acc => exact wider_inside hstring .string (Nat.add_zero _).symm
      | bracket acc => exact wider_inside hbracket .bracket (Nat.add_zero _).symm
      | blob acc => exact wider_inside hblob .blob (Nat.add_zero _).symm
      | name delim acc => exact wider_inside (hname delim hσ) (.name delim) (Nat.add_zero _).symm
      | _ => exact absurd rfl ha
    | string hl => exact wider_inside hstring .string hl
    | closing hl => exact absurd rfl ha
    | name delim hl => exact wider_inside (hname delim hσ) (.name delim) hl
    | nameClosing delim hl => exact absurd rfl ha
    | bracket hl => exact wider_inside hbracket .bracket hl
    | blob hl => exact wider_inside hblob .blob hl

end Keyword

section Joined

variable {d : Nat} {σ σ' : State}

theorem lex_nul {x : List Char} (h : '\x00' ∈ x) (rest : List Char) :
    lex σ ((x ++ rest).map .char) = lex σ (x.map .char) := by
  induction x generalizing σ with
  | nil => cases h
  | cons c x ih =>
    rw [List.cons_append, List.map_cons, List.map_cons, lex, lex]
    by_cases hc : c = '\x00'
    · rw [if_pos hc, if_pos hc]
    · rw [if_neg hc, if_neg hc, ih ((List.mem_cons.mp h).resolve_left fun he => hc he.symm)]

theorem lex_append {x : List Char} (h : '\x00' ∉ x) (rest : List Char) :
    lex σ ((x ++ rest).map .char) = (run σ x).1 ++ lex (run σ x).2 (rest.map .char) := by
  rw [List.map_append, lex_text h]

theorem wider_lex (h : Wider d σ σ') (cs : List Char) :
    weight (lex σ' (cs.map .char)) = weight (lex σ (cs.map .char)) + d := by
  induction cs generalizing d σ σ' with
  | nil => exact wider_flush h
  | cons c cs ih =>
    rw [List.map_cons, lex, lex]
    split
    · exact wider_flush h
    · obtain ⟨d', hstep, hw⟩ := wider_step h c
      rw [weight_append, weight_append, ih hstep]
      omega

theorem joined_cons (sep x y : List Char) (xs : List (List Char)) :
    sep.intercalate (x :: y :: xs) = x ++ (sep ++ sep.intercalate (y :: xs)) := by
  rw [List.intercalate_cons_cons, List.append_assoc]

theorem keyword_clean : '\x00' ∉ keyword ∧ '\x00' ∉ ' ' :: keyword := by decide

/-- The blanks in front of the keyword never make the text shorter, and they make
it longer unless the keyword is separated without them. -/
theorem weight_joined (xs : List (List Char)) (hσ : Proper σ) (h : Wider d σ σ') :
    ∃ n, weight (lex σ' (((' ' :: keyword).intercalate xs).map .char)) =
        weight (lex σ ((keyword.intercalate xs).map .char)) + d + n ∧
      (n = 0 → Separated σ xs) := by
  induction xs generalizing d σ σ' with
  | nil => exact ⟨0, wider_lex h [], fun _ => trivial⟩
  | cons x xs ih =>
    cases xs with
    | nil => exact ⟨0, wider_lex h _, fun _ => trivial⟩
    | cons y xs =>
      rw [joined_cons, joined_cons]
      by_cases hnul : '\x00' ∈ x
      · rw [lex_nul hnul, lex_nul hnul]
        exact ⟨0, wider_lex h x, fun _ => .inl hnul⟩
      · obtain ⟨d₁, hrun, hw₁⟩ := wider_run h x
        obtain ⟨d₂, hkey, hw₂⟩ := wider_keyword (proper_run hσ x) hrun
        obtain ⟨n, hrest, hsep⟩ := ih (proper_run (proper_run hσ x) keyword) hkey
        refine ⟨n + if Apart (run σ x).2 = true then 0 else 1, ?_, ?_⟩
        · rw [lex_append hnul, lex_append hnul, lex_append keyword_clean.1,
            lex_append keyword_clean.2]
          simp only [weight_append, hrest]
          omega
        · intro hn
          by_cases ha : Apart (run σ x).2 = true
          · exact .inr ⟨ha, hsep (by omega)⟩
          · rw [if_neg ha] at hn
            omega

/-- Texts joined by the keyword have the same tokens without a blank in front of
it as with one, exactly if the keyword is separated from each of them. -/
theorem lex_joined_iff (xs : List (List Char)) (hσ : Proper σ) :
    lex σ ((keyword.intercalate xs).map .char) =
      lex σ (((' ' :: keyword).intercalate xs).map .char) ↔ Separated σ xs := by
  refine ⟨?_, ?_⟩
  · intro heq
    obtain ⟨n, hw, hsep⟩ := weight_joined xs hσ (.same σ rfl)
    rw [heq] at hw
    exact hsep (by omega)
  · intro hsep
    induction xs generalizing σ with
    | nil => rfl
    | cons x xs ih =>
      cases xs with
      | nil => rfl
      | cons y xs =>
        rw [joined_cons, joined_cons]
        by_cases hnul : '\x00' ∈ x
        · rw [lex_nul hnul, lex_nul hnul]
        · obtain hin | ⟨ha, hsep⟩ := hsep
          · exact absurd hin hnul
          · have hrest := ih (proper_run (proper_run hσ x) keyword) hsep
            rw [lex_append hnul, lex_append hnul, lex_append keyword_clean.1,
              lex_append keyword_clean.2, run_apart (proper_run hσ x) ha, hrest]

end Joined

end JiraGame.Lib.SqlSpacing
