import JiraGame.Lib.SqlLexer

namespace JiraGame.Lib.SqlQuoting

open JiraGame.Lib.SqlLexer

/-- A part of a statement: text, or a value that is put between single quotes. -/
inductive Piece
  | text (cs : List Char)
  | value (cs : List Char)
deriving DecidableEq

/-- The statement as it is written. -/
def written : List Piece → List Char
  | [] => []
  | .text cs :: ps => cs ++ written ps
  | .value cs :: ps => '\'' :: (cs ++ '\'' :: written ps)

/-- The statement as it is meant: each value is the content of one literal. -/
def meant : List Piece → List Symbol
  | [] => []
  | .text cs :: ps => cs.map .char ++ meant ps
  | .value cs :: ps => .literal cs :: meant ps

def values : List Piece → List (List Char)
  | [] => []
  | .text _ :: ps => values ps
  | .value cs :: ps => cs :: values ps

/-- Neither a quote nor the character that ends the input. -/
def Clean (cs : List Char) : Prop := '\'' ∉ cs ∧ '\x00' ∉ cs

instance (cs : List Char) : Decidable (Clean cs) :=
  inferInstanceAs (Decidable ('\'' ∉ cs ∧ '\x00' ∉ cs))

def Unquoted : List Piece → Prop
  | .text (c :: _) :: _ => c ≠ '\''
  | _ => False

/-- Every value stands where a quote opens a literal, and text follows it. -/
def Framed (σ : State) : List Piece → Prop
  | [] => True
  | .text cs :: ps => '\x00' ∉ cs ∧ Framed (run σ cs).2 ps
  | .value _ :: ps => step σ '\'' = (flush σ, .string []) ∧ Unquoted ps ∧ Framed .blank ps

instance : ∀ ps, Decidable (Unquoted ps)
  | .text (c :: _) :: _ => inferInstanceAs (Decidable (c ≠ '\''))
  | [] | .text [] :: _ | .value _ :: _ => inferInstanceAs (Decidable False)

instance decidableFramed : ∀ σ ps, Decidable (Framed σ ps)
  | _, [] => inferInstanceAs (Decidable True)
  | σ, .text cs :: ps =>
    have := decidableFramed (run σ cs).2 ps
    inferInstanceAs (Decidable ('\x00' ∉ cs ∧ Framed (run σ cs).2 ps))
  | σ, .value _ :: ps =>
    have := decidableFramed .blank ps
    inferInstanceAs
      (Decidable (step σ '\'' = (flush σ, .string []) ∧ Unquoted ps ∧ Framed .blank ps))

def shape : List Piece → List Piece
  | [] => []
  | .text cs :: ps => .text cs :: shape ps
  | .value _ :: ps => .value [] :: shape ps

def tokens (σ : State) : List Piece → List Token
  | [] => flush σ
  | .text cs :: ps => (run σ cs).1 ++ tokens (run σ cs).2 ps
  | .value v :: ps => flush σ ++ .string v :: tokens .blank ps

def doubled (cs : List Char) : List Char := cs.flatMap fun c => if c = '\'' then ['\'', '\''] else [c]

section Scan

variable {σ : State} {acc cs z : List Char} {rest : List Symbol}

theorem lex_text (h : '\x00' ∉ cs) :
    lex σ (cs.map .char ++ rest) = (run σ cs).1 ++ lex (run σ cs).2 rest := by
  induction cs generalizing σ with
  | nil => rfl
  | cons c cs ih =>
    rw [List.mem_cons, not_or] at h
    rw [List.map_cons, List.cons_append, lex, if_neg fun he => h.1 he.symm, ih h.2, run,
      List.append_assoc]

/-- A clean value between quotes is read as one literal. -/
theorem lex_clean (h : Clean cs) :
    lex (.string acc) (cs.map .char ++ .char '\'' :: rest) = lex (.closing (cs.reverse ++ acc)) rest := by
  induction cs generalizing acc with
  | nil => rfl
  | cons c cs ih =>
    obtain ⟨hquote, hnul⟩ := h
    rw [List.mem_cons, not_or] at hquote hnul
    rw [List.map_cons, List.cons_append, lex, if_neg fun he => hnul.1 he.symm, step,
      if_neg fun he => hquote.1 he.symm, ih ⟨hquote.2, hnul.2⟩, List.reverse_cons,
      List.append_assoc]
    rfl

theorem lex_closing {c : Char} (hc : c ≠ '\'') (hnul : c ≠ '\x00') :
    lex (.closing acc) (.char c :: rest) =
      .string acc.reverse :: lex .blank (.char c :: rest) := by
  have hstep : step (.closing acc) c = next (.closing acc) c := if_neg hc
  rw [lex, if_neg hnul, lex, if_neg hnul, hstep]
  rfl

theorem doubled_cons (c : Char) (cs : List Char) :
    doubled (c :: cs) = (if c = '\'' then ['\'', '\''] else [c]) ++ doubled cs := by
  rw [doubled, List.flatMap_cons]
  rfl

theorem head_literal (y : List Char) :
    ((lex (.string acc) (cs.map .char)).head? = some (.string y) →
      ∃ z t, y = acc.reverse ++ z ∧ cs = doubled z ++ '\'' :: t ∧ t.head? ≠ some '\'' ∧
        '\x00' ∉ z) ∧
    ((lex (.closing acc) (cs.map .char)).head? = some (.string y) →
      (y = acc.reverse ∧ cs.head? ≠ some '\'') ∨
        ∃ z t, y = acc.reverse ++ '\'' :: z ∧ cs = '\'' :: (doubled z ++ '\'' :: t) ∧
          t.head? ≠ some '\'' ∧ '\x00' ∉ z) := by
  induction cs generalizing acc with
  | nil =>
    refine ⟨fun h => by simp [lex, flush] at h, fun h => .inl ⟨?_, by simp⟩⟩
    simpa [lex, flush, eq_comm] using h
  | cons c cs ih =>
    refine ⟨?_, ?_⟩
    · intro h
      rw [List.map_cons, lex] at h
      by_cases hnul : c = '\x00'
      · simp [hnul, flush] at h
      · rw [if_neg hnul, step, List.nil_append] at h
        by_cases hc : c = '\''
        · rw [if_pos hc] at h
          rw [hc]
          obtain ⟨hy, hcs⟩ | ⟨z, t, hy, hcs, ht, hz⟩ := ih.2 h
          · exact ⟨[], cs, by rw [hy, List.append_nil], rfl, hcs, List.not_mem_nil⟩
          · refine ⟨'\'' :: z, t, hy, ?_, ht, ?_⟩
            · rw [doubled_cons, if_pos rfl, hcs]
              rfl
            · simpa using hz
        · rw [if_neg hc] at h
          obtain ⟨z, t, hy, hcs, ht, hz⟩ := ih.1 h
          refine ⟨c :: z, t, ?_, ?_, ht, ?_⟩
          · rw [hy, List.reverse_cons, List.append_assoc]
            rfl
          · rw [doubled_cons, if_neg hc, hcs]
            rfl
          · rw [List.mem_cons, not_or]
            exact ⟨fun he => hnul he.symm, hz⟩
    · intro h
      rw [List.map_cons, lex] at h
      by_cases hnul : c = '\x00'
      · rw [if_pos hnul, flush, List.head?_cons, Option.some.injEq, Token.string.injEq] at h
        exact .inl ⟨h.symm, by simp [hnul]⟩
      · rw [if_neg hnul] at h
        by_cases hc : c = '\''
        · have hstep : step (.closing acc) c = ([], .string ('\'' :: acc)) := if_pos hc
          rw [hstep, List.nil_append] at h
          obtain ⟨z, t, hy, hcs, ht, hz⟩ := ih.1 h
          rw [List.reverse_cons, List.append_assoc] at hy
          exact .inr ⟨z, t, hy, by rw [hc, hcs], ht, hz⟩
        · have hstep : step (.closing acc) c = next (.closing acc) c := if_neg hc
          rw [hstep, next, flush, List.cons_append, List.cons_append, List.head?_cons,
            Option.some.injEq, Token.string.injEq] at h
          exact .inl ⟨h.symm, by simpa using hc⟩

end Scan

section Unclean

variable {v w t rest : List Char}

theorem length_doubled (cs : List Char) : cs.length ≤ (doubled cs).length := by
  induction cs with
  | nil => exact Nat.le_refl _
  | cons c cs ih =>
    rw [doubled_cons, List.length_append]
    split <;> simp <;> omega

theorem countP_doubled (cs : List Char) :
    (doubled cs).countP (· ≠ '\'') = cs.countP (· ≠ '\'') := by
  induction cs with
  | nil => rfl
  | cons c cs ih =>
    rw [doubled_cons, List.countP_append, ih, List.countP_cons]
    by_cases hc : c = '\''
    · simp [hc]
    · simp [hc, Nat.add_comm]

theorem doubled_append (cs ds : List Char) : doubled (cs ++ ds) = doubled cs ++ doubled ds := by
  rw [doubled, doubled, doubled, List.flatMap_append]

theorem doubled_clean (h : '\'' ∉ v) : doubled v = v := by
  induction v with
  | nil => rfl
  | cons c v ih =>
    rw [List.mem_cons, not_or] at h
    rw [doubled_cons, if_neg fun he => h.1 he.symm, ih h.2]
    rfl

/-- A value that contains a quote is not its own doubled form up to the literal's
end: what follows the closing quote would be too short. -/
theorem doubled_ne (hquote : '\'' ∈ v) (ht : t.head? ≠ some '\'') :
    v ++ '\'' :: t ≠ doubled v ++ '\'' :: rest := by
  intro h
  obtain ⟨p, w, rfl, hp⟩ := List.eq_append_cons_of_mem hquote
  rw [doubled_append, doubled_clean hp, doubled_cons, if_pos rfl] at h
  simp only [List.append_assoc, List.cons_append, List.nil_append, List.append_cancel_left_eq,
    List.cons.injEq, true_and] at h
  have hcount := congrArg (List.countP (· ≠ '\'')) h
  have hlen := congrArg List.length h
  have hdouble := length_doubled w
  simp only [List.countP_append, List.countP_cons, countP_doubled] at hcount
  simp only [List.length_append, List.length_cons] at hlen
  -- both ends are suffixes of one list, and the second is the shorter
  have hsuffix : rest <:+ t := by
    have hrest : rest <:+ w ++ '\'' :: t := by
      rw [h]
      exact ⟨'\'' :: (doubled w ++ ['\'']), by simp⟩
    have ht : t <:+ w ++ '\'' :: t := ⟨w ++ ['\''], by simp⟩
    exact List.suffix_of_suffix_length_le hrest ht (by omega)
  obtain ⟨u, hu⟩ := hsuffix
  have hulen := congrArg List.length hu
  have hucount := congrArg (List.countP (· ≠ '\'')) hu
  rw [List.length_append] at hulen
  rw [List.countP_append] at hucount
  cases u with
  | nil =>
    rw [List.length_nil] at hulen
    omega
  | cons d u =>
    have hd : d ≠ '\'' := by
      intro hd
      rw [← hu, hd] at ht
      exact ht rfl
    rw [List.countP_cons, if_pos (by simpa using hd)] at hucount
    simp only [ne_eq, not_true_eq_false, decide_false, Bool.false_eq_true, if_false] at hcount
    simp only [ne_eq] at hucount
    omega

end Unclean

section Statement

variable {σ : State} {ps : List Piece}

theorem unquoted_shape (ps : List Piece) : Unquoted (shape ps) ↔ Unquoted ps := by
  match ps with
  | [] | .text [] :: _ | .text (_ :: _) :: _ | .value _ :: _ => exact Iff.rfl

theorem framed_shape (σ : State) (ps : List Piece) : Framed σ (shape ps) ↔ Framed σ ps := by
  induction ps generalizing σ with
  | nil => exact Iff.rfl
  | cons p ps ih =>
    cases p with
    | text cs => exact and_congr Iff.rfl (ih _)
    | value cs => exact and_congr Iff.rfl (and_congr (unquoted_shape ps) (ih _))

theorem framed_of_shape {q : List Piece} (h : shape ps = shape q) (hq : Framed σ q) :
    Framed σ ps := by
  rwa [← framed_shape, h, framed_shape]

theorem unquoted_spec (h : Unquoted ps) : ∃ c cs qs, c ≠ '\'' ∧ ps = .text (c :: cs) :: qs := by
  match ps with
  | .text (c :: cs) :: qs => exact ⟨c, cs, qs, h, rfl⟩

theorem lex_closing_unquoted {acc : List Char} (hu : Unquoted ps) (hf : Framed .blank ps) :
    lex (.closing acc) ((written ps).map .char) =
        .string acc.reverse :: lex .blank ((written ps).map .char) ∧
      lex (.closing acc) (meant ps) = .string acc.reverse :: lex .blank (meant ps) := by
  obtain ⟨c, cs, qs, hc, rfl⟩ := unquoted_spec hu
  obtain ⟨hnul, -⟩ := hf
  have hc' : c ≠ '\x00' := fun he => hnul (he ▸ List.mem_cons_self)
  exact ⟨lex_closing hc hc', lex_closing hc hc'⟩

theorem lex_meant (h : Framed σ ps) : lex σ (meant ps) = tokens σ ps := by
  induction ps generalizing σ with
  | nil => rfl
  | cons p ps ih =>
    cases p with
    | text cs =>
      obtain ⟨hnul, hf⟩ := h
      rw [meant, lex_text hnul, ih hf, tokens]
    | value v =>
      obtain ⟨-, hu, hf⟩ := h
      rw [meant, lex, (lex_closing_unquoted hu hf).2, List.reverse_reverse, ih hf, tokens]

theorem lex_value_ne {v : List Char} {rest : List Token} (hu : Unquoted ps) (hv : ¬ Clean v) :
    lex (.string []) ((v ++ '\'' :: written ps).map .char) ≠ .string v :: rest := by
  intro h
  have hhead : (lex (.string []) ((v ++ '\'' :: written ps).map .char)).head? = some (.string v) := by
    rw [h]
    rfl
  obtain ⟨c, cs, qs, hc, rfl⟩ := unquoted_spec hu
  obtain ⟨z, t, hz, hsplit, -, hnul⟩ := (head_literal v).1 hhead
  rw [List.reverse_nil, List.nil_append] at hz
  subst hz
  have hquote : '\'' ∈ v := by
    by_contra hquote
    exact hv ⟨hquote, hnul⟩
  refine doubled_ne hquote ?_ hsplit
  simpa [written] using hc

/-- Values between single quotes are read as meant exactly when none of them
contains a quote or the end of the input. -/
theorem lex_written_iff (h : Framed σ ps) :
    lex σ ((written ps).map .char) = lex σ (meant ps) ↔ ∀ v ∈ values ps, Clean v := by
  induction ps generalizing σ with
  | nil => exact ⟨fun _ v hv => absurd hv List.not_mem_nil, fun _ => rfl⟩
  | cons p ps ih =>
    cases p with
    | text cs =>
      obtain ⟨hnul, hf⟩ := h
      rw [written, meant, values, List.map_append, lex_text hnul, lex_text hnul,
        List.append_cancel_left_eq]
      exact ih hf
    | value cs =>
      obtain ⟨hopen, hu, hf⟩ := h
      have hleft : lex σ ((written (.value cs :: ps)).map .char) =
          flush σ ++ lex (.string []) ((cs ++ '\'' :: written ps).map .char) := by
        rw [written, List.map_cons, lex, if_neg (by decide), hopen]
      obtain ⟨hwritten, hmeant⟩ := @lex_closing_unquoted ps cs.reverse hu hf
      rw [hleft, meant, lex, List.append_cancel_left_eq, hmeant, List.reverse_reverse, values,
        List.forall_mem_cons]
      by_cases hclean : Clean cs
      · rw [List.map_append, List.map_cons, lex_clean hclean, List.append_nil, hwritten,
          List.reverse_reverse, List.cons.injEq, eq_self, true_and, ih hf]
        exact ⟨fun hv => ⟨hclean, hv⟩, fun hv => hv.2⟩
      · exact ⟨fun he => absurd he (lex_value_ne hu hclean), fun hv => absurd hv.1 hclean⟩

end Statement

end JiraGame.Lib.SqlQuoting
