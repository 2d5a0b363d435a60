import JiraGame.AccountStatements
import JiraGame.Lib.SqlSpacing

namespace JiraGame.StatementShapes

open JiraGame.DBServer JiraGame.AccountStatements
open JiraGame.Lib.SqlLexer JiraGame.Lib.SqlQuoting JiraGame.Lib.SqlSpacing

def equation (kv : String × Sql) : Sql := raw kv.1 ++ raw "=" ++ kv.2

def equations (sep : String) (key : List String) (value : List Sql) : Sql :=
  (raw sep).intercalate ((key.zip value).map equation)

/-- All equalities in order, with blanks around the conjunctions. -/
def whereClause (key : List String) (value : List Sql) : Sql := equations " and " key value

def insertText (table : String) (key : List String) (value : List Sql) : Sql :=
  raw ("insert into " ++ table ++ "(") ++ (raw ",").intercalate (key.map raw) ++
    raw ") values(" ++ (raw ",").intercalate value ++ raw ");"

def deleteText (table : String) (key : List String) (value : List Sql) : Sql :=
  raw ("delete from " ++ table ++ " where ") ++ whereClause key value ++ raw ";"

def selectText (table : String) (key : List String) (value : List Sql) : Sql :=
  raw ("select * from " ++ table ++ " where ") ++ whereClause key value ++ raw ";"

/-- An update that assigns the given pairs under a condition. -/
def updateOf (table : String) (sets conds : Sql) : Sql :=
  raw ("update " ++ table ++ " set ") ++ sets ++ raw " where " ++ conds ++ raw ";"

def updateText (table : String) (key : List String) (value : List Sql) (setKey : List String)
    (setValue : List Sql) : Sql :=
  updateOf table (equations "," setKey setValue) (whereClause key value)

def tokens (sql : Sql) : List Token := lex .blank ((text sql).map .char)

/-- The update assigns all pairs and its where clause has the tokens of the
conjunction of all equalities. -/
def UpdateMeans (table : String) (key : List String) (value : List Sql) (setKey : List String)
    (setValue : List Sql) (count setCount : Nat) : Prop :=
  ∃ conds, Update table key value setKey setValue count setCount =
      some (updateOf table (equations "," setKey setValue) conds) ∧
    tokens conds = tokens (whereClause key value)

/-- The keyword that follows a condition is not taken in by the end of it. -/
def ConditionsSeparated (key : List String) (value : List Sql) : Prop :=
  Separated .blank ((key.zip value).map fun kv => text (equation kv))

section Loops

variable {sep : String} {key : List String} {value : List Sql} {i n : Nat}

theorem intercalate_cons {α : Type} (sep x : List α) (xs : List (List α)) :
    sep.intercalate (x :: xs) = x ++ xs.flatMap (sep ++ ·) := by
  induction xs generalizing x with
  | nil => simp
  | cons y xs ih => simp only [List.intercalate_cons_cons, ih, List.flatMap_cons, List.append_assoc]

theorem joinTail_eq (keys : List Sql) (h : keys.length = i + n) :
    joinTail sep keys i n = some ((keys.drop i).flatMap (raw sep ++ ·)) := by
  induction n generalizing i with
  | zero =>
    rw [List.drop_eq_nil_of_le (by omega)]
    rfl
  | succ n ih =>
    have hi : i < keys.length := by omega
    rw [joinTail, List.getElem?_eq_getElem hi, ih (by omega), List.drop_eq_getElem_cons hi,
      List.flatMap_cons]
    rfl

theorem joinPairs_eq (hlen : value.length = key.length) (h : i + n ≤ key.length) :
    joinPairs sep key value i n =
      some ((((key.zip value).drop i).take n).flatMap fun kv => raw sep ++ equation kv) := by
  induction n generalizing i with
  | zero =>
    rw [List.take_zero]
    rfl
  | succ n ih =>
    have hi : i < key.length := by omega
    have hi' : i < value.length := by omega
    have hz : i < (key.zip value).length := by rw [List.length_zip]; omega
    rw [joinPairs, List.getElem?_eq_getElem hi, List.getElem?_eq_getElem hi', ih (by omega),
      List.drop_eq_getElem_cons hz, List.take_succ_cons, List.flatMap_cons, List.getElem_zip]
    simp [equation, List.append_assoc]

theorem joinPairs_beyond (h : key.length < i + n) (hn : 0 < n) :
    joinPairs sep key value i n = none := by
  induction n generalizing i with
  | zero => cases hn
  | succ n ih =>
    rw [joinPairs]
    cases hk : key[i]? with
    | none => rfl
    | some k =>
      have hi := (List.getElem?_eq_some_iff.mp hk).1
      have hrest := ih (i := i + 1) (by omega) (by omega)
      cases hv : value[i]? with
      | none => rfl
      | some v => simp [hrest]

end Loops

section Builders

variable {table : String} {key setKey : List String} {value setValue : List Sql}
  {count setCount : Nat}

theorem equations_take (sep : String) (hlen : value.length = key.length) (hn : count ≤ key.length)
    (hpos : 0 < count) : ∃ k v rest, key[0]? = some k ∧ value[0]? = some v ∧
      joinPairs sep key value 1 (count - 1) = some rest ∧
      equations sep (key.take count) (value.take count) = raw k ++ raw "=" ++ v ++ rest := by
  cases key with
  | nil => rw [List.length_nil] at hn; omega
  | cons k key =>
    cases value with
    | nil => cases hlen
    | cons v value =>
      refine ⟨k, v, _, rfl, rfl, joinPairs_eq hlen (by omega), ?_⟩
      obtain ⟨n, rfl⟩ : ∃ n, count = n + 1 := ⟨count - 1, by omega⟩
      rw [equations, List.take_succ_cons, List.take_succ_cons, List.zip_cons_cons, List.map_cons,
        intercalate_cons, List.flatMap_map, List.zip_eq_zipWith, List.zip_eq_zipWith,
        ← List.take_zipWith]
      rfl

theorem equations_whole (sep : String) (hk : key.length = count) (hv : value.length = count)
    (hpos : 0 < count) : ∃ k v rest, key[0]? = some k ∧ value[0]? = some v ∧
      joinPairs sep key value 1 (count - 1) = some rest ∧
      equations sep key value = raw k ++ raw "=" ++ v ++ rest := by
  have h := equations_take sep (hv.trans hk.symm) (Nat.le_of_eq hk.symm) hpos
  rwa [List.take_of_length_le (Nat.le_of_eq hk), List.take_of_length_le (Nat.le_of_eq hv)] at h

theorem Insert_eq (hk : key.length = count) (hv : value.length = count) (hpos : 0 < count) :
    DBServer.Insert table key value count = some (insertText table key value) := by
  cases key with
  | nil => simp at hk; omega
  | cons k key =>
    cases value with
    | nil => simp at hv; omega
    | cons v value =>
      rw [List.length_cons] at hk hv
      rw [DBServer.Insert, joinTail_eq _ (by rw [List.length_map, List.length_cons]; omega),
        joinTail_eq _ (by rw [List.length_cons]; omega), insertText, List.map_cons,
        intercalate_cons, intercalate_cons]
      simp [List.append_assoc]

theorem Delete_eq (hk : key.length = count) (hv : value.length = count) (hpos : 0 < count) :
    Delete table key value count = some (deleteText table key value) := by
  obtain ⟨k, v, rest, hk0, hv0, hrest, heq⟩ := equations_whole " and " hk hv hpos
  rw [Delete, hk0, hv0, hrest, deleteText, whereClause, heq]
  simp [List.append_assoc]

theorem SelectWhere_eq (hk : key.length = count) (hv : value.length = count) (hpos : 0 < count) :
    SelectWhere table key value count = some (selectText table key value) := by
  obtain ⟨k, v, rest, hk0, hv0, hrest, heq⟩ := equations_whole " and " hk hv hpos
  rw [SelectWhere, hk0, hv0, hrest, selectText, whereClause, heq]
  simp [List.append_assoc]

theorem Update_eq (hk : key.length = count) (hv : value.length = count)
    (hsk : setKey.length = setCount) (hsv : setValue.length = setCount) (hpos : 0 < count)
    (hle : count ≤ setCount) : Update table key value setKey setValue count setCount =
      some (updateOf table (equations "," (setKey.take count) (setValue.take count))
        (equations "and " key value)) := by
  obtain ⟨k, v, conds, hk0, hv0, hconds, heq⟩ := equations_whole "and " hk hv hpos
  obtain ⟨sk, sv, sets, hsk0, hsv0, hsets, hseq⟩ :=
    equations_take "," (hsv.trans hsk.symm) (hsk.symm ▸ hle) hpos
  rw [Update, hsk0, hsv0, hsets, hk0, hv0, hconds, updateOf, heq, hseq]
  simp [List.append_assoc]

theorem Update_beyond (hsk : setKey.length = setCount) (hsv : setValue.length = setCount)
    (hlt : setCount < count) (hs : 0 < setCount) :
    Update table key value setKey setValue count setCount = none := by
  obtain ⟨sk, sv, -, hsk0, hsv0, -, -⟩ := equations_whole "," hsk hsv hs
  rw [Update, hsk0, hsv0, joinPairs_beyond (by omega) (by omega)]
  rfl

end Builders

section Texts

variable {table : String} {key setKey : List String} {value setValue : List Sql}
  {count setCount : Nat}

theorem text_append (p q : Sql) : text (p ++ q) = text p ++ text q := by
  induction p with
  | nil => rfl
  | cons x p ih =>
    cases x with
    | raw t => exact (congrArg (t.toList ++ ·) ih).trans (List.append_assoc _ _ _).symm
    | quoted v =>
      have hcons : ∀ r : Sql, text (.quoted v :: r) = '\'' :: (v.toList ++ '\'' :: text r) :=
        fun _ => rfl
      rw [List.cons_append, hcons, hcons, ih, List.cons_append, List.append_assoc, List.cons_append]

theorem text_raw (t : String) : text (raw t) = t.toList := List.append_nil _

theorem text_intercalate (sep : String) (xs : List Sql) :
    text ((raw sep).intercalate xs) = sep.toList.intercalate (xs.map text) := by
  induction xs with
  | nil => rfl
  | cons x xs ih =>
    cases xs with
    | nil => simp
    | cons y xs =>
      rw [List.intercalate_cons_cons, text_append, text_append, ih, text_raw]
      simp only [List.map_cons, List.intercalate_cons_cons]

theorem length_intercalate {α : Type} (sep : List α) (xs : List (List α)) :
    (sep.intercalate xs).length = (xs.map List.length).sum + (xs.length - 1) * sep.length := by
  induction xs with
  | nil => simp
  | cons x xs ih =>
    cases xs with
    | nil => simp
    | cons y xs =>
      rw [List.intercalate_cons_cons, List.length_append, List.length_append, ih]
      simp only [List.map_cons, List.sum_cons, List.length_cons, Nat.add_sub_cancel]
      rw [Nat.succ_mul]
      omega

theorem length_equations (sep : String) (hk : key.length = count) (hv : value.length = count) :
    (text (equations sep key value)).length =
      ((key.zip value).map fun kv => (text (equation kv)).length).sum +
        (count - 1) * sep.toList.length := by
  rw [equations, text_intercalate, length_intercalate, List.map_map, List.map_map, List.length_map,
    List.length_map, List.length_zip, hk, hv, Nat.min_self]
  rfl

theorem equations_single (hk : key.length = 1) (hv : value.length = 1) (sep : String) :
    equations sep key value = (key.zip value).flatMap equation := by
  obtain ⟨k, rfl⟩ := List.length_eq_one_iff.mp hk
  obtain ⟨v, rfl⟩ := List.length_eq_one_iff.mp hv
  rw [equations, List.zip_cons_cons, List.map_cons, intercalate_cons]
  rfl

theorem Update_text_iff (hk : key.length = count) (hv : value.length = count)
    (hsk : setKey.length = setCount) (hsv : setValue.length = setCount) (hpos : 0 < count)
    (hs : 0 < setCount) :
    (Update table key value setKey setValue count setCount).map text =
      some (text (updateText table key value setKey setValue)) ↔ setCount = 1 ∧ count = 1 := by
  refine ⟨?_, ?_⟩
  · intro h
    obtain hlt | hle := Nat.lt_or_ge setCount count
    · rw [Update_beyond hsk hsv hlt hs] at h
      cases h
    · rw [Update_eq hk hv hsk hsv hpos hle, Option.map_some, Option.some_inj, updateText,
        whereClause] at h
      have hlen := congrArg List.length h
      have hsum := congrArg (fun l => (l.map fun kv => (text (equation kv)).length).sum)
        (List.take_append_drop count (setKey.zip setValue))
      simp only [List.map_append, List.sum_append, List.zip_eq_zipWith, List.take_zipWith] at hsum
      simp only [updateOf, text_append, List.length_append] at hlen
      rw [length_equations "," (List.length_take_of_le (by omega))
          (List.length_take_of_le (by omega)),
        length_equations "," hsk hsv, length_equations _ hk hv, length_equations _ hk hv] at hlen
      have hcomma : ",".toList.length = 1 := rfl
      have hand : "and ".toList.length = 4 := rfl
      have hblank : " and ".toList.length = 5 := rfl
      rw [hcomma, hand, hblank] at hlen
      simp only [List.zip_eq_zipWith] at hlen
      omega
  · rintro ⟨rfl, rfl⟩
    rw [Update_eq hk hv hsk hsv hpos (Nat.le_refl 1), List.take_of_length_le (by omega),
      List.take_of_length_le (by omega), updateText, whereClause, equations_single hk hv "and ",
      equations_single hk hv " and "]
    rfl

end Texts

section Meanings

variable {table : String} {key setKey : List String} {value setValue : List Sql}
  {count setCount : Nat}

/-- The pairs from `count` on follow the first ones. -/
theorem equations_split (sep : String) (hk : key.length = count) (hv : value.length = count)
    {n : Nat} (hn : n ≤ count) (hpos : 0 < n) : equations sep key value =
      equations sep (key.take n) (value.take n) ++
        ((key.zip value).drop n).flatMap fun kv => raw sep ++ equation kv := by
  cases key with
  | nil => simp at hk; omega
  | cons k key =>
    cases value with
    | nil => simp at hv; omega
    | cons v value =>
      obtain ⟨m, rfl⟩ : ∃ m, n = m + 1 := ⟨n - 1, by omega⟩
      rw [equations, equations, List.take_succ_cons, List.take_succ_cons, List.zip_cons_cons,
        List.zip_cons_cons, List.map_cons, List.map_cons, intercalate_cons, intercalate_cons,
        List.flatMap_map, List.flatMap_map, List.drop_succ_cons, List.append_assoc]
      congr 1
      rw [List.zip_eq_zipWith, List.zip_eq_zipWith, ← List.take_zipWith, ← List.flatMap_append,
        List.take_append_drop]

theorem updateOf_inj {sets conds conds' : Sql} (more : List (String × Sql))
    (h : updateOf table sets conds = updateOf table
      (sets ++ more.flatMap fun kv => raw "," ++ equation kv) conds') :
    more = [] ∧ conds = conds' := by
  simp only [updateOf, List.append_assoc] at h
  rw [List.append_cancel_left_eq, List.append_cancel_left_eq] at h
  cases more with
  | nil =>
    rw [List.flatMap_nil, List.nil_append, List.append_cancel_left_eq,
      List.append_cancel_right_eq] at h
    exact ⟨rfl, h⟩
  | cons kv more =>
    have hhead := congrArg List.head? h
    simp [raw] at hhead

theorem tokens_conds_iff : tokens (equations "and " key value) = tokens (whereClause key value) ↔
    ConditionsSeparated key value := by
  have hand : "and ".toList = keyword := rfl
  have hblank : " and ".toList = ' ' :: keyword := rfl
  rw [tokens, tokens, whereClause, equations, equations, text_intercalate, text_intercalate,
    List.map_map, hand, hblank]
  exact lex_joined_iff _ trivial

theorem UpdateMeans_iff (hk : key.length = count) (hv : value.length = count)
    (hsk : setKey.length = setCount) (hsv : setValue.length = setCount) (hpos : 0 < count)
    (hs : 0 < setCount) : UpdateMeans table key value setKey setValue count setCount ↔
      setCount = count ∧ ConditionsSeparated key value := by
  refine ⟨?_, ?_⟩
  · rintro ⟨conds, hupd, htok⟩
    obtain hlt | hle := Nat.lt_or_ge setCount count
    · rw [Update_beyond hsk hsv hlt hs] at hupd
      cases hupd
    · rw [Update_eq hk hv hsk hsv hpos hle, Option.some_inj,
        equations_split "," hsk hsv hle hpos] at hupd
      obtain ⟨hnone, rfl⟩ := updateOf_inj _ hupd
      have hlen := congrArg List.length hnone
      rw [List.length_drop, List.length_zip, hsk, hsv] at hlen
      exact ⟨by simp at hlen; omega, tokens_conds_iff.mp htok⟩
  · rintro ⟨rfl, hsep⟩
    have hupd := @Update_eq table _ _ _ _ _ _ hk hv hsk hsv hpos (Nat.le_refl _)
    rw [List.take_of_length_le (Nat.le_of_eq hsk),
      List.take_of_length_le (Nat.le_of_eq hsv)] at hupd
    exact ⟨_, hupd, tokens_conds_iff.mpr hsep⟩

end Meanings

end JiraGame.StatementShapes
