import Mathlib.Algebra.Group.Nat.Defs
import Mathlib.Algebra.Ring.Int.Defs
import Mathlib.Data.List.Basic
import Mathlib.Data.PNat.Defs

namespace JiraGame.Lib.ProtoWire

abbrev Bytes := List UInt8

/-- Groups of seven bits, lowest first. -/
def writeGroups : Nat → Nat → Bytes
  | 0, n => [UInt8.ofNat n]
  | k + 1, n =>
    if n < 128 then [UInt8.ofNat n] else UInt8.ofNat (n % 128 + 128) :: writeGroups k (n / 128)

/-- A varint. Every byte but the last has its high bit set; a number has fewer
groups than its own value. -/
def writeVarint (n : Nat) : Bytes := writeGroups n n

def readVarint : Bytes → Option (Nat × Bytes)
  | [] => none
  | b :: bs =>
    if b.toNat < 128 then some (b.toNat, bs)
    else (readVarint bs).map fun x => (b.toNat - 128 + 128 * x.1, x.2)

def writeFixed : Nat → Nat → Bytes
  | 0, _ => []
  | k + 1, n => UInt8.ofNat n :: writeFixed k (n / 256)

def readFixed : Nat → Bytes → Option (Nat × Bytes)
  | 0, bs => some (0, bs)
  | _ + 1, [] => none
  | k + 1, b :: bs => (readFixed k bs).map fun x => (b.toNat + 256 * x.1, x.2)

/-- A group is kept as it is written: the fields in it, and the tag that ends it. -/
inductive Payload
  | varint (n : Nat)
  | fixed64 (v : UInt64)
  | bytes (bs : Bytes)
  | group (body : Bytes)
  | fixed32 (v : UInt32)
deriving DecidableEq

/-- A message travels as a sequence of numbered fields, with no mark of where it
begins or ends. -/
structure Field where
  number : PNat
  payload : Payload
deriving DecidableEq

def Payload.wireType : Payload → Nat
  | .varint _ => 0
  | .fixed64 _ => 1
  | .bytes _ => 2
  | .group _ => 3
  | .fixed32 _ => 5

def Payload.write : Payload → Bytes
  | .varint n => writeVarint n
  | .fixed64 v => writeFixed 8 v.toNat
  | .bytes bs => writeVarint bs.length ++ bs
  | .group body => body
  | .fixed32 v => writeFixed 4 v.toNat

def writeField (f : Field) : Bytes :=
  writeVarint (8 * f.number + f.payload.wireType) ++ f.payload.write

/-- `group` reads the rest of a group with this field number. -/
def readPayload (group : Nat → Bytes → Option (Bytes × Bytes)) (number wireType : Nat) (bs : Bytes) :
    Option (Payload × Bytes) :=
  match wireType with
  | 0 => (readVarint bs).map fun x => (.varint x.1, x.2)
  | 1 => (readFixed 8 bs).map fun x => (.fixed64 (UInt64.ofNat x.1), x.2)
  | 2 => (readVarint bs).bind fun x =>
    if x.1 ≤ x.2.length then some (.bytes (x.2.take x.1), x.2.drop x.1) else none
  | 3 => (group number bs).map fun x => (.group x.1, x.2)
  | 5 => (readFixed 4 bs).map fun x => (.fixed32 (UInt32.ofNat x.1), x.2)
  | _ => none

def readTagged (group : Nat → Bytes → Option (Bytes × Bytes)) (tag : Nat) (bs : Bytes) :
    Option (Field × Bytes) :=
  if h : 0 < tag / 8 then
    (readPayload group (tag / 8) (tag % 8) bs).map fun x => (⟨⟨tag / 8, h⟩, x.1⟩, x.2)
  else none

/-- The fields of a group up to the tag that ends it. Groups may be nested; `k` bounds
how deep and how many. -/
def readGroup : Nat → Nat → Bytes → Option (Bytes × Bytes)
  | 0, _, _ => none
  | k + 1, number, bs =>
    (readVarint bs).bind fun tag =>
      if tag.1 = 8 * number + 4 then some (writeVarint tag.1, tag.2)
      else (readTagged (readGroup k) tag.1 tag.2).bind fun f =>
        (readGroup k number f.2).map fun rest => (writeField f.1 ++ rest.1, rest.2)

/-- A group takes at least one byte for each of its fields. -/
def readField (bs : Bytes) : Option (Field × Bytes) :=
  (readVarint bs).bind fun tag => readTagged (readGroup bs.length) tag.1 tag.2

def writeFields (fs : List Field) : Bytes := fs.flatMap writeField

/-- The fields up to the first that cannot be read; a field takes at least one
of the `k` bytes. -/
def readUpTo : Nat → Bytes → List Field × Bool
  | _, [] => ([], true)
  | 0, _ :: _ => ([], false)
  | k + 1, b :: bs =>
    match readField (b :: bs) with
    | none => ([], false)
    | some (f, rest) => (f :: (readUpTo k rest).1, (readUpTo k rest).2)

/-- What a parse sees, and whether it got to the end. -/
def readFields (bs : Bytes) : List Field × Bool := readUpTo bs.length bs

section Numbers

theorem readVarint_writeGroups {k n : Nat} (h : n < 128 ^ (k + 1)) (bs : Bytes) :
    readVarint (writeGroups k n ++ bs) = some (n, bs) := by
  induction k generalizing n with
  | zero =>
    have hn : n < 128 := by simpa using h
    simp [writeGroups, readVarint, Nat.mod_eq_of_lt (show n < 256 by omega), hn]
  | succ k ih =>
    by_cases hn : n < 128
    · simp [writeGroups, readVarint, Nat.mod_eq_of_lt (show n < 256 by omega), hn]
    · have hdiv : n / 128 < 128 ^ (k + 1) := by
        rw [Nat.div_lt_iff_lt_mul (by decide)]
        rwa [Nat.pow_succ] at h
      have hbyte : (UInt8.ofNat (n % 128 + 128)).toNat = n % 128 + 128 := by
        rw [UInt8.toNat_ofNat']
        omega
      rw [writeGroups, if_neg hn, List.cons_append, readVarint, hbyte, if_neg (by omega), ih hdiv,
        Option.map_some, Nat.add_sub_cancel, Nat.mod_add_div]

theorem readVarint_writeVarint (n : Nat) (bs : Bytes) :
    readVarint (writeVarint n ++ bs) = some (n, bs) := by
  refine readVarint_writeGroups ?_ bs
  calc n < 128 ^ n := Nat.lt_pow_self (by decide)
    _ ≤ 128 ^ (n + 1) := Nat.pow_le_pow_right (by decide) (Nat.le_succ n)

theorem writeGroups_ne_nil (k n : Nat) : writeGroups k n ≠ [] := by
  cases k with
  | zero => exact List.cons_ne_nil _ _
  | succ k =>
    rw [writeGroups]
    split <;> exact List.cons_ne_nil _ _

theorem length_writeVarint_pos (n : Nat) : 0 < (writeVarint n).length :=
  List.length_pos_of_ne_nil (writeGroups_ne_nil n n)

theorem length_writeVarint_of_lt {n : Nat} (h : n < 128) : (writeVarint n).length = 1 := by
  cases n with
  | zero => rfl
  | succ n => rw [writeVarint, writeGroups, if_pos h, List.length_singleton]

theorem length_writeVarint_of_le {n : Nat} (h : 128 ≤ n) :
    (writeVarint n).length = (writeGroups (n - 1) (n / 128)).length + 1 := by
  obtain ⟨k, rfl⟩ : ∃ k, n = k + 1 := ⟨n - 1, by omega⟩
  rw [writeVarint, writeGroups, if_neg (by omega), List.length_cons, Nat.add_sub_cancel]

theorem length_writeGroups_le {j k n : Nat} (h : n < 128 ^ (j + 1)) :
    (writeGroups k n).length ≤ j + 1 := by
  induction j generalizing k n with
  | zero =>
    have hn : n < 128 := by simpa using h
    cases k with
    | zero => exact Nat.le_refl 1
    | succ k => rw [writeGroups, if_pos hn, List.length_singleton]
  | succ j ih =>
    cases k with
    | zero => exact Nat.le_add_left 1 (j + 1)
    | succ k =>
      have hdiv : n / 128 < 128 ^ (j + 1) := by
        rw [Nat.div_lt_iff_lt_mul (by decide)]
        rwa [Nat.pow_succ] at h
      have hrest := ih (k := k) hdiv
      rw [writeGroups]
      split
      · exact Nat.le_add_left 1 (j + 1)
      · rw [List.length_cons]
        omega

theorem length_writeVarint_le {n : Nat} (j : Nat) (h : n < 128 ^ (j + 1)) :
    (writeVarint n).length ≤ j + 1 := length_writeGroups_le h

theorem two_le_length_writeVarint {n : Nat} (h : 128 ≤ n) : 2 ≤ (writeVarint n).length := by
  have hpos := List.length_pos_of_ne_nil (writeGroups_ne_nil (n - 1) (n / 128))
  rw [length_writeVarint_of_le h]
  omega

theorem length_writeFixed (k n : Nat) : (writeFixed k n).length = k := by
  induction k generalizing n with
  | zero => rfl
  | succ k ih => rw [writeFixed, List.length_cons, ih]

theorem readFixed_writeFixed {k n : Nat} (h : n < 256 ^ k) (bs : Bytes) :
    readFixed k (writeFixed k n ++ bs) = some (n, bs) := by
  induction k generalizing n with
  | zero =>
    have hn : n = 0 := by simpa using h
    rw [hn]
    rfl
  | succ k ih =>
    have hdiv : n / 256 < 256 ^ k := by
      rw [Nat.div_lt_iff_lt_mul (by decide)]
      rwa [Nat.pow_succ] at h
    rw [writeFixed, List.cons_append, readFixed, ih hdiv, Option.map_some, UInt8.toNat_ofNat',
      Nat.mod_add_div]

end Numbers

theorem wireType_lt (p : Payload) : p.wireType < 8 := by
  cases p <;> simp [Payload.wireType]

theorem wireType_ne (p : Payload) : p.wireType ≠ 4 := by
  cases p <;> simp [Payload.wireType]

section Groups

/-- What is between the tags of a group is a group. -/
def Field.closed (f : Field) : Bool :=
  match f.payload with
  | .group body => readGroup body.length f.number body = some (body, [])
  | _ => true

variable {group : Nat → Bytes → Option (Bytes × Bytes)}

theorem readPayload_write {n : Nat} {p : Payload} {bs : Bytes}
    (h : ∀ body, p = .group body → group n (body ++ bs) = some (body, bs)) :
    readPayload group n p.wireType (p.write ++ bs) = some (p, bs) := by
  cases p with
  | varint n => simp [readPayload, Payload.wireType, Payload.write, readVarint_writeVarint]
  | fixed64 v =>
    have hv : v.toNat < 256 ^ 8 := v.toNat_lt
    simp [readPayload, Payload.wireType, Payload.write, readFixed_writeFixed hv]
  | bytes b =>
    simp [readPayload, Payload.wireType, Payload.write, List.append_assoc, readVarint_writeVarint]
  | group body => simp [readPayload, Payload.wireType, Payload.write, h body rfl]
  | fixed32 v =>
    have hv : v.toNat < 256 ^ 4 := v.toNat_lt
    simp [readPayload, Payload.wireType, Payload.write, readFixed_writeFixed hv]

theorem readTagged_write {f : Field} {bs : Bytes}
    (h : ∀ body, f.payload = .group body → group f.number (body ++ bs) = some (body, bs)) :
    readTagged group (8 * f.number + f.payload.wireType) (f.payload.write ++ bs) = some (f, bs) := by
  have hw := wireType_lt f.payload
  have hnum : (8 * (f.number : Nat) + f.payload.wireType) / 8 = f.number := by omega
  have htype : (8 * (f.number : Nat) + f.payload.wireType) % 8 = f.payload.wireType := by omega
  rw [readTagged]
  simp only [hnum, htype, readPayload_write h, f.number.pos, dif_pos, Option.map_some]
  rfl

/-- A field that is read has a group of its own number, if any. -/
theorem group_of_readTagged {tag : Nat} {bs rest : Bytes} {f : Field} {body : Bytes}
    (h : readTagged group tag bs = some (f, rest)) (hf : f.payload = .group body) :
    group f.number bs = some (body, rest) := by
  rw [readTagged] at h
  split at h
  · obtain ⟨⟨p, rest'⟩, hp, he⟩ := Option.map_eq_some_iff.mp h
    cases he
    dsimp only at hf ⊢
    subst hf
    unfold readPayload at hp
    split at hp
    · obtain ⟨x, -, hx⟩ := Option.map_eq_some_iff.mp hp
      cases hx
    · obtain ⟨x, -, hx⟩ := Option.map_eq_some_iff.mp hp
      cases hx
    · obtain ⟨x, -, hx⟩ := Option.bind_eq_some_iff.mp hp
      split at hx <;> cases hx
    · obtain ⟨⟨b, r⟩, hx, he⟩ := Option.map_eq_some_iff.mp hp
      cases he
      exact hx
    · obtain ⟨x, -, hx⟩ := Option.map_eq_some_iff.mp hp
      cases hx
    · cases hp
  · cases h

theorem readGroup_again {k n : Nat} {bs body rest : Bytes}
    (h : readGroup k n bs = some (body, rest)) {j : Nat} (hj : body.length ≤ j) (y : Bytes) :
    readGroup j n (body ++ y) = some (body, y) := by
  induction k generalizing n bs body rest j y with
  | zero => cases h
  | succ k ih =>
    rw [readGroup] at h
    obtain ⟨tag, htag, h⟩ := Option.bind_eq_some_iff.mp h
    split at h
    · rename_i hend
      cases h
      have hpos := length_writeVarint_pos tag.1
      obtain ⟨i, rfl⟩ : ∃ i, j = i + 1 := ⟨j - 1, by omega⟩
      rw [readGroup, readVarint_writeVarint, Option.bind_some, if_pos hend]
    · obtain ⟨⟨f, bs'⟩, hf, h⟩ := Option.bind_eq_some_iff.mp h
      obtain ⟨⟨body', rest'⟩, hrest, he⟩ := Option.map_eq_some_iff.mp h
      cases he
      have hpos := length_writeVarint_pos (8 * f.number + f.payload.wireType)
      have hlen : (writeField f).length =
          (writeVarint (8 * f.number + f.payload.wireType)).length + f.payload.write.length :=
        List.length_append
      dsimp only at hrest hj ⊢
      rw [List.length_append, hlen] at hj
      obtain ⟨i, rfl⟩ : ∃ i, j = i + 1 := ⟨j - 1, by omega⟩
      have hw := wireType_lt f.payload
      have hne := wireType_ne f.payload
      rw [List.append_assoc, writeField, List.append_assoc, readGroup, readVarint_writeVarint,
        Option.bind_some, if_neg (by omega), readTagged_write, Option.bind_some,
        ih hrest (by omega) y, Option.map_some]
      · rfl
      · -- the groups inside are written as they were read, too
        intro b hb
        have hbody : f.payload.write.length = b.length := by rw [hb, Payload.write]
        exact ih (group_of_readTagged hf hb) (by omega) _

theorem readGroup_closed {f : Field} (h : f.closed = true) {body : Bytes}
    (hf : f.payload = .group body) {j : Nat} (hj : body.length ≤ j) (y : Bytes) :
    readGroup j f.number (body ++ y) = some (body, y) := by
  simp only [Field.closed, hf, decide_eq_true_eq] at h
  exact readGroup_again h hj y

theorem closed_of_readField {bs rest : Bytes} {f : Field} (h : readField bs = some (f, rest)) :
    f.closed = true := by
  obtain ⟨tag, -, h⟩ := Option.bind_eq_some_iff.mp h
  rw [Field.closed]
  split
  · rename_i body hf
    have hread := readGroup_again (group_of_readTagged h hf) (Nat.le_refl _) []
    rw [List.append_nil] at hread
    exact decide_eq_true hread
  · rfl

theorem readField_writeField {f : Field} (h : f.closed = true) (bs : Bytes) :
    readField (writeField f ++ bs) = some (f, bs) := by
  rw [readField, writeField, List.append_assoc, readVarint_writeVarint, Option.bind_some]
  refine readTagged_write fun body hf => readGroup_closed h hf ?_ bs
  rw [hf, Payload.write]
  simp only [List.length_append]
  omega

end Groups

theorem writeField_ne_nil (f : Field) : writeField f ≠ [] :=
  fun h => writeGroups_ne_nil _ _ (List.append_eq_nil_iff.mp h).1

@[simp] theorem writeFields_nil : writeFields [] = [] := rfl

theorem writeFields_cons (f : Field) (fs : List Field) :
    writeFields (f :: fs) = writeField f ++ writeFields fs := rfl

theorem length_le_writeFields (fs : List Field) : fs.length ≤ (writeFields fs).length := by
  induction fs with
  | nil => exact Nat.le_refl _
  | cons f fs ih =>
    have hf := List.length_pos_of_ne_nil (writeField_ne_nil f)
    rw [writeFields_cons, List.length_cons, List.length_append]
    omega

theorem readUpTo_writeFields {k : Nat} {fs : List Field} (hc : ∀ f ∈ fs, f.closed = true)
    (h : fs.length ≤ k) : readUpTo k (writeFields fs) = (fs, true) := by
  induction fs generalizing k with
  | nil => cases k <;> rfl
  | cons f fs ih =>
    obtain ⟨k, rfl⟩ : ∃ j, k = j + 1 := ⟨k - 1, by rw [List.length_cons] at h; omega⟩
    obtain ⟨b, bs, hb⟩ := List.exists_cons_of_ne_nil (writeField_ne_nil f)
    have hread := readField_writeField (hc f List.mem_cons_self) (writeFields fs)
    have hrest := ih (fun g hg => hc g (List.mem_cons_of_mem _ hg)) (Nat.le_of_succ_le_succ h)
    rw [hb, List.cons_append] at hread
    rw [writeFields_cons, hb, List.cons_append, readUpTo, hread]
    simp only [hrest]

/-- Written fields are read back, also when several messages are written one
after the other: the bytes are those of all their fields. -/
theorem readFields_writeFields {fs : List Field} (hc : ∀ f ∈ fs, f.closed = true) :
    readFields (writeFields fs) = (fs, true) :=
  readUpTo_writeFields hc (length_le_writeFields fs)

theorem closed_of_readFields {bs : Bytes} : ∀ f ∈ (readFields bs).1, f.closed = true := by
  have hall : ∀ (k : Nat) (bs : Bytes), ∀ f ∈ (readUpTo k bs).1, f.closed = true := by
    intro k
    induction k with
    | zero =>
      intro bs f hf
      cases bs <;> cases hf
    | succ k ih =>
      intro bs f hf
      cases bs with
      | nil => cases hf
      | cons b bs =>
        rw [readUpTo] at hf
        cases hread : readField (b :: bs) with
        | none =>
          rw [hread] at hf
          cases hf
        | some x =>
          rw [hread] at hf
          obtain rfl | hf := List.mem_cons.mp hf
          · exact closed_of_readField hread
          · exact ih x.2 f hf
  exact hall _ _

end JiraGame.Lib.ProtoWire
