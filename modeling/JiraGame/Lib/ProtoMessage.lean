import JiraGame.Lib.Keyed
import JiraGame.Lib.ProtoWire
import Mathlib.Algebra.GroupWithZero.Nat

namespace JiraGame.Lib.ProtoMessage

open JiraGame.Lib.ProtoWire JiraGame.Lib.Keyed

/-- How the values of one field travel. What is read may depend on the value that
is there already, because a message inside a message is merged into it. A value is
ready when the required fields in it are there. A payload that is no value of the
field is kept among the unknown fields, as `stray` has it. -/
structure Value (α : Type) where
  fits : α → Bool
  ready : α → Bool
  write : α → Payload
  read : Option α → Payload → Option α
  stray : Payload → Option Payload
  join : Option α → α → α
  read_write : ∀ old a, fits a = true → read old (write a) = some (join old a)
  flat : ∀ a, (write a).wireType ≠ 3
  stray_write : ∀ a, fits a = true → stray (write a) = none
  stray_stray : ∀ x y, stray x = some y → stray y = some y ∧ (y = x ∨ ∃ n, y = .varint n)

namespace Value

variable {α : Type}

def other (wireType : Nat) (x : Payload) : Option Payload :=
  if x.wireType = wireType then none else some x

theorem other_other (w : Nat) (x y : Payload) (h : other w x = some y) :
    other w y = some y ∧ (y = x ∨ ∃ n, y = .varint n) := by
  rw [other] at h
  split at h
  · cases h
  · rename_i hw
    cases h
    exact ⟨if_neg hw, .inl rfl⟩

/-- A new value takes the place of the old one, and a payload that is no value
leaves the old one. -/
def scalar (wireType : Nat) (fits : α → Bool) (write : α → Payload) (read : Payload → Option α)
    (hw : ∀ a, (write a).wireType = wireType) (hflat : wireType ≠ 3)
    (h : ∀ a, fits a = true → read (write a) = some a) : Value α where
  fits := fits
  ready _ := true
  write := write
  read old x := (read x).or old
  stray := other wireType
  join _ a := a
  read_write old a ha := by rw [h a ha, Option.some_or]
  flat a := by rwa [hw a]
  stray_write a _ := if_pos (hw a)
  stray_stray := other_other wireType

/-- The value after a message whose field is `new`. -/
def update (v : Value α) (old new : Option α) : Option α :=
  match new with
  | some a => some (v.join old a)
  | none => old

/-- Signs are extended to 64 bits. -/
def int32 : Value Int :=
  scalar 0 (fun i => -2 ^ 31 ≤ i && i < 2 ^ 31) (fun i => .varint (i % 2 ^ 64).toNat)
    (fun
      | .varint n => some ((n : Int).bmod (2 ^ 32))
      | _ => none)
    (fun _ => rfl) (by decide) (by
      intro i hi
      simp only [Bool.and_eq_true, decide_eq_true_eq] at hi
      simp only [Option.some.injEq, Int.bmod_def]
      omega)

def bits32 : Value Nat :=
  scalar 0 (fun n => n < 2 ^ 32)
    (fun n => .varint (if n < 2 ^ 31 then n else n + (2 ^ 64 - 2 ^ 32)))
    (fun
      | .varint n => some (n % 2 ^ 32)
      | _ => none)
    (fun _ => rfl) (by decide) (by
      intro n hn
      simp only [decide_eq_true_eq] at hn
      simp only [Option.some.injEq]
      split <;> omega)

def bool : Value Bool :=
  scalar 0 (fun _ => true) (fun b => .varint b.toNat)
    (fun
      | .varint n => some (n != 0)
      | _ => none)
    (fun _ => rfl) (by decide) (by
      intro b _
      cases b <;> rfl)

def float : Value UInt32 :=
  scalar 5 (fun _ => true) .fixed32
    (fun
      | .fixed32 v => some v
      | _ => none)
    (fun _ => rfl) (by decide) (fun _ _ => rfl)

def string : Value String :=
  scalar 2 (fun _ => true) (fun s => .bytes s.toByteArray.data.toList)
    (fun
      | .bytes bs => String.fromUTF8? ⟨⟨bs⟩⟩
      | _ => none)
    (fun _ => rfl) (by decide) (fun s _ => dif_pos s.isValidUTF8)

section Enum

/-- The lower 32 bits of a number, with their sign extended to 64 bits. -/
def signed (n : Nat) : Nat :=
  if n % 2 ^ 32 < 2 ^ 31 then n % 2 ^ 32 else n % 2 ^ 32 + (2 ^ 64 - 2 ^ 32)

theorem signed_mod (n : Nat) : signed n % 2 ^ 32 = n % 2 ^ 32 := by
  rw [signed]
  split <;> omega

theorem signed_signed (n : Nat) : signed (signed n) = signed n := by
  rw [signed, signed_mod]
  rfl

/-- The enumerator with a number, of which 32 bits are looked at. -/
def numbered (number : α → Nat) (all : List α) (n : Nat) : Option α :=
  all.find? fun b => number b = n % 2 ^ 32

/-- An unknown number is kept among the unknown fields. -/
def strayEnum (number : α → Nat) (all : List α) : Payload → Option Payload
  | .varint n => if (numbered number all n).isSome then none else some (.varint (signed n))
  | x => some x

theorem strayEnum_strayEnum {number : α → Nat} {all : List α} (x y : Payload)
    (h : strayEnum number all x = some y) :
    strayEnum number all y = some y ∧ (y = x ∨ ∃ n, y = .varint n) := by
  cases x with
  | varint n =>
    rw [strayEnum] at h
    split at h
    · cases h
    · rename_i hno
      cases h
      refine ⟨?_, .inr ⟨_, rfl⟩⟩
      rw [numbered] at hno
      rw [strayEnum, numbered, signed_mod, if_neg hno, signed_signed]
  | fixed64 | bytes | group | fixed32 =>
    cases h
    exact ⟨rfl, .inl rfl⟩

/-- One of `all`, by its number. -/
def enum [DecidableEq α] (number : α → Nat) (all : List α) : Value α where
  fits a := numbered number all (number a) = some a
  ready _ := true
  write a := .varint (number a)
  read old
    | .varint n => (numbered number all n).or old
    | _ => old
  stray := strayEnum number all
  join _ a := a
  read_write old a h := by
    rw [decide_eq_true_eq] at h
    simp only [h, Option.some_or]
  flat _ := nofun
  stray_write a h := by
    rw [decide_eq_true_eq] at h
    rw [strayEnum, h]
    rfl
  stray_stray := strayEnum_strayEnum

end Enum

@[simp] theorem ready_int32 (i : Int) : int32.ready i = true := rfl

@[simp] theorem ready_bits32 (n : Nat) : bits32.ready n = true := rfl

@[simp] theorem ready_bool (b : Bool) : bool.ready b = true := rfl

@[simp] theorem ready_float (x : UInt32) : float.ready x = true := rfl

@[simp] theorem ready_string (s : String) : string.ready s = true := rfl

@[simp] theorem ready_enum [DecidableEq α] (number : α → Nat) (all : List α) (a : α) :
    (enum number all).ready a = true := rfl

def IsInt32 (i : Int) : Prop := -2 ^ 31 ≤ i ∧ i < 2 ^ 31

@[simp] theorem fits_int32 (i : Int) : int32.fits i = true ↔ IsInt32 i := by
  simp [int32, scalar, IsInt32]

@[simp] theorem fits_bits32 (n : Nat) : bits32.fits n = true ↔ n < 2 ^ 32 := by
  simp [bits32, scalar]

@[simp] theorem fits_bool (b : Bool) : bool.fits b = true := rfl

@[simp] theorem fits_float (x : UInt32) : float.fits x = true := rfl

@[simp] theorem fits_string (s : String) : string.fits s = true := rfl

/-- Whatever is read into a value has the property when the value had it. -/
def Keeps (v : Value α) (Q : α → Prop) : Prop :=
  ∀ old x, (∀ a ∈ old, Q a) → ∀ a ∈ v.read old x, Q a

theorem keeps_scalar {Q : α → Prop} {w : Nat} {fits : α → Bool} {write : α → Payload}
    {read : Payload → Option α} {hw : ∀ a, (write a).wireType = w} {hflat : w ≠ 3}
    {h : ∀ a, fits a = true → read (write a) = some a} (hread : ∀ x, ∀ a ∈ read x, Q a) :
    (scalar w fits write read hw hflat h).Keeps Q := by
  intro old x hold a ha
  obtain hx | ⟨-, hx⟩ := Option.or_eq_some_iff.mp ha
  · exact hread x a hx
  · exact hold a hx

theorem keeps_int32 : int32.Keeps IsInt32 := by
  refine keeps_scalar fun x a ha => ?_
  cases x with
  | varint n =>
    obtain rfl : (n : Int).bmod (2 ^ 32) = a := Option.some.inj ha
    simp only [IsInt32, Int.bmod_def]
    omega
  | fixed64 | bytes | group | fixed32 => cases ha

theorem keeps_bits32 : bits32.Keeps fun n => n < 2 ^ 32 := by
  refine keeps_scalar fun x a ha => ?_
  cases x with
  | varint n =>
    cases ha
    exact Nat.mod_lt _ (by decide)
  | fixed64 | bytes | group | fixed32 => cases ha

theorem update_none {v : Value α} (h : ∀ a, v.join none a = a) (o : Option α) :
    v.update none o = o := by
  cases o with
  | none => rfl
  | some a => exact congrArg some (h a)

def size (v : Value α) (a : α) : Nat := (v.write a).write.length

theorem size_bool (b : Bool) : Value.bool.size b = 1 := by
  cases b <;> rfl

theorem size_float (x : UInt32) : Value.float.size x = 4 := length_writeFixed 4 x.toNat

theorem size_string (s : String) : Value.string.size s =
    (writeVarint s.utf8ByteSize).length + s.utf8ByteSize := by
  have hbytes : s.toByteArray.data.toList.length = s.utf8ByteSize := by simp
  have hsize : Value.string.size s = (Payload.bytes s.toByteArray.data.toList).write.length := rfl
  rw [hsize, Payload.write, List.length_append, hbytes]

end Value

/-- One field of a message on the wire, with what a message does to the field of
another one that it is read into. -/
structure Slot (M : Type) where
  number : PNat
  fits : M → Bool
  ready : M → Bool
  emit : M → List Payload
  absorb : M → Payload → M
  stray : Payload → Option Payload
  join : M → M → M
  absorb_emit : ∀ acc m, fits m = true → (emit m).foldl absorb acc = join acc m
  flat : ∀ m, ∀ x ∈ emit m, x.wireType ≠ 3
  stray_emit : ∀ m, fits m = true → ∀ x ∈ emit m, stray x = none
  stray_stray : ∀ x y, stray x = some y → stray y = some y ∧ (y = x ∨ ∃ n, y = .varint n)

section Slots

variable {M α : Type}

/-- The slot of a singular field that a record keeps with its has-bit. -/
def singular (required : Bool) (n : PNat) (v : Value α) (get : M → Option α)
    (put : Option α → M → M) (put_get : ∀ m, put (get m) m = m) : Slot M where
  number := n
  fits m := (get m).elim (!required) v.fits
  ready m := (get m).elim (!required) v.ready
  emit m := ((get m).map v.write).toList
  absorb m x := put (v.read (get m) x) m
  stray := v.stray
  join acc m := put (v.update (get acc) (get m)) acc
  absorb_emit acc m h := by
    cases hm : get m with
    | none => simp [Value.update, put_get]
    | some a =>
      rw [hm] at h
      simp [Value.update, v.read_write (get acc) a h]
  flat m x hx := by
    obtain ⟨a, -, rfl⟩ := Option.map_eq_some_iff.mp (Option.mem_toList.mp hx)
    exact v.flat a
  stray_emit m h x hx := by
    obtain ⟨a, ha, rfl⟩ := Option.map_eq_some_iff.mp (Option.mem_toList.mp hx)
    rw [ha] at h
    exact v.stray_write a h
  stray_stray := v.stray_stray

def required (n : PNat) (v : Value α) (get : M → Option α) (put : Option α → M → M)
    (put_get : ∀ m, put (get m) m = m) : Slot M :=
  singular true n v get put put_get

def optional (n : PNat) (v : Value α) (get : M → Option α) (put : Option α → M → M)
    (put_get : ∀ m, put (get m) m = m) : Slot M :=
  singular false n v get put put_get

/-- The slot of a repeated field; a value that is read is added at the end. -/
def repeated (n : PNat) (v : Value α) (get : M → List α) (put : List α → M → M)
    (put_get : ∀ m, put (get m) m = m) (get_put : ∀ l m, get (put l m) = l)
    (put_put : ∀ l l' m, put l' (put l m) = put l' m) : Slot M where
  number := n
  fits m := (get m).all v.fits
  ready m := (get m).all v.ready
  emit m := (get m).map v.write
  absorb m x :=
    match v.read none x with
    | some a => put (get m ++ [a]) m
    | none => m
  stray := v.stray
  join acc m := put (get acc ++ (get m).map (v.join none)) acc
  absorb_emit acc m h := by
    induction hl : get m generalizing acc m with
    | nil => simp [put_get]
    | cons a l ih =>
      rw [hl, List.all_cons, Bool.and_eq_true] at h
      have hrest := ih (put (get acc ++ [v.join none a]) acc) (put l m)
        (by rw [get_put]; exact h.2) (get_put l m)
      rw [List.map_cons, List.foldl_cons, v.read_write none a h.1]
      simp only
      rw [hrest, get_put, put_put]
      simp
  flat m x hx := by
    obtain ⟨a, -, rfl⟩ := List.mem_map.mp hx
    exact v.flat a
  stray_emit m h x hx := by
    obtain ⟨a, ha, rfl⟩ := List.mem_map.mp hx
    exact v.stray_write a (List.all_eq_true.mp h a ha)
  stray_stray := v.stray_stray

section Ready

variable {n : PNat} {v : Value α}

@[simp] theorem ready_required {get : M → Option α} {put : Option α → M → M}
    {h : ∀ m, put (get m) m = m} (m : M) :
    (required n v get put h).ready m = (get m).any v.ready := by
  rw [required]
  cases hm : get m <;> simp [singular, hm]

@[simp] theorem ready_optional {get : M → Option α} {put : Option α → M → M}
    {h : ∀ m, put (get m) m = m} (m : M) :
    (ProtoMessage.optional n v get put h).ready m = (get m).all v.ready := by
  rw [ProtoMessage.optional]
  cases hm : get m <;> simp [singular, hm]

@[simp] theorem ready_repeated {get : M → List α} {put : List α → M → M}
    {h : ∀ m, put (get m) m = m} {h' : ∀ l m, get (put l m) = l}
    {h'' : ∀ l l' m, put l' (put l m) = put l' m} (m : M) :
    (repeated n v get put h h' h'').ready m = (get m).all v.ready := rfl

end Ready

section Fits

variable {n : PNat} {v : Value α}

@[simp] theorem fits_required {get : M → Option α} {put : Option α → M → M}
    {h : ∀ m, put (get m) m = m} (m : M) :
    (required n v get put h).fits m = (get m).any v.fits := by
  rw [required]
  cases hm : get m <;> simp [singular, hm]

@[simp] theorem fits_optional {get : M → Option α} {put : Option α → M → M}
    {h : ∀ m, put (get m) m = m} (m : M) :
    (ProtoMessage.optional n v get put h).fits m = (get m).all v.fits := by
  rw [ProtoMessage.optional]
  cases hm : get m <;> simp [singular, hm]

@[simp] theorem fits_repeated {get : M → List α} {put : List α → M → M}
    {h : ∀ m, put (get m) m = m} {h' : ∀ l m, get (put l m) = l}
    {h'' : ∀ l l' m, put l' (put l m) = put l' m} (m : M) :
    (repeated n v get put h h' h'').fits m = (get m).all v.fits := rfl

end Fits

def Slot.size (t : Slot M) (m : M) : Nat :=
  ((t.emit m).map fun x => (writeField ⟨t.number, x⟩).length).sum

theorem length_tag {n : PNat} (hn : (n : Nat) < 16) (x : Payload) :
    (writeVarint (8 * n + x.wireType)).length = 1 := by
  have hw := wireType_lt x
  exact length_writeVarint_of_lt (by omega)

theorem length_tag_two {n : PNat} (h16 : 16 ≤ (n : Nat)) (hn : (n : Nat) < 2048) (x : Payload) :
    (writeVarint (8 * n + x.wireType)).length = 2 := by
  have hw := wireType_lt x
  have hle : (writeVarint (8 * n + x.wireType)).length ≤ 2 := length_writeVarint_le 1 (by omega)
  have hge : 2 ≤ (writeVarint (8 * n + x.wireType)).length := two_le_length_writeVarint (by omega)
  omega

variable {n : PNat} {v : Value α} {get : M → Option α} {put : Option α → M → M}
  {h : ∀ m, put (get m) m = m}

theorem size_singular {k : Nat} (hk : ∀ x : Payload, (writeVarint (8 * n + x.wireType)).length = k)
    (r : Bool) (m : M) :
    (singular r n v get put h).size m = (get m).elim 0 fun a => k + v.size a := by
  cases hm : get m with
  | none => simp [Slot.size, singular, hm]
  | some a => simp [Slot.size, singular, hm, writeField, Value.size, hk]

theorem size_required (hn : (n : Nat) < 16) (m : M) :
    (required n v get put h).size m = (get m).elim 0 fun a => 1 + v.size a :=
  size_singular (length_tag hn) true m

theorem size_optional (hn : (n : Nat) < 16) (m : M) :
    (optional n v get put h).size m = (get m).elim 0 fun a => 1 + v.size a :=
  size_singular (length_tag hn) false m

theorem size_optional_two (h16 : 16 ≤ (n : Nat)) (hn : (n : Nat) < 2048) (m : M) :
    (optional n v get put h).size m = (get m).elim 0 fun a => 2 + v.size a :=
  size_singular (length_tag_two h16 hn) false m

theorem size_repeated {get : M → List α} {put : List α → M → M} {h : ∀ m, put (get m) m = m}
    {h' : ∀ l m, get (put l m) = l} {h'' : ∀ l l' m, put l' (put l m) = put l' m}
    (hn : (n : Nat) < 16) (m : M) :
    (repeated n v get put h h' h'').size m = ((get m).map fun a => 1 + v.size a).sum := by
  simp [Slot.size, repeated, writeField, Value.size, Function.comp_def, length_tag hn]

end Slots

/-- A message without room for unknown fields drops them. -/
structure Schema (M : Type) where
  blank : M
  slots : List (Slot M)
  nodup : (slots.map Slot.number).Nodup
  unknown : M → List Field := fun _ => []
  addUnknown : List Field → M → M := fun _ m => m
  addUnknown_nil : ∀ m, addUnknown [] m = m := by intro m; rfl
  addUnknown_append : ∀ u v m, addUnknown (u ++ v) m = addUnknown v (addUnknown u m) := by
    intro u v m; rfl

namespace Schema

variable {M : Type} (S : Schema M)

/-- The field stays among the unknown ones when it is read. -/
def rejects (f : Field) : Bool :=
  match S.slots.find? fun t => t.number = f.number with
  | some t => t.stray f.payload = some f.payload
  | none => true

def foreign (fs : List Field) : Bool := fs.all fun f => S.rejects f && f.closed

/-- All required fields are there and every value fits its field. -/
def fits (m : M) : Bool := (S.slots.all fun t => t.fits m) && S.foreign (S.unknown m)

/-- All required fields are there, also inside. -/
def ready (m : M) : Bool := S.slots.all fun t => t.ready m

def fields (m : M) : List Field :=
  S.slots.flatMap fun t => (t.emit m).map fun x => ⟨t.number, x⟩

/-- The unknown fields are written last. -/
def encode (m : M) : Bytes := writeFields (S.fields m ++ S.unknown m)

/-- A field with an unknown number or a stray payload is an unknown field. -/
def set (m : M) (f : Field) : M :=
  match S.slots.find? fun t => t.number = f.number with
  | some t =>
    match t.stray f.payload with
    | some x => S.addUnknown [⟨f.number, x⟩] m
    | none => t.absorb m f.payload
  | none => S.addUnknown [f] m

/-- Read bytes into a message, up to the first field that cannot be read. A message
inside is read as far as that goes. -/
def absorb (m : M) (bs : Bytes) : M := (readFields bs).1.foldl S.set m

def parse (bs : Bytes) : M := S.absorb S.blank bs

def merge (acc m : M) : M :=
  S.addUnknown (S.unknown m) (S.slots.foldl (fun acc t => t.join acc m) acc)

variable {S}

theorem set_of_mem {t : Slot M} (ht : t ∈ S.slots) (acc : M) {x : Payload}
    (hx : t.stray x = none) : S.set acc ⟨t.number, x⟩ = t.absorb acc x := by
  have hfind := (find_iff S.nodup (x := t)).mpr ⟨ht, rfl⟩
  simp only [set, hfind, hx]

theorem set_of_rejects {f : Field} (h : S.rejects f = true) (acc : M) :
    S.set acc f = S.addUnknown [f] acc := by
  rw [rejects] at h
  rw [set]
  split at h
  · rw [decide_eq_true_eq] at h
    simp only [h]
  · rfl

theorem foldl_set {t : Slot M} (ht : t ∈ S.slots) {xs : List Payload}
    (hxs : ∀ x ∈ xs, t.stray x = none) (acc : M) :
    (xs.map fun x => (⟨t.number, x⟩ : Field)).foldl S.set acc = xs.foldl t.absorb acc := by
  induction xs generalizing acc with
  | nil => rfl
  | cons x xs ih =>
    rw [List.map_cons, List.foldl_cons, List.foldl_cons, set_of_mem ht acc (hxs x List.mem_cons_self)]
    exact ih (fun y hy => hxs y (List.mem_cons_of_mem _ hy)) _

theorem foldl_unknown {fs : List Field} (h : ∀ f ∈ fs, S.rejects f = true) (acc : M) :
    fs.foldl S.set acc = S.addUnknown fs acc := by
  induction fs generalizing acc with
  | nil => exact (S.addUnknown_nil acc).symm
  | cons f fs ih =>
    rw [List.foldl_cons, set_of_rejects (h f List.mem_cons_self),
      ih fun g hg => h g (List.mem_cons_of_mem _ hg), ← S.addUnknown_append, List.singleton_append]

theorem foreign_append {fs gs : List Field} (hf : S.foreign fs = true) (hg : S.foreign gs = true) :
    S.foreign (fs ++ gs) = true := by
  rw [foreign, List.all_append, Bool.and_eq_true]
  exact ⟨hf, hg⟩

theorem fits_of {m : M} (hslots : (S.slots.all fun t => t.fits m) = true)
    (hunknown : S.foreign (S.unknown m) = true) : S.fits m = true :=
  Bool.and_eq_true_iff.mpr ⟨hslots, hunknown⟩

section Fits

variable {m : M} (h : S.fits m = true)
include h

theorem fits_slot {t : Slot M} (ht : t ∈ S.slots) : t.fits m = true :=
  List.all_eq_true.mp (Bool.and_eq_true_iff.mp h).1 t ht

theorem fits_unknown {f : Field} (hf : f ∈ S.unknown m) :
    S.rejects f = true ∧ f.closed = true :=
  Bool.and_eq_true_iff.mp (List.all_eq_true.mp (Bool.and_eq_true_iff.mp h).2 f hf)

theorem closed_fields : ∀ f ∈ S.fields m ++ S.unknown m, f.closed = true := by
  intro f hf
  obtain hf | hf := List.mem_append.mp hf
  · obtain ⟨t, -, hf⟩ := List.mem_flatMap.mp hf
    obtain ⟨x, hx, rfl⟩ := List.mem_map.mp hf
    have hflat := t.flat m x hx
    cases x with
    | group => exact absurd rfl hflat
    | varint | fixed64 | bytes | fixed32 => rfl
  · exact (fits_unknown h hf).2

theorem foldl_fields (acc : M) :
    (S.fields m ++ S.unknown m).foldl S.set acc = S.merge acc m := by
  have hall : ∀ l : List (Slot M), (∀ t ∈ l, t ∈ S.slots) → ∀ acc : M,
      (l.flatMap fun t => (t.emit m).map fun x => (⟨t.number, x⟩ : Field)).foldl S.set acc =
        l.foldl (fun acc t => t.join acc m) acc := by
    intro l
    induction l with
    | nil => exact fun _ _ => rfl
    | cons t l ih =>
      intro hl acc
      have ht := hl t List.mem_cons_self
      have hfits := fits_slot h ht
      rw [List.flatMap_cons, List.foldl_append, foldl_set ht (t.stray_emit m hfits),
        t.absorb_emit acc m hfits, List.foldl_cons]
      exact ih (fun u hu => hl u (List.mem_cons_of_mem _ hu)) _
  rw [List.foldl_append, fields, hall S.slots (fun _ ht => ht) acc,
    foldl_unknown fun f hf => (fits_unknown h hf).1, merge]

theorem absorb_encode (acc : M) : S.absorb acc (S.encode m) = S.merge acc m := by
  rw [absorb, encode, readFields_writeFields (closed_fields h)]
  exact foldl_fields h acc

/-- A written message is read back, where merging it into the blank one gives it again. -/
theorem parse_encode (hmerge : S.merge S.blank m = m) : S.parse (S.encode m) = m := by
  rw [parse, absorb_encode h, hmerge]

end Fits

theorem length_encode (m : M) : (S.encode m).length =
    (S.slots.map fun t => t.size m).sum + (writeFields (S.unknown m)).length := by
  have hall : ∀ l : List (Slot M),
      (writeFields (l.flatMap fun t => (t.emit m).map fun x => (⟨t.number, x⟩ : Field))).length =
        (l.map fun t => t.size m).sum := by
    intro l
    induction l with
    | nil => rfl
    | cons t l ih =>
      have hslot : (writeFields ((t.emit m).map fun x => (⟨t.number, x⟩ : Field))).length =
          t.size m := by
        rw [writeFields, List.length_flatMap, List.map_map, Slot.size]
        rfl
      rw [List.flatMap_cons, writeFields, List.flatMap_append, List.length_append, List.map_cons,
        List.sum_cons, ← hslot, ← ih]
      rfl
  rw [encode, writeFields, List.flatMap_append, List.length_append]
  exact congrArg (· + _) (hall S.slots)

/-- What every field keeps, whatever is read into it, every parse has. -/
theorem absorb_keeps {Q : M → Prop} (hslots : ∀ t ∈ S.slots, ∀ m x, Q m → Q (t.absorb m x))
    (hunknown : ∀ m f, S.foreign [f] = true → Q m → Q (S.addUnknown [f] m)) {m : M}
    (hm : Q m) (bs : Bytes) : Q (S.absorb m bs) := by
  have hforeign : ∀ {f : Field}, S.rejects f = true → f.closed = true → S.foreign [f] = true := by
    intro f hf hclosed
    simp only [foreign, List.all_cons, List.all_nil, hf, hclosed, Bool.and_true]
  have hset : ∀ acc f, f.closed = true → Q acc → Q (S.set acc f) := by
    intro acc f hclosed hacc
    rw [set]
    split
    · rename_i t ht
      split
      · rename_i x hx
        obtain ⟨hx', hflat⟩ := t.stray_stray _ _ hx
        refine hunknown acc _ (hforeign ?_ ?_) hacc
        · simp only [rejects, ht, hx', decide_true]
        · obtain rfl | ⟨n, rfl⟩ := hflat
          · exact hclosed
          · rfl
      · exact hslots t (List.mem_of_find?_eq_some ht) acc f.payload hacc
    · rename_i hnone
      exact hunknown acc f (hforeign (by simp only [rejects, hnone]) hclosed) hacc
  have hall : ∀ (fs : List Field) (acc : M), (∀ f ∈ fs, f.closed = true) → Q acc →
      Q (fs.foldl S.set acc) := by
    intro fs
    induction fs with
    | nil => exact fun _ _ hacc => hacc
    | cons f fs ih =>
      intro acc hclosed hacc
      exact ih _ (fun g hg => hclosed g (List.mem_cons_of_mem _ hg))
        (hset acc f (hclosed f List.mem_cons_self) hacc)
  exact hall _ m closed_of_readFields hm

theorem foldl_flatMap_fields {ms : List M} (h : ∀ m ∈ ms, S.fits m = true) (acc : M) :
    (ms.flatMap fun m => S.fields m ++ S.unknown m).foldl S.set acc = ms.foldl S.merge acc := by
  induction ms generalizing acc with
  | nil => rfl
  | cons m ms ih =>
    rw [List.flatMap_cons, List.foldl_append, foldl_fields (h m List.mem_cons_self), List.foldl_cons]
    exact ih (fun x hx => h x (List.mem_cons_of_mem _ hx)) _

/-- Messages written one after the other are read as one message, the merge of
them all. -/
theorem parse_encodes {ms : List M} (h : ∀ m ∈ ms, S.fits m = true) :
    S.parse (ms.flatMap S.encode) = ms.foldl S.merge S.blank := by
  have hbytes : ms.flatMap S.encode = writeFields (ms.flatMap fun m => S.fields m ++ S.unknown m) :=
    List.flatMap_assoc.symm
  have hclosed : ∀ f ∈ ms.flatMap fun m => S.fields m ++ S.unknown m, f.closed = true := by
    intro f hf
    obtain ⟨m, hm, hf⟩ := List.mem_flatMap.mp hf
    exact closed_fields (h m hm) f hf
  rw [parse, absorb, hbytes, readFields_writeFields hclosed]
  exact foldl_flatMap_fields h S.blank

end Schema

def Schema.value {M : Type} (S : Schema M) : Value M where
  fits := S.fits
  ready := S.ready
  write m := .bytes (S.encode m)
  read old x :=
    match x with
    | .bytes bs => some (S.absorb (old.getD S.blank) bs)
    | _ => old
  stray := Value.other 2
  join old m := S.merge (old.getD S.blank) m
  read_write old m h := by simp only [Schema.absorb_encode h]
  flat _ := nofun
  stray_write _ _ := rfl
  stray_stray := Value.other_other 2

@[simp] theorem Schema.ready_value {M : Type} (S : Schema M) (m : M) : S.value.ready m = S.ready m :=
  rfl

@[simp] theorem Schema.fits_value {M : Type} (S : Schema M) (m : M) : S.value.fits m = S.fits m :=
  rfl

theorem Schema.keeps_value {M : Type} {S : Schema M} {Q : M → Prop} (hblank : Q S.blank)
    (hslots : ∀ t ∈ S.slots, ∀ m x, Q m → Q (t.absorb m x))
    (hunknown : ∀ m f, S.foreign [f] = true → Q m → Q (S.addUnknown [f] m)) :
    S.value.Keeps Q := by
  intro old x hold a ha
  cases x with
  | bytes bs =>
    cases ha
    refine absorb_keeps hslots hunknown ?_ bs
    cases old with
    | none => exact hblank
    | some m => exact hold m rfl
  | varint | fixed64 | group | fixed32 => exact hold a ha

def Schema.size {M : Type} (S : Schema M) (m : M) : Nat := (S.encode m).length

theorem Schema.size_value {M : Type} (S : Schema M) (m : M) :
    S.value.size m = (writeVarint (S.size m)).length + S.size m := by
  have hsize : S.value.size m = (Payload.bytes (S.encode m)).write.length := rfl
  rw [hsize, Payload.write, List.length_append, size]

end JiraGame.Lib.ProtoMessage
