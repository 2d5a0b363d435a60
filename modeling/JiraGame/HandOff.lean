import JiraGame.Delivery
import JiraGame.Session
import JiraGame.Lib.CharBuffer

namespace JiraGame.HandOff

open JiraGame.Scene JiraGame.Command JiraGame.DBServer JiraGame.Cache JiraGame.HallScene
open JiraGame.ServerState JiraGame.Server JiraGame.Encoding JiraGame.Session
open JiraGame.Delivery hiding WorkerThread
open JiraGame.Lib.ProtoWire JiraGame.Lib.CharBuffer

def SOCKET_ERROR : Int := -1

def WSAECONNRESET : Nat := 10054

/-- What a call of `recv` with a buffer of `MSGSIZE` bytes comes back with; after an
error, what `WSAGetLastError` answers. -/
inductive Recv
  | bytes (chunk : Chunk)
  | closed
  | failed (error : Nat)

namespace Recv

def ret : Recv → Int
  | .bytes chunk => chunk.bytes.length
  | .closed => 0
  | .failed _ => SOCKET_ERROR

/-- What the call leaves in the buffer. -/
def into (Buffer : CharArray MSGSIZE) : Recv → CharArray MSGSIZE
  | .bytes chunk => load chunk.bytes Buffer
  | _ => Buffer

/-- Where the worker puts the terminator. -/
def terminator (r : Recv) : Int := if MSGSIZE ≤ r.ret then (MSGSIZE : Int) - 1 else r.ret

def gone : Recv → Bool
  | .bytes chunk => chunk.bytes.length = 0
  | .closed => true
  | .failed error => error = WSAECONNRESET

end Recv

structure Inbox where
  revBuffer : CharArray MSGSIZE
  revBufferSize : Int

/-- The receiving part of a new entity; its size is not initialised. -/
def Inbox.fresh (junk : Int) : Inbox where
  revBuffer := fun _ => 0
  revBufferSize := junk

/-- What the worker does with one result of `recv`: the buffers it leaves, where it
writes the terminator, and the size it starts a parse with. -/
structure Turn where
  Buffer : CharArray MSGSIZE
  inbox : Option Inbox
  terminator : Option Int := none
  parsed : Option Int := none

/-- The copy into the entity and the call of `MsgDistribute`. -/
def enter (fill : Option UInt8) (r : Recv) (Buffer : CharArray MSGSIZE) (box : Inbox) : Turn :=
  (strcpy_s fill box.revBuffer Buffer).elim
    { Buffer := Buffer, inbox := some box, terminator := some r.terminator }
    fun revBuffer =>
      { Buffer := Buffer, inbox := some { revBuffer := revBuffer, revBufferSize := r.ret }
        terminator := some r.terminator, parsed := some r.ret }

/-- One turn of `WorkerThread` over a readable socket, with the entity of the socket
if there is one. -/
def handOff (fill : Option UInt8) (r : Recv) (Buffer : CharArray MSGSIZE) (inbox : Option Inbox) :
    Turn :=
  let Buffer := r.into Buffer
  if r.gone then { Buffer := Buffer, inbox := inbox }
  else
    let Buffer := store r.terminator 0 Buffer
    match inbox with
    | none => { Buffer := Buffer, inbox := none, terminator := some r.terminator }
    | some box => enter fill r Buffer box

/-- The bytes that `MsgDistribute` parses. -/
def Inbox.received (box : Inbox) : Bytes := first box.revBufferSize.toNat box.revBuffer

/-- The entity parses exactly what was received, whatever its buffer held, the
terminator stays inside the buffer, and no parse has a negative size. -/
structure Intact (fill : Option UInt8) (r : Recv) : Prop where
  whole : ∀ chunk, r = .bytes chunk → ∀ Buffer box, ∃ box',
    (handOff fill r Buffer (some box)).inbox = some box' ∧
      (handOff fill r Buffer (some box)).parsed = some box'.revBufferSize ∧
      box'.revBufferSize = chunk.bytes.length ∧ box'.received = chunk.bytes
  inside : ∀ Buffer inbox, ∀ i ∈ (handOff fill r Buffer inbox).terminator, 0 ≤ i ∧ i < MSGSIZE
  sized : ∀ Buffer inbox, ∀ n ∈ (handOff fill r Buffer inbox).parsed, 0 ≤ n

/-- Whatever comes after a zero byte is the byte that the runtime fills with, a last
byte that the terminator replaces is zero, and there is no error but the one that
means a closed connection. -/
def Clean (fill : Option UInt8) : Recv → Prop
  | .bytes chunk => ∀ i b, chunk.bytes[i]? = some b →
      if 0 ∈ chunk.bytes.take i then fill = some b else i = MSGSIZE - 1 → b = 0
  | .closed => True
  | .failed error => error = WSAECONNRESET

section Bytes

variable {fill : Option UInt8} {chunk : Chunk} {Buffer : CharArray MSGSIZE} {box : Inbox}

/-- What ends up in the receive buffer at a position of the received bytes. -/
def landed (fill : Option UInt8) (bs : Bytes) (revBuffer : CharArray MSGSIZE) (i : Fin MSGSIZE) :
    UInt8 :=
  if 0 ∈ bs.take i then fill.getD (revBuffer i)
  else if i.val = MSGSIZE - 1 then 0 else bs[i.val]?.getD 0

def stop (chunk : Chunk) : Fin MSGSIZE :=
  ⟨min chunk.bytes.length (MSGSIZE - 1), by rw [MSGSIZE]; omega⟩

theorem terminator_bytes (chunk : Chunk) : (Recv.bytes chunk).terminator = (stop chunk).val := by
  have hval : (stop chunk).val = min chunk.bytes.length (MSGSIZE - 1) := rfl
  have hle := chunk.le
  rw [Recv.terminator, Recv.ret, hval, MSGSIZE]
  rw [MSGSIZE] at hle
  split <;> omega

def sent (chunk : Chunk) (Buffer : CharArray MSGSIZE) : CharArray MSGSIZE :=
  store (stop chunk).val 0 (load chunk.bytes Buffer)

theorem sent_byte {i : Fin MSGSIZE} (hi : i.val < chunk.bytes.length) :
    sent chunk Buffer i = if i.val = MSGSIZE - 1 then 0 else chunk.bytes[i.val]?.getD 0 := by
  have hle := chunk.le
  rw [sent]
  split
  · rename_i hlast
    have hstop : i = stop chunk := by
      apply Fin.ext
      rw [hlast, stop]
      exact (Nat.min_eq_right (by omega)).symm
    rw [hstop]
    exact store_self (stop chunk) 0 _
  · rename_i hlast
    rw [store_of_ne, load, List.getElem?_eq_getElem hi]
    · rfl
    · have hlt := i.isLt
      simp only [stop]
      omega

theorem sent_before_iff {i : Fin MSGSIZE} (hi : i.val ≤ chunk.bytes.length) :
    (∀ j < i, sent chunk Buffer j ≠ 0) ↔ 0 ∉ chunk.bytes.take i := by
  have hone : ∀ j : Fin MSGSIZE, j < i → chunk.bytes[j.val]? = some (sent chunk Buffer j) := by
    intro j hj
    have hlt : j.val < chunk.bytes.length := by omega
    rw [sent_byte hlt, if_neg (by omega), List.getElem?_eq_getElem hlt]
    rfl
  constructor
  · intro hall hmem
    obtain ⟨j, hj⟩ := List.mem_iff_getElem?.mp hmem
    have hji : j < i.val := by
      by_contra hge
      rw [List.getElem?_eq_none (by rw [List.length_take]; omega)] at hj
      cases hj
    rw [List.getElem?_take_of_lt hji, hone ⟨j, by omega⟩ hji, Option.some.injEq] at hj
    exact hall ⟨j, by omega⟩ hji hj
  · intro hno j hj hzero
    apply hno
    apply List.mem_iff_getElem?.mpr
    refine ⟨j.val, ?_⟩
    rw [List.getElem?_take_of_lt hj, hone j hj, hzero]

theorem copy_sent {i : Fin MSGSIZE} (hi : i.val < chunk.bytes.length) :
    copy fill box.revBuffer (sent chunk Buffer) i = landed fill chunk.bytes box.revBuffer i := by
  rw [landed]
  by_cases hzero : 0 ∈ chunk.bytes.take i
  · have hbeyond : ¬∀ j < i, sent chunk Buffer j ≠ 0 := fun hall =>
      (sent_before_iff (by omega)).mp hall hzero
    rw [copy_beyond hbeyond, if_pos hzero]
  · rw [copy_reached ((sent_before_iff (by omega)).mpr hzero), sent_byte hi, if_neg hzero]

theorem gone_bytes (chunk : Chunk) : (Recv.bytes chunk).gone = false := by
  rw [Recv.gone, decide_eq_false_iff_not, List.length_eq_zero_iff]
  exact chunk.ne

theorem sent_eq (chunk : Chunk) (Buffer : CharArray MSGSIZE) :
    store (Recv.bytes chunk).terminator 0 ((Recv.bytes chunk).into Buffer) = sent chunk Buffer := by
  rw [terminator_bytes]
  rfl

theorem enter_copied {r : Recv} {revBuffer : CharArray MSGSIZE}
    (h : strcpy_s fill box.revBuffer Buffer = some revBuffer) : enter fill r Buffer box =
      { Buffer := Buffer, inbox := some { revBuffer := revBuffer, revBufferSize := r.ret }
        terminator := some r.terminator, parsed := some r.ret } := by
  rw [enter, h, Option.elim_some]

theorem handOff_bytes (fill : Option UInt8) (chunk : Chunk) (Buffer : CharArray MSGSIZE)
    (box : Inbox) : handOff fill (.bytes chunk) Buffer (some box) =
      { Buffer := sent chunk Buffer
        inbox := some { revBuffer := copy fill box.revBuffer (sent chunk Buffer)
                        revBufferSize := chunk.bytes.length }
        terminator := some (stop chunk).val, parsed := some chunk.bytes.length } := by
  have hgone : ¬(Recv.bytes chunk).gone = true := by
    rw [gone_bytes]
    exact Bool.false_ne_true
  have hzero : sent chunk Buffer (stop chunk) = 0 := by
    rw [sent]
    exact store_self (stop chunk) 0 _
  calc handOff fill (.bytes chunk) Buffer (some box)
      = enter fill (.bytes chunk)
          (store (Recv.bytes chunk).terminator 0 ((Recv.bytes chunk).into Buffer)) box :=
        if_neg hgone
    _ = enter fill (.bytes chunk) (sent chunk Buffer) box := by rw [sent_eq]
    _ = _ := by
        rw [enter_copied (strcpy_s_terminated hzero fill box.revBuffer), terminator_bytes]
        rfl

theorem handOff_alone (fill : Option UInt8) {r : Recv} (h : r.gone = false)
    (Buffer : CharArray MSGSIZE) : handOff fill r Buffer none =
      { Buffer := store r.terminator 0 (r.into Buffer), inbox := none
        terminator := some r.terminator } := by
  rw [handOff, if_neg (by rw [h]; exact Bool.false_ne_true)]

theorem handOff_gone (fill : Option UInt8) {r : Recv} (h : r.gone = true)
    (Buffer : CharArray MSGSIZE) (inbox : Option Inbox) :
    handOff fill r Buffer inbox = { Buffer := r.into Buffer, inbox := inbox } := by
  rw [handOff, if_pos h]

theorem received_eq_iff {revBuffer : CharArray MSGSIZE} {size : Int}
    (hsize : size = chunk.bytes.length) :
    Inbox.received { revBuffer := revBuffer, revBufferSize := size } = chunk.bytes ↔
      ∀ i : Fin MSGSIZE, i.val < chunk.bytes.length → chunk.bytes[i.val]? = some (revBuffer i) := by
  subst hsize
  exact first_eq_iff chunk.le

theorem landed_of_clean (h : Clean fill (.bytes chunk)) {i : Fin MSGSIZE}
    (hi : i.val < chunk.bytes.length) :
    chunk.bytes[i.val]? = some (landed fill chunk.bytes box.revBuffer i) := by
  obtain ⟨b, hb⟩ : ∃ b, chunk.bytes[i.val]? = some b := ⟨_, List.getElem?_eq_getElem hi⟩
  have hclean := h i.val b hb
  rw [landed, hb]
  split at hclean
  · rename_i hzero
    rw [if_pos hzero, hclean]
    rfl
  · rename_i hzero
    rw [if_neg hzero]
    split
    · rename_i hlast
      rw [hclean hlast]
    · rfl

theorem clean_of_landed (h : ∀ box : Inbox, ∀ i : Fin MSGSIZE, i.val < chunk.bytes.length →
    chunk.bytes[i.val]? = some (landed fill chunk.bytes box.revBuffer i)) :
    Clean fill (.bytes chunk) := by
  intro i b hb
  have hi : i < chunk.bytes.length := (List.getElem?_eq_some_iff.mp hb).1
  have hlt : i < MSGSIZE := Nat.lt_of_lt_of_le hi chunk.le
  -- a buffer that differs from the message everywhere
  have hone := h { revBuffer := fun j => chunk.bytes[j.val]?.getD 0 + 1, revBufferSize := 0 }
    ⟨i, hlt⟩ hi
  simp only [landed, hb, Option.getD_some, Option.some.injEq] at hone
  split
  · rename_i hzero
    rw [if_pos hzero] at hone
    cases fill with
    | none =>
      rw [Option.getD_none] at hone
      exact absurd hone (by simp)
    | some v =>
      rw [Option.getD_some] at hone
      rw [hone]
  · rename_i hzero
    rw [if_neg hzero] at hone
    intro hlast
    rwa [if_pos hlast] at hone

theorem intact_bytes_iff : Intact fill (.bytes chunk) ↔ Clean fill (.bytes chunk) := by
  constructor
  · intro h
    apply clean_of_landed
    intro box i hi
    obtain ⟨box', hbox, -, -, hreceived⟩ := h.whole chunk rfl (fun _ => 0) box
    rw [handOff_bytes, Option.some.injEq] at hbox
    subst hbox
    rw [← copy_sent hi]
    exact (received_eq_iff rfl).mp hreceived i hi
  · intro h
    constructor
    · rintro chunk' ⟨⟩ Buffer box
      refine ⟨_, by rw [handOff_bytes], by rw [handOff_bytes], rfl, ?_⟩
      rw [received_eq_iff rfl]
      intro i hi
      rw [copy_sent hi]
      exact landed_of_clean h hi
    · intro Buffer inbox i hi
      have hstop := (stop chunk).isLt
      have heq : i = (stop chunk).val := by
        cases inbox with
        | none =>
          rw [handOff_alone fill (gone_bytes chunk), terminator_bytes, Option.mem_some] at hi
          exact hi.symm
        | some box =>
          rw [handOff_bytes, Option.mem_some] at hi
          exact hi.symm
      omega
    · intro Buffer inbox n hn
      cases inbox with
      | none =>
        rw [handOff_alone fill (gone_bytes chunk)] at hn
        cases hn
      | some box =>
        rw [handOff_bytes, Option.mem_some] at hn
        omega

end Bytes

section Results

variable {fill : Option UInt8}

theorem intact_gone {r : Recv} (h : r.gone = true) (hno : ∀ chunk, r ≠ .bytes chunk) :
    Intact fill r := by
  constructor
  · exact fun chunk hr => absurd hr (hno chunk)
  · intro Buffer inbox i hi
    rw [handOff_gone fill h] at hi
    cases hi
  · intro Buffer inbox n hn
    rw [handOff_gone fill h] at hn
    cases hn

/-- After any other error the terminator is written in front of the buffer. -/
theorem not_intact_failed {error : Nat} (h : error ≠ WSAECONNRESET) :
    ¬Intact fill (.failed error) := by
  intro hi
  have hgone : (Recv.failed error).gone = false := decide_eq_false h
  have hinside := (hi.inside (fun _ => 0) none (-1) ?_).1
  · exact absurd hinside (by decide)
  · rw [handOff_alone fill hgone]
    rfl

/-- Whatever `recv` comes back with is handed over intact if and only if it is clean. -/
theorem intact_iff_clean (fill : Option UInt8) (r : Recv) : Intact fill r ↔ Clean fill r := by
  cases r with
  | bytes chunk => exact intact_bytes_iff
  | closed => exact iff_of_true (intact_gone rfl fun _ => Recv.noConfusion) trivial
  | failed error =>
    by_cases h : error = WSAECONNRESET
    · exact iff_of_true (intact_gone (decide_eq_true h) fun _ => Recv.noConfusion) h
    · exact iff_of_false (not_intact_failed h) h

end Results

section Worker

variable {DB : Type} (pb : Codec) (sqlite : Sqlite DB)

/-- `WorkerThread` with its buffers: the entity parses what it finds in its own one. -/
def WorkerThread (fill : Option UInt8) (Buffer : CharArray MSGSIZE) (box : Inbox) (s : SOCKET)
    (chunk : Chunk) (rand : List Nat) (st : Process DB) : Except Fault (Process DB × Outbox) :=
  if readable s st then
    match st.cache.GetEntity s with
    | none => .ok (st, [])
    | some _ =>
      (handOff fill (.bytes chunk) Buffer (some box)).inbox.elim (.ok (st, [])) fun box =>
        MsgDistribute pb sqlite s box.received rand st
  else .ok (st, [])

/-- On clean chunks it is the worker that parses the bytes as they came. -/
theorem WorkerThread_clean {fill : Option UInt8} {chunk : Chunk} (h : Clean fill (.bytes chunk))
    (Buffer : CharArray MSGSIZE) (box : Inbox) (s : SOCKET) (rand : List Nat) (st : Process DB) :
    WorkerThread pb sqlite fill Buffer box s chunk rand st =
      Delivery.WorkerThread pb sqlite s chunk rand st := by
  obtain ⟨box', hbox, -, -, hreceived⟩ := (intact_bytes_iff.mpr h).whole chunk rfl Buffer box
  rw [WorkerThread, hbox, Option.elim_some, hreceived]
  rfl

end Worker

section Example

def roomListBytes : Chunk where
  bytes := wire.SerializeToArray (roomList "")
  ne := by decide
  le := by decide

/-- What a new entity finds of it: everything after the empty session id is gone. -/
def seenBytes (fill : Option UInt8) : Bytes :=
  [8, 5, 90, 4, 10, 0, fill.getD 0, fill.getD 0]

theorem received_roomList {fill : Option UInt8} (hfill : fill ∈ [none, some 0xFE])
    (Buffer : CharArray MSGSIZE) (junk : Int) : ∃ box,
      (handOff fill (.bytes roomListBytes) Buffer (some (.fresh junk))).inbox = some box ∧
        box.received = seenBytes fill := by
  have hcells : ∀ i < 8, (seenBytes fill)[i]? =
      some (if 0 ∈ roomListBytes.bytes.take i then fill.getD 0
        else if i = MSGSIZE - 1 then 0 else roomListBytes.bytes[i]?.getD 0) := by
    obtain rfl | rfl : fill = none ∨ fill = some 0xFE := by simpa using hfill
    · decide
    · decide
  have hlen : (roomListBytes.bytes.length : Int).toNat = (seenBytes fill).length := rfl
  refine ⟨_, by rw [handOff_bytes], ?_⟩
  rw [Inbox.received, hlen, first_eq_iff (show 8 ≤ MSGSIZE by decide)]
  intro i hi
  have hnew : (Inbox.fresh junk).revBuffer i = 0 := rfl
  dsimp only
  rw [copy_sent hi, landed, hnew]
  exact hcells i.val hi

theorem not_clean_roomList : ∀ fill ∈ [none, some 0xFE], ¬Clean fill (.bytes roomListBytes) := by
  intro fill hfill hclean
  have hbyte := hclean 6 16 rfl
  rw [if_pos (by decide)] at hbyte
  subst hbyte
  exact absurd hfill (by decide)

/-- The request has a zero byte, the length of the empty session id. A new entity parses a
message of another type, with both runtimes. After an error the terminator is written in
front of the buffer. -/
theorem zero_byte_cuts_request : Sendable (roomList "") ∧
    (∀ fill ∈ [none, some 0xFE], ∀ Buffer junk, ∃ box,
      (handOff fill (.bytes roomListBytes) Buffer (some (.fresh junk))).inbox = some box ∧
        box.received ≠ roomListBytes.bytes ∧
        (wire.ParseFromArray box.received).hallrequest.msgtype ≠ .HST_GetRoomList) ∧
    (∀ fill ∈ [none, some 0xFE], ¬Intact fill (.bytes roomListBytes)) ∧
    ∀ fill, ¬Intact fill (.failed 10060) := by
  have hseen : ∀ fill ∈ [none, some 0xFE], seenBytes fill ≠ roomListBytes.bytes ∧
      (wire.ParseFromArray (seenBytes fill)).hallrequest.msgtype ≠ .HST_GetRoomList := by
    decide +kernel
  refine ⟨by decide, ?_, ?_, fun fill => not_intact_failed (by decide)⟩
  · intro fill hfill Buffer junk
    obtain ⟨box, hbox, hreceived⟩ := received_roomList hfill Buffer junk
    have hother := hseen fill hfill
    rw [← hreceived] at hother
    exact ⟨box, hbox, hother⟩
  · intro fill hfill hintact
    exact not_clean_roomList fill hfill (intact_bytes_iff.mp hintact)

end Example

end JiraGame.HandOff
