import JiraGame.Connections
import JiraGame.HandOff
import JiraGame.Lib.SwapRemove

namespace JiraGame.Threads

open JiraGame.Scene JiraGame.Command JiraGame.DBServer JiraGame.Cache JiraGame.HallScene
open JiraGame.ServerState JiraGame.KeepAlive JiraGame.Server JiraGame.Runs JiraGame.Encoding
open JiraGame.ProcessFrame JiraGame.Connections JiraGame.Lib.History JiraGame.Lib.SwapRemove
open JiraGame.HandOff hiding Turn WorkerThread
open JiraGame.Delivery JiraGame.Lib.Fails JiraGame.Lib.CharBuffer

/-- Where the worker stands: before it fills the socket set, or at index `i` of its
second loop, with the sockets that `select` left in the set. -/
inductive Worker
  | waiting
  | reading (fdread : List SOCKET) (i : Nat)
  deriving DecidableEq

/-- A turn of one of the threads. A new entity finds `size` in the field that it does
not initialise. In a turn of the worker the system has the sockets `ready` for a
`select`, and `ret` for a `recv`. -/
inductive Turn
  | accept (s : SOCKET) (junk size : Int)
  | poll (j : Nat) (now : Nat)
  | work (ready : List SOCKET) (ret : Recv) (rand : List Nat)

/-- The process with its worker, and the buffers of the worker and of the entities. -/
structure Machine (DB : Type) where
  process : Process DB
  worker : Worker := .waiting
  Buffer : CharArray MSGSIZE := fun _ => 0
  inbox : SOCKET → Inbox := fun _ => .fresh 0

section Program

variable {DB : Type} (pb : Codec) (sqlite : Sqlite DB) (fill : Option UInt8)

def select (ready : List SOCKET) (st : Process DB) : Worker :=
  match selected st with
  | none => .waiting
  | some fdread =>
    if fdread.filter (· ∈ ready) = [] then .waiting
    else .reading (fdread.filter (· ∈ ready)) 0

def construct (s : SOCKET) (size : Int) (T : Machine DB) : SOCKET → Inbox :=
  if s ∉ T.process.g_CliSocketArr ∧ (T.process.cache.GetEntity s).isNone then
    Function.update T.inbox s (.fresh size)
  else T.inbox

/-- One round of the second loop on the socket in cell `i`. -/
def serve (s : SOCKET) (i : Nat) (ret : Recv) (rand : List Nat) (T : Machine DB) :
    Except Fault (Machine DB × Outbox) :=
  let h := handOff fill ret T.Buffer ((T.process.cache.GetEntity s).map fun _ => T.inbox s)
  if ret.gone then
    -- `g_CliSocketArr[i] = g_CliSocketArr[--g_iTotalConn]`
    let arr := T.process.g_CliSocketArr
    let arr := (arr.set i (arr.getLast?.getD s)).dropLast
    .ok ({ T with process := { T.process with g_CliSocketArr := arr }, Buffer := h.Buffer }, [])
  else if ret.terminator < 0 then
    -- `Buffer[ret]` lies in front of the buffer
    .error .outOfBounds
  else
    match h.inbox with
    | none => .ok ({ T with Buffer := h.Buffer }, [])
    | some box =>
      (MsgDistribute pb sqlite s box.received rand T.process).map fun x =>
        ({ T with process := (deliver x).1, Buffer := h.Buffer
                  inbox := Function.update T.inbox s box }, (deliver x).2)

def turn (T : Machine DB) : Turn → Except Fault (Machine DB × Outbox)
  | .accept s junk size =>
    (StartCServer s junk T.process).map fun st =>
      ({ T with process := st, inbox := construct s size T }, [])
  | .poll j now =>
    (poll j now T.process).map fun x => ({ T with process := (deliver x).1 }, (deliver x).2)
  | .work ready ret rand =>
    match T.worker with
    | .waiting => .ok ({ T with worker := select ready T.process }, [])
    | .reading fdread i =>
      match T.process.g_CliSocketArr[i]? with
      | none => .ok ({ T with worker := .waiting }, [])
      | some s =>
        if s ∈ fdread then
          (serve pb sqlite fill s i ret rand T).map fun x =>
            ({ x.1 with worker := .reading fdread (i + 1) }, x.2)
        else .ok ({ T with worker := .reading fdread (i + 1) }, [])

def Turns (T : Machine DB) (t : Turn) (T' : Machine DB) : Prop :=
  ∃ out, turn pb sqlite fill T t = .ok (T', out)

end Program

def reads {DB : Type} (T : Machine DB) : Turn → Option SOCKET
  | .work _ _ _ =>
    match T.worker with
    | .waiting => none
    | .reading fdread i => T.process.g_CliSocketArr[i]?.filter (· ∈ fdread)
  | _ => none

/-- The turn writes in front of the worker's buffer. -/
def underruns {DB : Type} (T : Machine DB) (t : Turn) : Bool :=
  match t with
  | .work _ ret _ => (reads T t).isSome && !ret.gone && decide (ret.terminator < 0)
  | _ => false

/-- What the buffer of an entity holds of a chunk after the copy. -/
def handed (fill : Option UInt8) (chunk : Chunk) (Buffer : CharArray MSGSIZE) (box : Inbox) :
    Chunk where
  bytes := first chunk.bytes.length (copy fill box.revBuffer (sent chunk Buffer))
  ne := by
    intro hnil
    have hlen := first_length (copy fill box.revBuffer (sent chunk Buffer)) chunk.le
    rw [hnil] at hlen
    exact chunk.ne (List.length_eq_zero_iff.mp hlen.symm)
  le := by
    rw [first_length _ chunk.le]
    exact chunk.le

def received {DB : Type} (fill : Option UInt8) (T : Machine DB) (s : SOCKET) (rand : List Nat) :
    Recv → Input
  | .bytes chunk => .recv s (handed fill chunk T.Buffer (T.inbox s)) rand
  | _ => .close s

def input {DB : Type} (fill : Option UInt8) (T : Machine DB) (t : Turn) : Option Input :=
  match t with
  | .accept s junk _ => some (.accept s junk)
  | .poll j now => some (.poll j now)
  | .work _ ret rand => (reads T t).map fun s => received fill T s rand ret

def inputs {DB : Type} (fill : Option UInt8) (tr : List (Machine DB × Turn)) :
    List (Process DB × Input) :=
  tr.filterMap fun x => (input fill x.1 x.2).map fun i => (x.1.process, i)

/-- A connection: its handle, and how often the handle had been accepted by then. -/
abbrev Connection := SOCKET × Nat

/-- What happened since the worker last asked `select`: the connections that it was
told, those that were accepted, those that it read and how many of these it closed. -/
structure Pass where
  accepts : SOCKET → Nat := fun _ => 0
  reported : List Connection := []
  accepted : List Connection := []
  read : List Connection := []
  closes : Nat := 0

def Pass.now (p : Pass) (s : SOCKET) : Connection := (s, p.accepts s)

def Pass.accept (p : Pass) (s : SOCKET) : Pass :=
  { p with accepts := Function.update p.accepts s (p.accepts s + 1)
           accepted := p.accepted ++ [(s, p.accepts s + 1)] }

/-- What the worker may read in a pass. -/
def Pass.Due (p : Pass) (c : Connection) : Prop :=
  c ∈ p.reported ∨ c ∈ p.accepted ∧ ∃ n, (c.1, n) ∈ p.reported

def Pass.unread (p : Pass) : List Connection := p.reported.filter (· ∉ p.read)

def closes (ret : Recv) : Nat := if ret.gone then 1 else 0

def Worker.fdread : Worker → List SOCKET
  | .waiting => []
  | .reading fdread _ => fdread

def watch {DB : Type} (p : Pass) (T : Machine DB) (t : Turn) : Pass :=
  match t with
  | .accept s _ _ =>
    if s ∈ T.process.g_CliSocketArr ∨ s = INVALID_SOCKET then p else p.accept s
  | .poll _ _ => p
  | .work ready ret _ =>
    match T.worker with
    | .waiting =>
      { accepts := p.accepts, reported := (select ready T.process).fdread.map p.now }
    | .reading _ _ => (reads T t).elim p fun s =>
      { p with read := p.read ++ [p.now s], closes := p.closes + closes ret }

def pass {DB : Type} (tr : List (Machine DB × Turn)) : Pass := observe {} watch tr

/-- What holds between the turns. No cell from index `i` on holds a connection that
has been read. -/
structure Tracked {DB : Type} (p : Pass) (T : Machine DB) : Prop where
  distinct : T.process.g_CliSocketArr.Nodup
  once : p.read.Nodup
  past : ∀ c ∈ p.read, c.2 ≤ p.accepts c.1
  told : ∀ c ∈ p.read, p.Due c
  known : ∀ fdread i, T.worker = .reading fdread i → ∀ s ∈ fdread, p.Due (p.now s)
  ahead : ∀ fdread i, T.worker = .reading fdread i →
    ∀ s ∈ T.process.g_CliSocketArr.drop i, p.now s ∉ p.read

def Leaves (ret : Recv) (i : Nat) (arr arr' : List SOCKET) : Prop :=
  ret.gone = true ∧ (∃ x, arr' = (arr.set i x).dropLast ∧ arr.getLast? = some x) ∨
    ret.gone = false ∧ arr' = arr

/-- What a turn leaves behind, as far as the worker is concerned. -/
inductive Turned {DB : Type} (T : Machine DB) : Turn → Machine DB → Prop
  | accept {s : SOCKET} {junk size : Int} {st : Process DB} {inbox : SOCKET → Inbox} :
      StartCServer s junk T.process = .ok st →
      Turned T (.accept s junk size) { T with process := st, inbox := inbox }
  | poll {j now : Nat} {st : Process DB} :
      st.g_CliSocketArr = T.process.g_CliSocketArr →
      Turned T (.poll j now) { T with process := st }
  | select {ready : List SOCKET} {ret : Recv} {rand : List Nat} : T.worker = .waiting →
      Turned T (.work ready ret rand) { T with worker := select ready T.process }
  | finish {ready : List SOCKET} {ret : Recv} {rand : List Nat} {fdread : List SOCKET} {i : Nat} :
      T.worker = .reading fdread i → T.process.g_CliSocketArr[i]? = none →
      Turned T (.work ready ret rand) { T with worker := .waiting }
  | skip {ready : List SOCKET} {ret : Recv} {rand : List Nat} {fdread : List SOCKET} {i : Nat}
      {s : SOCKET} :
      T.worker = .reading fdread i → T.process.g_CliSocketArr[i]? = some s → s ∉ fdread →
      Turned T (.work ready ret rand) { T with worker := .reading fdread (i + 1) }
  | read {ready : List SOCKET} {ret : Recv} {rand : List Nat} {fdread : List SOCKET} {i : Nat}
      {s : SOCKET} {M : Machine DB} :
      T.worker = .reading fdread i → T.process.g_CliSocketArr[i]? = some s → s ∈ fdread →
      Leaves ret i T.process.g_CliSocketArr M.process.g_CliSocketArr →
      Turned T (.work ready ret rand) { M with worker := .reading fdread (i + 1) }

section Turns

variable {DB : Type} {pb : Codec} {sqlite : Sqlite DB} {fill : Option UInt8} {T T' : Machine DB}
  {t : Turn} {s : SOCKET} {i : Nat} {chunk : Chunk} {ret : Recv} {rand : List Nat}
  {st : Process DB} {out : Outbox}

theorem terminator_nonneg (chunk : Chunk) : ¬(Recv.bytes chunk).terminator < 0 := by
  rw [terminator_bytes]
  omega

theorem serve_gone (h : ret.gone = true) (T : Machine DB) (s : SOCKET) (i : Nat)
    (rand : List Nat) : serve pb sqlite fill s i ret rand T =
      .ok ({ T with Buffer := ret.into T.Buffer
                    process := { T.process with g_CliSocketArr :=
                      (T.process.g_CliSocketArr.set i
                        (T.process.g_CliSocketArr.getLast?.getD s)).dropLast } }, []) := by
  rw [serve, handOff_gone fill h]
  exact if_pos h

theorem serve_unknown (he : T.process.cache.GetEntity s = none) (chunk : Chunk) :
    serve pb sqlite fill s i (.bytes chunk) rand T =
      .ok ({ T with Buffer := sent chunk T.Buffer }, []) := by
  have hgone := gone_bytes chunk
  simp only [serve, he, Option.map_none, hgone, Bool.false_eq_true, if_false,
    if_neg (terminator_nonneg chunk), handOff_alone fill hgone, sent_eq]

theorem serve_bytes {e : CClientEntity} (he : T.process.cache.GetEntity s = some e)
    (chunk : Chunk) : serve pb sqlite fill s i (.bytes chunk) rand T =
      (MsgDistribute pb sqlite s (handed fill chunk T.Buffer (T.inbox s)).bytes rand
        T.process).map fun x =>
          ({ T with process := (deliver x).1, Buffer := sent chunk T.Buffer
                    inbox := Function.update T.inbox s
                      { revBuffer := copy fill (T.inbox s).revBuffer (sent chunk T.Buffer)
                        revBufferSize := chunk.bytes.length } }, (deliver x).2) := by
  simp only [serve, he, Option.map_some, gone_bytes, Bool.false_eq_true, if_false,
    if_neg (terminator_nonneg chunk), handOff_bytes, Inbox.received, Int.toNat_natCast, handed]

theorem serve_underrun (hgone : ret.gone = false) (hneg : ret.terminator < 0) :
    serve pb sqlite fill s i ret rand T = .error .outOfBounds := by
  simp only [serve, hgone, Bool.false_eq_true, if_false, if_pos hneg]

theorem terminator_of_open (hgone : ret.gone = false) :
    ret.terminator < 0 ∨ ∃ chunk, ret = .bytes chunk := by
  cases ret with
  | bytes chunk => exact .inr ⟨chunk, rfl⟩
  | closed => cases hgone
  | failed error => exact .inl (show (-1 : Int) < 0 by decide)

theorem getLast?_of_cell {l : List SOCKET} (h : l[i]? = some s) :
    l.getLast? = some (l.getLast?.getD s) := by
  cases l with
  | nil => cases h
  | cons a l => rw [List.getLast?_cons, Option.getD_some]

theorem serve_array (h : serve pb sqlite fill s i ret rand T = .ok (T', out))
    (hs : T.process.g_CliSocketArr[i]? = some s) :
    Leaves ret i T.process.g_CliSocketArr T'.process.g_CliSocketArr := by
  cases hgone : ret.gone with
  | true =>
    rw [serve_gone hgone] at h
    cases h
    exact .inl ⟨hgone, _, rfl, getLast?_of_cell hs⟩
  | false =>
    refine .inr ⟨hgone, ?_⟩
    obtain hneg | ⟨chunk, rfl⟩ := terminator_of_open hgone
    · rw [serve_underrun hgone hneg] at h
      cases h
    · cases he : T.process.cache.GetEntity s with
      | none =>
        rw [serve_unknown he] at h
        cases h
        rfl
      | some e =>
        rw [serve_bytes he] at h
        obtain ⟨x, hx, h⟩ := of_map_ok h
        cases h
        obtain ⟨_, hd⟩ := deliver_frame x
        obtain ⟨_, _, _, _, _, _, hframe⟩ := ProcessMsgLogic_frame hx
        dsimp only
        rw [hd, hframe]

theorem turned (h : turn pb sqlite fill T t = .ok (T', out)) : Turned T t T' := by
  cases t with
  | accept s junk size =>
    obtain ⟨st, hst, h⟩ := of_map_ok h
    cases h
    exact .accept hst
  | poll j now =>
    obtain ⟨x, hx, h⟩ := of_map_ok h
    cases h
    obtain ⟨_, hd⟩ := deliver_frame x
    obtain ⟨_, _, _, _, _, _, hframe⟩ := poll_frame hx
    refine .poll ?_
    rw [hd, hframe]
  | work ready ret rand =>
    simp only [turn] at h
    split at h
    · rename_i hw
      cases h
      exact .select hw
    · rename_i fdread i hw
      split at h
      · rename_i hi
        cases h
        exact .finish hw hi
      · rename_i s hi
        split at h
        · rename_i hin
          obtain ⟨x, hx, h⟩ := of_map_ok h
          cases h
          exact .read hw hi hin (serve_array hx hi)
        · rename_i hout
          cases h
          exact .skip hw hi hout

theorem swap_dropSocket {l : List SOCKET} (hnd : l.Nodup) (h : l[i]? = some s) :
    (l.set i (l.getLast?.getD s)).dropLast = dropSocket s l := by
  obtain ⟨hi, rfl⟩ := List.getElem?_eq_some_iff.mp h
  rw [dropSocket, getLast?_of_cell h]
  simp only [Option.getD_some]
  rw [map_replace hnd hi]

theorem reads_eq {fdread : List SOCKET} {ready : List SOCKET} (hw : T.worker = .reading fdread i)
    (hi : T.process.g_CliSocketArr[i]? = some s) :
    reads T (.work ready ret rand) = if s ∈ fdread then some s else none := by
  by_cases hin : s ∈ fdread <;> simp [reads, hw, hi, hin, Option.filter]

theorem received_gone (hgone : ret.gone = true) : received fill T s rand ret = .close s := by
  cases ret with
  | bytes chunk =>
    rw [gone_bytes] at hgone
    cases hgone
  | closed | failed error => rfl

theorem serve_input (hnd : T.process.g_CliSocketArr.Nodup)
    (hlt : T.process.g_CliSocketArr.length < FD_SETSIZE)
    (hi : T.process.g_CliSocketArr[i]? = some s) (hret : ret.gone = true ∨ ¬ret.terminator < 0) :
    (serve pb sqlite fill s i ret rand T).map (fun x => (x.1.process, x.2)) =
      inputStep pb sqlite T.process (received fill T s rand ret) := by
  have hread : readable s T.process = true := by simp [readable, hlt, List.mem_of_getElem? hi]
  cases hgone : ret.gone with
  | true =>
    rw [serve_gone hgone, received_gone hgone, inputStep, if_pos hread, ← swap_dropSocket hnd hi]
    rfl
  | false =>
    obtain hneg | ⟨chunk, rfl⟩ := terminator_of_open hgone
    · rw [hgone] at hret
      exact absurd hneg (hret.resolve_left Bool.false_ne_true)
    · simp only [received, inputStep, WorkerThread, if_pos hread]
      cases he : T.process.cache.GetEntity s with
      | none =>
        rw [serve_unknown he]
        rfl
      | some e =>
        rw [serve_bytes he]
        cases MsgDistribute pb sqlite s (handed fill chunk T.Buffer (T.inbox s)).bytes rand
          T.process <;> rfl

theorem turn_reads {fdread ready : List SOCKET} (hw : T.worker = .reading fdread i)
    (hi : T.process.g_CliSocketArr[i]? = some s) (hin : s ∈ fdread) :
    (turn pb sqlite fill T (.work ready ret rand)).map (fun x => (x.1.process, x.2)) =
      (serve pb sqlite fill s i ret rand T).map (fun x => (x.1.process, x.2)) := by
  simp only [turn, hw, hi, if_pos hin]
  cases serve pb sqlite fill s i ret rand T <;> rfl

/-- A turn is a step of the server, or leaves it alone, or writes in front of the buffer. -/
theorem turn_input (hnd : T.process.g_CliSocketArr.Nodup)
    (hlt : T.process.g_CliSocketArr.length < FD_SETSIZE) (t : Turn) :
    (turn pb sqlite fill T t).map (fun x => (x.1.process, x.2)) =
      if underruns T t then .error .outOfBounds
      else (input fill T t).elim (.ok (T.process, [])) (inputStep pb sqlite T.process) := by
  cases t with
  | accept s junk size =>
    simp only [turn, input, underruns, Bool.false_eq_true, if_false, Option.elim_some, inputStep]
    cases StartCServer s junk T.process <;> rfl
  | poll j now =>
    simp only [turn, input, underruns, Bool.false_eq_true, if_false, Option.elim_some, inputStep]
    cases poll j now T.process <;> rfl
  | work ready ret rand =>
    cases hw : T.worker with
    | waiting =>
      simp only [turn, input, underruns, reads, hw]
      rfl
    | reading fdread i =>
      cases hi : T.process.g_CliSocketArr[i]? with
      | none =>
        simp only [turn, input, underruns, reads, hw, hi]
        rfl
      | some s =>
        have hreads := @reads_eq _ T s i ret rand fdread ready hw hi
        by_cases hin : s ∈ fdread
        · rw [if_pos hin] at hreads
          simp only [turn_reads hw hi hin, input, underruns, hreads, Option.isSome_some,
            Bool.true_and, Option.map_some, Option.elim_some]
          split
          · rename_i hunder
            simp only [Bool.and_eq_true, Bool.not_eq_true', decide_eq_true_eq] at hunder
            rw [serve_underrun hunder.1 hunder.2]
            rfl
          · rename_i hunder
            refine serve_input hnd hlt hi ?_
            simp only [Bool.and_eq_true, Bool.not_eq_true', decide_eq_true_eq, not_and] at hunder
            exact (Bool.eq_false_or_eq_true ret.gone).imp_right hunder
        · rw [if_neg hin] at hreads
          simp only [turn, input, underruns, hreads, hw, hi, if_neg hin]
          rfl

theorem nodup_after {arr arr' : List SOCKET} (hi : arr[i]? = some s)
    (harr : Leaves ret i arr arr') (hnd : arr.Nodup) : arr'.Nodup := by
  obtain ⟨-, x, rfl, hx⟩ | ⟨-, rfl⟩ := harr
  · obtain ⟨hlen, -⟩ := List.getElem?_eq_some_iff.mp hi
    exact (List.nodup_cons.mp ((perm_set_dropLast hlen hx).nodup_iff.mpr hnd)).2
  · exact hnd

theorem Turned.nodup (h : Turned T t T') (hnd : T.process.g_CliSocketArr.Nodup) :
    T'.process.g_CliSocketArr.Nodup := by
  cases h with
  | @accept s junk size st inbox hst =>
    dsimp only
    rw [StartCServer_array hst]
    split
    · exact hnd
    · rename_i hnew
      rw [← List.concat_eq_append]
      exact hnd.concat fun hs => hnew (.inl hs)
  | poll harr => rwa [harr]
  | select hw | finish hw hi | skip hw hi hout => exact hnd
  | read hw hi hin harr => exact nodup_after hi harr hnd

end Turns

section Runs

variable {DB : Type} {pb : Codec} {sqlite : Sqlite DB} {fill : Option UInt8} {db : DB}
  {T : Machine DB} {tr : List (Machine DB × Turn)}

abbrev ThreadRun (pb : Codec) (sqlite : Sqlite DB) (fill : Option UInt8) (db : DB) :
    List (Machine DB × Turn) → Machine DB → Prop :=
  Run (Turns pb sqlite fill) { process := start db }

theorem run_nodup (h : ThreadRun pb sqlite fill db tr T) : T.process.g_CliSocketArr.Nodup := by
  refine Run.invariant (I := fun T : Machine DB => T.process.g_CliSocketArr.Nodup) ?_ ?_ h
  · exact List.nodup_nil
  · rintro T t T' hnd ⟨out, hturn⟩
    exact (turned hturn).nodup hnd

theorem run_inputs (h : ThreadRun pb sqlite fill db tr T)
    (hlt : ∀ x ∈ tr, x.1.process.g_CliSocketArr.length < FD_SETSIZE) :
    Run (Reads pb sqlite) (start db) (inputs fill tr) T.process := by
  induction h with
  | nil => exact Run.nil
  | @cons tr T T' t hr hstep ih =>
    have ih := ih fun x hx => hlt x (List.mem_cons_of_mem _ hx)
    obtain ⟨out, hturn⟩ := hstep
    have hinput := @turn_input _ pb sqlite fill T (run_nodup hr)
      (hlt (T, t) List.mem_cons_self) t
    rw [hturn] at hinput
    split at hinput
    · cases hinput
    · cases hi : input fill T t with
      | none =>
        rw [hi] at hinput
        have hsame : T'.process = T.process := congrArg Prod.fst (Except.ok.inj hinput)
        rw [inputs, List.filterMap_cons, hi, hsame]
        exact ih
      | some i =>
        rw [hi] at hinput
        rw [inputs, List.filterMap_cons, hi]
        exact Run.cons ih ⟨out, hinput.symm⟩

/-- While the array has a free place, whatever the threads do in whatever order is a
run of the server on what the receive buffers held, turn by turn with the same packets
and the same faults, but for a turn that writes in front of the worker's buffer. -/
theorem threads_refine (h : ThreadRun pb sqlite fill db tr T)
    (hlt : ∀ x ∈ points tr T, x.2.process.g_CliSocketArr.length < FD_SETSIZE) :
    ServerRun sqlite db (parsed pb (inputs fill tr)) T.process ∧
      ∀ t, (turn pb sqlite fill T t).map (fun x => (x.1.process, x.2)) =
        if underruns T t then .error .outOfBounds
        else (input fill T t).elim (.ok (T.process, []))
          fun i => step sqlite T.process (i.action pb) := by
  have hbefore : ∀ x ∈ tr, x.1.process.g_CliSocketArr.length < FD_SETSIZE := by
    intro x hx
    obtain ⟨pre, T', -, -, hpoint, -⟩ := h.of_mem x hx
    exact hlt _ hpoint
  refine ⟨run_parsed (run_inputs h hbefore), fun t => ?_⟩
  rw [turn_input (run_nodup h) (hlt _ self_mem_points) t]
  congr 2
  funext i
  exact inputStep_eq pb sqlite _ i

end Runs

section Passes

variable {DB : Type} {pb : Codec} {sqlite : Sqlite DB} {fill : Option UInt8} {db : DB}
  {T T' M : Machine DB} {t : Turn} {tr : List (Machine DB × Turn)} {p : Pass} {s : SOCKET}
  {st : Process DB} {inbox : SOCKET → Inbox}

theorem now_accept_self : (p.accept s).now s = (s, p.accepts s + 1) := by
  simp [Pass.now, Pass.accept]

theorem now_accept_ne {u : SOCKET} (h : u ≠ s) : (p.accept s).now u = p.now u := by
  simp [Pass.now, Pass.accept, h]

theorem Pass.Due.handle {c : Connection} (h : p.Due c) : ∃ n, (c.1, n) ∈ p.reported :=
  h.elim (fun hc => ⟨c.2, hc⟩) And.right

theorem Pass.Due.accept {c : Connection} (h : p.Due c) : (p.accept s).Due c :=
  h.imp_right (And.imp_left (List.mem_append_left _))

theorem Tracked.fresh (h : Tracked p T) : (s, p.accepts s + 1) ∉ p.read := by
  intro hin
  have hle := h.past _ hin
  dsimp only at hle
  omega

theorem Tracked.accept {junk size : Int} (h : Tracked p T)
    (hst : StartCServer s junk T.process = .ok st) :
    Tracked (watch p T (.accept s junk size)) { T with process := st, inbox := inbox } := by
  have hturned : Turned T (.accept s junk size) { T with process := st, inbox := inbox } :=
    .accept hst
  have hnd := hturned.nodup h.distinct
  have harr := StartCServer_array hst
  rw [watch]
  split
  · rename_i hold
    rw [if_pos hold] at harr
    exact { h with distinct := hnd, ahead := by rw [harr]; exact h.ahead }
  · rename_i hnew
    rw [if_neg hnew] at harr
    refine ⟨hnd, h.once, ?_, ?_, ?_, ?_⟩
    · intro c hc
      have hle := h.past c hc
      simp only [Pass.accept, Function.update_apply]
      split
      · rename_i heq
        rw [← heq]
        omega
      · exact hle
    · intro c hc
      exact (h.told c hc).accept
    · intro fdread i hw u hu
      by_cases hus : u = s
      · rw [hus, now_accept_self]
        rw [hus] at hu
        exact .inr ⟨List.mem_concat_self, (h.known fdread i hw s hu).handle⟩
      · rw [now_accept_ne hus]
        exact (h.known fdread i hw u hu).accept
    · intro fdread i hw u hu
      by_cases hus : u = s
      · rw [hus, now_accept_self]
        exact h.fresh
      · rw [now_accept_ne hus]
        rw [harr] at hu
        refine h.ahead fdread i hw u ?_
        rw [List.drop_append] at hu
        obtain hu | hu := List.mem_append.mp hu
        · exact hu
        · exact absurd (List.mem_singleton.mp (List.mem_of_mem_drop hu)) hus

theorem Tracked.select {ready : List SOCKET} {ret : Recv} {rand : List Nat} (h : Tracked p T)
    (hw : T.worker = .waiting) : Tracked (watch p T (.work ready ret rand))
      { T with worker := Threads.select ready T.process } := by
  rw [watch, hw]
  refine ⟨h.distinct, List.nodup_nil, by simp, by simp, ?_, by simp⟩
  intro fdread i hread s hs
  dsimp only at hread
  rw [hread]
  exact .inl (List.mem_map.mpr ⟨s, hs, rfl⟩)

variable {ready fdread : List SOCKET} {ret : Recv} {rand : List Nat} {i : Nat}

theorem Tracked.skip (h : Tracked p T) (hw : T.worker = .reading fdread i)
    (hi : T.process.g_CliSocketArr[i]? = some s) (hout : s ∉ fdread) :
    Tracked (watch p T (.work ready ret rand)) { T with worker := .reading fdread (i + 1) } := by
  rw [watch, hw]
  dsimp only
  rw [reads_eq hw hi, if_neg hout, Option.elim_none]
  refine ⟨h.distinct, h.once, h.past, h.told, ?_, ?_⟩
  · rintro _ _ ⟨⟩
    exact h.known fdread i hw
  · rintro _ _ ⟨⟩ u hu
    exact h.ahead fdread i hw u ((List.drop_subset_drop_left _ (Nat.le_succ i)) hu)

theorem behind_cell {arr arr' : List SOCKET} (harr : Leaves ret i arr arr') :
    ∀ u ∈ arr'.drop (i + 1), u ∈ arr.drop (i + 1) := by
  intro u hu
  obtain ⟨-, x, rfl, -⟩ | ⟨-, rfl⟩ := harr
  · rw [List.dropLast_eq_take, List.drop_take, List.drop_set_of_lt (Nat.lt_succ_self i)] at hu
    exact List.mem_of_mem_take hu
  · exact hu

theorem Tracked.read (h : Tracked p T) (hw : T.worker = .reading fdread i)
    (hi : T.process.g_CliSocketArr[i]? = some s) (hin : s ∈ fdread)
    (hnd : M.process.g_CliSocketArr.Nodup)
    (harr : Leaves ret i T.process.g_CliSocketArr M.process.g_CliSocketArr) :
    Tracked (watch p T (.work ready ret rand))
      { M with worker := .reading fdread (i + 1) } := by
  obtain ⟨hlen, hcell⟩ := List.getElem?_eq_some_iff.mp hi
  have hdrop : T.process.g_CliSocketArr.drop i = s :: T.process.g_CliSocketArr.drop (i + 1) := by
    rw [List.drop_eq_getElem_cons hlen, hcell]
  have hnew : p.now s ∉ p.read := by
    refine h.ahead fdread i hw s ?_
    rw [hdrop]
    exact List.mem_cons_self
  have hlater : s ∉ T.process.g_CliSocketArr.drop (i + 1) := by
    have hsub := h.distinct.sublist (List.drop_sublist i _)
    rw [hdrop] at hsub
    exact (List.nodup_cons.mp hsub).1
  rw [watch, hw]
  dsimp only
  rw [reads_eq hw hi, if_pos hin, Option.elim_some]
  refine ⟨hnd, ?_, ?_, ?_, ?_, ?_⟩
  · rw [← List.concat_eq_append]
    exact h.once.concat hnew
  · intro c hc
    obtain hc | hc := List.mem_append.mp hc
    · exact h.past c hc
    · rw [List.mem_singleton.mp hc]
      exact Nat.le_refl _
  · intro c hc
    obtain hc | hc := List.mem_append.mp hc
    · exact h.told c hc
    · rw [List.mem_singleton.mp hc]
      exact h.known fdread i hw s hin
  · rintro _ _ ⟨⟩
    exact h.known fdread i hw
  · rintro _ _ ⟨⟩ u hu hread
    have hu := behind_cell harr u hu
    obtain hold | heq := List.mem_append.mp hread
    · refine h.ahead fdread i hw u ?_ hold
      rw [hdrop]
      exact List.mem_cons_of_mem _ hu
    · have hus : u = s := congrArg Prod.fst (List.mem_singleton.mp heq)
      rw [hus] at hu
      exact hlater hu

theorem Turned.tracked (h : Turned T t T') (hp : Tracked p T) : Tracked (watch p T t) T' := by
  cases h with
  | accept hst => exact hp.accept hst
  | poll harr =>
    exact { hp with distinct := by rw [harr]; exact hp.distinct
                    ahead := by rw [harr]; exact hp.ahead }
  | select hw => exact hp.select hw
  | finish hw hi =>
    rw [watch, hw]
    dsimp only
    rw [reads, hw]
    simp only [hi, Option.filter_none, Option.elim_none]
    exact ⟨hp.distinct, hp.once, hp.past, hp.told, by simp, by simp⟩
  | skip hw hi hout => exact hp.skip hw hi hout
  | read hw hi hin harr => exact hp.read hw hi hin (nodup_after hi harr hp.distinct) harr

theorem run_tracked (h : ThreadRun pb sqlite fill db tr T) : Tracked (pass tr) T := by
  refine Run.always (I := fun tr T => Tracked (pass tr) T) (C := fun _ _ => True) ?_ ?_ h
    fun _ _ => trivial
  · exact ⟨List.nodup_nil, List.nodup_nil, by simp [pass, observe], by simp [pass, observe],
      by simp, by simp⟩
  · rintro tr T t T' - hp - ⟨out, hturn⟩
    exact (turned hturn).tracked hp

/-- However the turns of the threads are mixed: between two calls of `select` the worker
reads no connection twice, and only those that `select` reported, or one that was accepted
in between on the handle of one of these. -/
theorem pass_reads_once (h : ThreadRun pb sqlite fill db tr T) :
    (pass tr).read.Nodup ∧ ∀ c ∈ (pass tr).read, c ∈ (pass tr).reported ∨
      c ∈ (pass tr).accepted ∧ ∃ n, (c.1, n) ∈ (pass tr).reported :=
  ⟨(run_tracked h).once, (run_tracked h).told⟩

end Passes

section Progress

variable {DB : Type} {pb : Codec} {sqlite : Sqlite DB} {fill : Option UInt8} {db : DB}
  {T T' M : Machine DB} {t : Turn} {tr : List (Machine DB × Turn)} {p : Pass} {s : SOCKET}
  {st : Process DB} {arr : List SOCKET} {inbox : SOCKET → Inbox}

theorem mem_unread {c : Connection} : c ∈ p.unread ↔ c ∈ p.reported ∧ c ∉ p.read := by
  simp [Pass.unread]

/-- The connection behind a handle waits for its `recv` of this pass. -/
def Pass.waits (p : Pass) (s : SOCKET) : Bool := decide (p.now s ∈ p.unread)

/-- What a pass has not read is still there. In front of index `i` stand no more of it
than connections were closed, since each close moves one there. -/
structure Passing {DB : Type} (p : Pass) (T : Machine DB) : Prop where
  handles : (p.reported.map Prod.fst).Nodup
  past : ∀ c ∈ p.reported, c.2 ≤ p.accepts c.1
  still : ∀ c ∈ p.unread, c.1 ∈ T.process.g_CliSocketArr ∧ p.now c.1 = c
  told : ∀ fdread i, T.worker = .reading fdread i → p.reported.map Prod.fst = fdread
  few : ∀ fdread i, T.worker = .reading fdread i →
    (T.process.g_CliSocketArr.take i).countP p.waits ≤ p.closes

theorem accepts_le (p : Pass) (s u : SOCKET) : p.accepts u ≤ (p.accept s).accepts u := by
  simp only [Pass.accept, Function.update_apply]
  split
  · rename_i heq
    rw [heq]
    exact Nat.le_succ _
  · exact Nat.le_refl _

theorem Passing.accept {junk size : Int} (h : Passing p T)
    (hst : StartCServer s junk T.process = .ok st) :
    Passing (watch p T (.accept s junk size)) { T with process := st, inbox := inbox } := by
  have harr := StartCServer_array hst
  rw [watch]
  split
  · rename_i hold
    rw [if_pos hold] at harr
    exact { h with still := by rw [harr]; exact h.still
                   few := by rw [harr]; exact h.few }
  · rename_i hnew
    rw [if_neg hnew] at harr
    have hne : ∀ u ∈ T.process.g_CliSocketArr, u ≠ s := by
      rintro u hu rfl
      exact hnew (.inl hu)
    refine ⟨h.handles, ?_, ?_, h.told, ?_⟩
    · intro c hc
      exact Nat.le_trans (h.past c hc) (accepts_le p s c.1)
    · intro c hc
      obtain ⟨hin, hnow⟩ := h.still c hc
      rw [now_accept_ne (hne _ hin), harr]
      exact ⟨List.mem_append_left _ hin, hnow⟩
    · intro fdread i hw
      have hself : (p.accept s).waits s = false := by
        refine decide_eq_false fun hwaits => ?_
        have hle := h.past _ (mem_unread.mp hwaits).1
        rw [now_accept_self] at hle
        exact absurd hle (Nat.not_succ_le_self _)
      have hothers : ∀ u ∈ T.process.g_CliSocketArr.take i,
          (p.accept s).waits u = true → p.waits u = true := by
        intro u hu hwaits
        rw [Pass.waits, now_accept_ne (hne u (List.mem_of_mem_take hu))] at hwaits
        exact hwaits
      have hlast : ([s].take (i - T.process.g_CliSocketArr.length)).countP (p.accept s).waits = 0 := by
        refine List.countP_eq_zero.mpr fun u hu => ?_
        rw [List.mem_singleton.mp (List.mem_of_mem_take hu), hself]
        exact Bool.false_ne_true
      rw [harr, List.take_append, List.countP_append, hlast]
      exact Nat.le_trans (List.countP_mono_left hothers) (h.few fdread i hw)

theorem fdread_spec (arr : List SOCKET) :
    (Connections.fdread arr).Nodup ∧ ∀ s ∈ Connections.fdread arr, s ∈ arr := by
  have hfold : ∀ rest acc : List SOCKET, (∀ s ∈ rest, s ∈ arr) →
      acc.Nodup ∧ (∀ s ∈ acc, s ∈ arr) →
      (rest.foldl (fun fd s => FD_SET s fd) acc).Nodup ∧
        ∀ s ∈ rest.foldl (fun fd s => FD_SET s fd) acc, s ∈ arr := by
    intro rest
    induction rest with
    | nil => exact fun _ _ hacc => hacc
    | cons u rest ih =>
      intro acc hrest hacc
      refine ih (FD_SET u acc) (fun s hs => hrest s (List.mem_cons_of_mem _ hs)) ?_
      rw [FD_SET]
      split
      · exact hacc
      · rename_i hu
        split
        · rw [← List.concat_eq_append]
          refine ⟨hacc.1.concat hu, fun s hs => ?_⟩
          rw [List.concat_eq_append] at hs
          obtain hs | hs := List.mem_append.mp hs
          · exact hacc.2 s hs
          · rw [List.mem_singleton.mp hs]
            exact hrest u List.mem_cons_self
        · exact hacc
  exact hfold arr [] (fun _ hs => hs) ⟨List.nodup_nil, fun _ hs => by cases hs⟩

theorem select_spec (ready : List SOCKET) (st : Process DB) :
    (select ready st).fdread.Nodup ∧ ∀ s ∈ (select ready st).fdread, s ∈ st.g_CliSocketArr := by
  obtain ⟨hnd, hsub⟩ := fdread_spec st.g_CliSocketArr
  rw [Threads.select, selected]
  split
  · exact ⟨List.nodup_nil, fun _ hs => by cases hs⟩
  · rename_i fd hfd
    split at hfd
    · cases hfd
    · cases hfd
      split
      · exact ⟨List.nodup_nil, fun _ hs => by cases hs⟩
      · exact ⟨hnd.filter _, fun s hs => hsub s (List.mem_filter.mp hs).1⟩

theorem Passing.select {ready : List SOCKET} {ret : Recv} {rand : List Nat} (hw : T.worker = .waiting) :
    Passing (watch p T (.work ready ret rand))
      { T with worker := Threads.select ready T.process } := by
  obtain ⟨hnd, hsub⟩ := select_spec ready T.process
  have hmap : ((Threads.select ready T.process).fdread.map p.now).map Prod.fst =
      (Threads.select ready T.process).fdread := by
    rw [List.map_map]
    exact List.map_id _
  rw [watch, hw]
  refine ⟨?_, ?_, ?_, ?_, ?_⟩
  · dsimp only
    rw [hmap]
    exact hnd
  · intro c hc
    obtain ⟨s, -, rfl⟩ := List.mem_map.mp hc
    exact Nat.le_refl _
  · intro c hc
    obtain ⟨s, hs, rfl⟩ := List.mem_map.mp (mem_unread.mp hc).1
    exact ⟨hsub s hs, rfl⟩
  · intro fdread i hread
    dsimp only at hread ⊢
    rw [hmap, hread]
    rfl
  · intro fdread i hread
    have hzero : i = 0 := by
      dsimp only at hread
      rw [Threads.select] at hread
      split at hread
      · cases hread
      · split at hread <;> cases hread
        rfl
    rw [hzero, List.take_zero]
    exact Nat.zero_le _

variable {ready fdread : List SOCKET} {ret : Recv} {rand : List Nat} {i : Nat}

theorem countP_take_succ {P : SOCKET → Bool} (hi : arr[i]? = some s) (hs : P s = false) :
    (arr.take (i + 1)).countP P = (arr.take i).countP P := by
  rw [List.take_add_one, hi, Option.toList_some, List.countP_append, List.countP_singleton, hs]
  rfl

theorem Passing.skip (h : Passing p T) (hw : T.worker = .reading fdread i)
    (hi : T.process.g_CliSocketArr[i]? = some s) (hout : s ∉ fdread) :
    Passing (watch p T (.work ready ret rand)) { T with worker := .reading fdread (i + 1) } := by
  have hself : p.waits s = false := by
    refine decide_eq_false fun hwaits => hout ?_
    rw [← h.told fdread i hw]
    exact List.mem_map.mpr ⟨p.now s, (mem_unread.mp hwaits).1, rfl⟩
  rw [watch, hw]
  dsimp only
  rw [reads_eq hw hi, if_neg hout, Option.elim_none]
  refine ⟨h.handles, h.past, h.still, ?_, ?_⟩
  · rintro _ _ ⟨⟩
    exact h.told fdread i hw
  · rintro _ _ ⟨⟩
    rw [countP_take_succ hi hself]
    exact h.few fdread i hw

theorem Leaves.mem {arr' : List SOCKET} (harr : Leaves ret i arr arr') (hnd : arr.Nodup)
    (hi : arr[i]? = some s) {u : SOCKET} (hu : u ∈ arr) (hne : u ≠ s) : u ∈ arr' := by
  obtain ⟨-, x, rfl, hx⟩ | ⟨-, rfl⟩ := harr
  · obtain ⟨hlen, rfl⟩ := List.getElem?_eq_some_iff.mp hi
    exact (mem_set_dropLast hnd hlen hx).mpr ⟨hu, hne⟩
  · exact hu

theorem Leaves.countP_le {arr' : List SOCKET} (harr : Leaves ret i arr arr')
    (hi : arr[i]? = some s) {P : SOCKET → Bool} (hs : P s = false) :
    (arr'.take (i + 1)).countP P ≤ (arr.take i).countP P + closes ret := by
  obtain ⟨hgone, x, rfl, -⟩ | ⟨-, rfl⟩ := harr
  · obtain ⟨hlen, -⟩ := List.getElem?_eq_some_iff.mp hi
    rw [closes, if_pos hgone]
    exact countP_take_set_dropLast hlen x P
  · rw [countP_take_succ hi hs]
    exact Nat.le_add_right _ _

theorem Passing.read (h : Passing p T) (hnd : T.process.g_CliSocketArr.Nodup)
    (hw : T.worker = .reading fdread i) (hi : T.process.g_CliSocketArr[i]? = some s)
    (hin : s ∈ fdread) (harr : Leaves ret i T.process.g_CliSocketArr M.process.g_CliSocketArr) :
    Passing (watch p T (.work ready ret rand))
      { M with worker := .reading fdread (i + 1) } := by
  rw [watch, hw]
  dsimp only
  rw [reads_eq hw hi, if_pos hin, Option.elim_some]
  generalize hq : ({ p with read := p.read ++ [p.now s], closes := p.closes + closes ret } : Pass) = q
  have hunread : ∀ c ∈ q.unread, c ∈ p.unread ∧ c ≠ p.now s := by
    intro c hc
    rw [← hq] at hc
    obtain ⟨hrep, hnot⟩ := mem_unread.mp hc
    refine ⟨mem_unread.mpr ⟨hrep, fun hread => hnot (List.mem_append_left _ hread)⟩, ?_⟩
    rintro rfl
    exact hnot List.mem_concat_self
  have hnow : q.now = p.now := by rw [← hq]; rfl
  have hself : q.waits s = false := by
    refine decide_eq_false fun hwaits => (hunread _ hwaits).2 ?_
    rw [hnow]
  refine ⟨by rw [← hq]; exact h.handles, by rw [← hq]; exact h.past, ?_, ?_, ?_⟩
  · intro c hc
    obtain ⟨hold, hne⟩ := hunread c hc
    obtain ⟨hmem, hc'⟩ := h.still c hold
    rw [hnow]
    refine ⟨harr.mem hnd hi hmem fun heq => hne ?_, hc'⟩
    rw [← heq, hc']
  · rintro _ _ ⟨⟩
    rw [← hq]
    exact h.told fdread i hw
  · rintro _ _ ⟨⟩
    have hless : ∀ u, q.waits u = true → p.waits u = true := by
      intro u hu
      have hmem := (hunread _ (of_decide_eq_true hu)).1
      rw [hnow] at hmem
      exact decide_eq_true hmem
    have hcloses : q.closes = p.closes + closes ret := by rw [← hq]
    calc (M.process.g_CliSocketArr.take (i + 1)).countP q.waits
        ≤ (T.process.g_CliSocketArr.take i).countP q.waits + closes ret :=
          harr.countP_le hi hself
      _ ≤ (T.process.g_CliSocketArr.take i).countP p.waits + closes ret :=
          Nat.add_le_add_right (List.countP_mono_left fun u _ => hless u) _
      _ ≤ p.closes + closes ret := Nat.add_le_add_right (h.few fdread i hw) _
      _ = q.closes := hcloses.symm

theorem Turned.passing (h : Turned T t T') (hnd : T.process.g_CliSocketArr.Nodup)
    (hp : Passing p T) : Passing (watch p T t) T' := by
  cases h with
  | accept hst => exact hp.accept hst
  | poll harr =>
    exact { hp with still := by rw [harr]; exact hp.still
                    few := by rw [harr]; exact hp.few }
  | select hw => exact Passing.select hw
  | finish hw hi =>
    rw [watch, hw]
    dsimp only
    rw [reads, hw]
    simp only [hi, Option.filter_none, Option.elim_none]
    exact ⟨hp.handles, hp.past, hp.still, by simp, by simp⟩
  | skip hw hi hout => exact hp.skip hw hi hout
  | read hw hi hin harr => exact hp.read hnd hw hi hin harr

theorem run_passing (h : ThreadRun pb sqlite fill db tr T) : Passing (pass tr) T := by
  refine Run.always (I := fun tr T => Passing (pass tr) T) (C := fun _ _ => True) ?_ ?_ h
    fun _ _ => trivial
  · refine ⟨List.nodup_nil, ?_, ?_, by simp, by simp⟩ <;> intro c hc <;> cases hc
  · rintro tr T t T' hr hp - ⟨out, hturn⟩
    exact (turned hturn).passing (run_nodup hr) hp

/-- At the end of a pass the worker has passed over no more connections that `select`
reported than it has closed, and these are still open for the next one. -/
theorem pass_misses_few (h : ThreadRun pb sqlite fill db tr T) (hw : T.worker = .reading fdread i)
    (hend : T.process.g_CliSocketArr[i]? = none) : (pass tr).unread.length ≤ (pass tr).closes ∧
      ∀ c ∈ (pass tr).unread, c.1 ∈ T.process.g_CliSocketArr ∧ (pass tr).now c.1 = c := by
  have hp := run_passing h
  have hnd : ((pass tr).unread.map Prod.fst).Nodup :=
    hp.handles.sublist (List.filter_sublist.map _)
  have hsub : (pass tr).unread.map Prod.fst ⊆
      T.process.g_CliSocketArr.filter (pass tr).waits := by
    intro s hs
    obtain ⟨c, hc, rfl⟩ := List.mem_map.mp hs
    obtain ⟨hin, hnow⟩ := hp.still c hc
    refine List.mem_filter.mpr ⟨hin, decide_eq_true ?_⟩
    rw [hnow]
    exact hc
  have hfew := hp.few fdread i hw
  rw [List.take_of_length_le (List.getElem?_eq_none_iff.mp hend)] at hfew
  refine ⟨?_, hp.still⟩
  calc (pass tr).unread.length = ((pass tr).unread.map Prod.fst).length := (List.length_map _).symm
    _ ≤ (T.process.g_CliSocketArr.filter (pass tr).waits).length :=
        List.Nodup.length_le_of_subset hnd hsub
    _ = T.process.g_CliSocketArr.countP (pass tr).waits := List.countP_eq_length_filter.symm
    _ ≤ (pass tr).closes := hfew

end Progress

section Example

def nextTurn (T : Machine Unit) (t : Turn) : Option (Machine Unit) :=
  ((turn wire noTables none T t).toOption).map Prod.fst

theorem turns_of_nextTurn {T T' : Machine Unit} {t : Turn} (h : nextTurn T t = some T') :
    Turns wire noTables none T t T' := by
  rw [nextTurn] at h
  cases ht : turn wire noTables none T t with
  | error f =>
    rw [ht] at h
    cases h
  | ok x =>
    rw [ht] at h
    cases h
    exact ⟨x.2, ht⟩

theorem exists_thread_run (ts : List Turn) (P : List (Machine Unit × Turn) → Machine Unit → Bool)
    (h : (execute nextTurn ts ([], { process := start () })).any (fun y => P y.1 y.2) = true) :
    ∃ tr T, ThreadRun wire noTables none () tr T ∧ actions tr = ts ∧ P tr T = true :=
  exists_of_execute (fun _ _ _ => turns_of_nextTurn) h

def handleAgain : List Turn :=
  [.accept 7 0 0, .accept 8 0 0, .work [7, 8] .closed [], .work [] .closed [], .accept 7 0 0,
    .work [] .closed []]

def below (tr : List (Machine Unit × Turn)) (T : Machine Unit) : Bool :=
  (points tr T).all fun x => decide (x.2.process.g_CliSocketArr.length < FD_SETSIZE)

theorem two_clients_refine : ∃ tr T, ThreadRun wire noTables none () tr T ∧ actions tr = handleAgain ∧
    ServerRun noTables () (parsed wire (inputs none tr)) T.process := by
  obtain ⟨tr, T, hrun, hact, hp⟩ := exists_thread_run handleAgain below (by decide +kernel)
  have hlt : ∀ x ∈ points tr T, x.2.process.g_CliSocketArr.length < FD_SETSIZE := fun x hx =>
    of_decide_eq_true (List.all_eq_true.mp hp x hx)
  exact ⟨tr, T, hrun, hact, (threads_refine hrun hlt).1⟩

/-- The second `recv` on handle 7 is on a connection that `select` did not report. -/
theorem new_client_is_read : ∃ tr T, ThreadRun wire noTables none () tr T ∧
    actions tr = handleAgain ∧ (pass tr).reported = [(7, 1), (8, 1)] ∧
    (pass tr).read = [(7, 1), (7, 2)] ∧ (pass tr).read.Nodup := by
  obtain ⟨tr, T, hrun, hact, hp⟩ := exists_thread_run handleAgain
    (fun tr _ => decide ((pass tr).reported = [(7, 1), (8, 1)] ∧ (pass tr).read = [(7, 1), (7, 2)]))
    (by decide +kernel)
  obtain ⟨hreported, hread⟩ := of_decide_eq_true hp
  exact ⟨tr, T, hrun, hact, hreported, hread, (pass_reads_once hrun).1⟩

def oneLeaves : List Turn :=
  [.accept 7 0 0, .accept 8 0 0, .work [7, 8] .closed [], .work [] .closed []]

theorem moved_client_waits : ∃ tr T, ThreadRun wire noTables none () tr T ∧
    actions tr = oneLeaves ∧ (pass tr).unread = [(8, 1)] ∧ (pass tr).unread.length ≤ 1 ∧
    8 ∈ T.process.g_CliSocketArr := by
  obtain ⟨tr, T, hrun, hact, hp⟩ := exists_thread_run oneLeaves
    (fun tr T => decide (T.worker = .reading [7, 8] 1) &&
      decide (T.process.g_CliSocketArr[1]? = none) && decide ((pass tr).unread = [(8, 1)]) &&
      decide ((pass tr).closes = 1))
    (by decide +kernel)
  simp only [Bool.and_eq_true, decide_eq_true_eq] at hp
  obtain ⟨⟨⟨hw, hend⟩, hunread⟩, hcloses⟩ := hp
  obtain ⟨hfew, hopen⟩ := pass_misses_few hrun hw hend
  rw [hcloses] at hfew
  refine ⟨tr, T, hrun, hact, hunread, hfew, (hopen (8, 1) ?_).1⟩
  rw [hunread]
  exact List.mem_singleton_self _

end Example

end JiraGame.Threads
