import JiraGame.Encoding
import JiraGame.Runs

namespace JiraGame.Delivery

open JiraGame.Scene JiraGame.Command JiraGame.DBServer JiraGame.Cache JiraGame.HallScene
open JiraGame.ServerState JiraGame.KeepAlive JiraGame.Server JiraGame.Runs JiraGame.Encoding
open JiraGame.Lib.History JiraGame.Lib.ProtoWire

/-- What one call of `recv` returns from a stream: some of its next bytes, at
most a buffer full, wherever messages begin and end. -/
structure Chunk where
  bytes : Bytes
  ne : bytes ≠ []
  le : bytes.length ≤ MSGSIZE

/-- What the environment does, with the bytes that arrive in place of messages. -/
inductive Input
  | accept (s : SOCKET) (junk : Int)
  | close (s : SOCKET)
  | recv (s : SOCKET) (chunk : Chunk) (rand : List Nat)
  | poll (j : Nat) (now : Nat)

section Bytes

variable {DB : Type} (pb : Codec) (sqlite : Sqlite DB)

/-- Every call parses its own bytes: nothing is kept for the next one. -/
def MsgDistribute (s : SOCKET) (revBuffer : Bytes) (rand : List Nat) (st : Process DB) :
    Except Fault (Process DB × Outbox) :=
  ProcessMsgLogic sqlite s (pb.ParseFromArray revBuffer) rand st

/-- The worker reads once from a socket that has data and hands the bytes to the
entity of the socket, if there is one. -/
def WorkerThread (s : SOCKET) (chunk : Chunk) (rand : List Nat) (st : Process DB) :
    Except Fault (Process DB × Outbox) :=
  if readable s st then
    match st.cache.GetEntity s with
    | none => .ok (st, [])
    | some _ => MsgDistribute pb sqlite s chunk.bytes rand st
  else .ok (st, [])

def inputStep (st : Process DB) : Input → Except Fault (Process DB × Outbox)
  | .accept s junk => (StartCServer s junk st).map fun st => (st, [])
  | .close s =>
    if readable s st then
      .ok ({ st with g_CliSocketArr := dropSocket s st.g_CliSocketArr }, [])
    else .ok (st, [])
  | .recv s chunk rand => (WorkerThread pb sqlite s chunk rand st).map deliver
  | .poll j now => (poll j now st).map deliver

def Reads (st : Process DB) (i : Input) (st' : Process DB) : Prop :=
  ∃ out, inputStep pb sqlite st i = .ok (st', out)

/-- The same with the message that the parse leaves behind. -/
def Input.action : Input → Action
  | .accept s junk => .accept s junk
  | .close s => .close s
  | .recv s chunk rand => .packet s (pb.ParseFromArray chunk.bytes) rand
  | .poll j now => .poll j now

theorem inputStep_eq (st : Process DB) (i : Input) :
    inputStep pb sqlite st i = step sqlite st (i.action pb) := by
  cases i <;> rfl

end Bytes

variable {DB : Type} {pb : Codec} {sqlite : Sqlite DB} {st₀ st : Process DB} {s : SOCKET}
  {tr : List (Process DB × Input)}

/-- The run of the server on the parsed messages. -/
def parsed (pb : Codec) (tr : List (Process DB × Input)) : List (Process DB × Action) :=
  tr.map fun x => (x.1, x.2.action pb)

theorem run_parsed (h : Run (Reads pb sqlite) st₀ tr st) :
    Run (Steps sqlite) st₀ (parsed pb tr) st := by
  induction h with
  | nil => exact Run.nil
  | cons _ hstep ih =>
    obtain ⟨out, hout⟩ := hstep
    rw [inputStep_eq] at hout
    exact Run.cons ih ⟨out, hout⟩

section Observers

def got (s : SOCKET) (x : Process DB × Input) : Option Chunk :=
  match x.2 with
  | .recv t chunk _ => if t = s ∧ readable s x.1 = true then some chunk else none
  | _ => none

/-- The message that `ProcessMsgLogic` gets for `s`. -/
def handed (s : SOCKET) (x : Process DB × Action) : Option UnPacket :=
  match x.2 with
  | .packet t m _ =>
    if t = s ∧ readable s x.1 = true ∧ (x.1.cache.GetEntity s).isSome = true then some m else none
  | _ => none

/-- All the bytes of `s` in a run, as they were read. -/
def chunks (s : SOCKET) (tr : List (Process DB × Input)) : List Chunk :=
  tr.reverse.filterMap (got s)

/-- Those that were read while `s` had an entity. -/
def distributed (s : SOCKET) (tr : List (Process DB × Input)) : List Chunk :=
  tr.reverse.filterMap fun x => (got s x).filter fun _ => (x.1.cache.GetEntity s).isSome

def processed (s : SOCKET) (tr : List (Process DB × Action)) : List UnPacket :=
  tr.reverse.filterMap (handed s)

theorem receive_eq (m : UnPacket) (rand : List Nat) (st : Process DB) :
    receive sqlite s m rand st =
      (handed s (st, .packet s m rand)).elim (.ok (st, []))
        fun m => ProcessMsgLogic sqlite s m rand st := by
  cases hr : readable s st <;> cases he : st.cache.GetEntity s <;> simp [receive, handed, hr, he]

theorem handed_action (x : Process DB × Input) : handed s (x.1, x.2.action pb) =
    ((got s x).filter fun _ => (x.1.cache.GetEntity s).isSome).map
      fun c => pb.ParseFromArray c.bytes := by
  obtain ⟨st, i⟩ := x
  cases i with
  | recv t chunk rand =>
    by_cases ht : t = s <;> cases hr : readable s st <;> cases he : st.cache.GetEntity s <;>
      simp [handed, got, Input.action, Option.filter, ht, hr, he]
  | accept | close | poll => rfl

theorem processed_parsed : processed s (parsed pb tr) =
    (distributed s tr).map fun c => pb.ParseFromArray c.bytes := by
  rw [processed, parsed, distributed, ← List.map_reverse, List.filterMap_map, List.map_filterMap]
  congr 1
  funext x
  exact handed_action x

theorem distributed_eq (h : ∀ x ∈ tr, (got s x).isSome = true →
    (x.1.cache.GetEntity s).isSome = true) : distributed s tr = chunks s tr := by
  apply List.filterMap_congr
  intro x hx
  cases hg : got s x with
  | none => rfl
  | some c => simp [h x (List.mem_reverse.mp hx) (by rw [hg]; rfl)]

end Observers

theorem length_le_flatten {α : Type} {gs : List (List α)} (hne : ∀ g ∈ gs, g ≠ []) :
    gs.length ≤ gs.flatten.length := by
  induction gs with
  | nil => exact Nat.le_refl _
  | cons g gs ih =>
    have hg := List.length_pos_of_ne_nil (hne g List.mem_cons_self)
    have hrest := ih fun x hx => hne x (List.mem_cons_of_mem _ hx)
    rw [List.flatten_cons, List.length_append, List.length_cons]
    omega

theorem length_eq_one_of_flatten {α : Type} {gs : List (List α)} (hne : ∀ g ∈ gs, g ≠ [])
    (h : gs.flatten.length = gs.length) : ∀ g ∈ gs, g.length = 1 := by
  induction gs with
  | nil => exact fun _ hg => absurd hg List.not_mem_nil
  | cons g gs ih =>
    have hg := List.length_pos_of_ne_nil (hne g List.mem_cons_self)
    have hrest : ∀ x ∈ gs, x ≠ [] := fun x hx => hne x (List.mem_cons_of_mem _ hx)
    have hle := length_le_flatten hrest
    rw [List.flatten_cons, List.length_append, List.length_cons] at h
    intro x hx
    obtain rfl | hx := List.mem_cons.mp hx
    · omega
    · exact ih hrest (by omega) x hx

section Groups

variable {cs : List Chunk} {groups : List (List UnPacket)}

/-- Chunks of whole messages are parsed to the merge of each group. -/
theorem map_parse_groups (hpb : pb.Merges) (hs : ∀ g ∈ groups, ∀ m ∈ g, Sendable m)
    (h : cs.map Chunk.bytes = groups.map fun g => g.flatMap pb.SerializeToArray) :
    cs.map (fun c => pb.ParseFromArray c.bytes) = groups.map fun g => g.foldl MergeFrom {} := by
  have hcomp : cs.map (fun c => pb.ParseFromArray c.bytes) =
      (cs.map Chunk.bytes).map pb.ParseFromArray := by
    rw [List.map_map]
    rfl
  rw [hcomp, h, List.map_map]
  apply List.map_congr_left
  intro g hg
  obtain ⟨c, -, hc⟩ := List.mem_map.mp (h ▸ List.mem_map_of_mem hg)
  exact hpb g (hs g hg) (hc ▸ c.le)

theorem merges_eq_iff (hne : ∀ g ∈ groups, g ≠ []) :
    groups.map (fun g => g.foldl MergeFrom {}) = groups.flatten ↔ ∀ g ∈ groups, g.length = 1 := by
  refine ⟨?_, ?_⟩
  · intro h
    refine length_eq_one_of_flatten hne ?_
    rw [← h, List.length_map]
  · intro h
    induction groups with
    | nil => rfl
    | cons g gs ih =>
      obtain ⟨m, rfl⟩ := List.length_eq_one_iff.mp (h g List.mem_cons_self)
      have hrest := ih (fun x hx => hne x (List.mem_cons_of_mem _ hx))
        fun x hx => h x (List.mem_cons_of_mem _ hx)
      rw [List.map_cons, List.flatten_cons, hrest, List.foldl_cons, List.foldl_nil,
        MergeFrom_blank]
      rfl

theorem ne_nil_of_chunks
    (h : cs.map Chunk.bytes = groups.map fun g => g.flatMap pb.SerializeToArray) :
    ∀ g ∈ groups, g ≠ [] := by
  rintro g hg rfl
  obtain ⟨c, -, hc⟩ := List.mem_map.mp (h ▸ List.mem_map_of_mem hg)
  exact c.ne hc

end Groups

/-- The messages that reach the factory are the parses of the chunks, one each,
whatever was sent. Where chunks hold whole messages these are the merges, and
they are the messages sent exactly if each chunk holds one. -/
theorem one_message_per_chunk (hpb : pb.Merges) (s : SOCKET)
    (h : Run (Reads pb sqlite) st₀ tr st) :
    Run (Steps sqlite) st₀ (parsed pb tr) st ∧
    processed s (parsed pb tr) = (distributed s tr).map (fun c => pb.ParseFromArray c.bytes) ∧
    ((∀ x ∈ tr, (got s x).isSome = true → (x.1.cache.GetEntity s).isSome = true) →
      distributed s tr = chunks s tr) ∧
    ∀ groups : List (List UnPacket), (∀ g ∈ groups, ∀ m ∈ g, Sendable m) →
      (distributed s tr).map Chunk.bytes = groups.map (fun g => g.flatMap pb.SerializeToArray) →
      processed s (parsed pb tr) = groups.map (fun g => g.foldl MergeFrom {}) ∧
      (processed s (parsed pb tr) = groups.flatten ↔ ∀ g ∈ groups, g.length = 1) := by
  refine ⟨run_parsed h, processed_parsed, distributed_eq, ?_⟩
  intro groups hs hg
  have hmerge : processed s (parsed pb tr) = groups.map fun g => g.foldl MergeFrom {} := by
    rw [processed_parsed]
    exact map_parse_groups hpb hs hg
  refine ⟨hmerge, ?_⟩
  rw [hmerge]
  exact merges_eq_iff (ne_nil_of_chunks hg)

def beat (scene : CurScene) : UnPacket :=
  { curscene? := some .CS_KeepAlive, keepalive? := some { curscene? := some scene } }

def beats : List UnPacket := [beat .CS_WaitRoom, beat .CS_MainScene]

def oneBeat : Chunk where
  bytes := [8, 7, 122, 2, 8, 5]
  ne := by decide
  le := by decide

def twoBeats : Chunk where
  bytes := [8, 7, 122, 2, 8, 5, 8, 7, 122, 2, 8, 6]
  ne := by decide
  le := by decide

theorem reads_of_next {st' : Process DB} {i : Input}
    (h : next sqlite st (i.action pb) = some st') : Reads pb sqlite st i st' := by
  obtain ⟨out, hout⟩ := steps_of_next h
  exact ⟨out, by rw [inputStep_eq, hout]⟩

def nextRead (sqlite : Sqlite DB) (st : Process DB) (i : Input) : Option (Process DB) :=
  next sqlite st (i.action wire)

theorem exists_reads (sqlite : Sqlite DB) (db : DB) (is : List Input)
    (P : List (Process DB × Input) → Bool)
    (h : (execute (nextRead sqlite) is ([], start db)).any (fun y => P y.1) = true) :
    ∃ tr st, Run (Reads wire sqlite) (start db) tr st ∧ actions tr = is ∧ P tr = true :=
  exists_of_execute (P := fun tr _ => P tr) (fun _ _ _ => reads_of_next) h

theorem beats_in_two_reads : ∃ tr st, Run (Reads wire noTables) (start ()) tr st ∧
    actions tr = [.accept 5 0, .recv 5 oneBeat [], .recv 5 twoBeats []] ∧
    processed 5 (parsed wire tr) = [beat .CS_WaitRoom, beat .CS_MainScene] := by
  obtain ⟨tr, st, hrun, hact, hp⟩ := exists_reads noTables ()
    [.accept 5 0, .recv 5 oneBeat [], .recv 5 twoBeats []]
    (fun tr => decide ((distributed 5 tr).map Chunk.bytes = [oneBeat.bytes, twoBeats.bytes]))
    (by decide +kernel)
  refine ⟨tr, st, hrun, hact, ?_⟩
  obtain ⟨-, -, -, hgroups⟩ := one_message_per_chunk wire_merges 5 hrun
  obtain ⟨hmerge, -⟩ := hgroups [[beat .CS_WaitRoom], beats] (by decide)
    ((of_decide_eq_true hp).trans (by decide +kernel))
  rw [hmerge]
  decide

/-- Two heartbeats in one chunk are one heartbeat. -/
theorem beats_in_one_read : ∃ tr st, Run (Reads wire noTables) (start ()) tr st ∧
    actions tr = [.accept 5 0, .recv 5 twoBeats []] ∧ (∀ m ∈ beats, Sendable m) ∧
    (chunks 5 tr).flatMap Chunk.bytes = beats.flatMap wire.SerializeToArray ∧
    processed 5 (parsed wire tr) = [beat .CS_MainScene] ∧
    processed 5 (parsed wire tr) ≠ beats := by
  obtain ⟨tr, st, hrun, hact, hp⟩ := exists_reads noTables ()
    [.accept 5 0, .recv 5 twoBeats []]
    (fun tr => decide ((chunks 5 tr).flatMap Chunk.bytes = beats.flatMap wire.SerializeToArray) &&
      decide (processed 5 (parsed wire tr) = [beat .CS_MainScene]))
    (by decide +kernel)
  simp only [Bool.and_eq_true, decide_eq_true_eq] at hp
  obtain ⟨hbytes, hone⟩ := hp
  refine ⟨tr, st, hrun, hact, by decide, hbytes, hone, ?_⟩
  rw [hone]
  decide

end JiraGame.Delivery
