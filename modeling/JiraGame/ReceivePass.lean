import JiraGame.Connections
import JiraGame.Lib.SwapRemove

namespace JiraGame.ReceivePass

open JiraGame.Scene JiraGame.DBServer JiraGame.ServerState JiraGame.Server JiraGame.Connections
open JiraGame.Lib.History JiraGame.Lib.SwapRemove

def SOCKET_ERROR : Int := -1

def WSAECONNRESET : Int := 10054

/-- What a call of `recv` returns, and `WSAGetLastError` after it. -/
structure Received where
  ret : Int
  error : Int

/-- The client has closed the connection. -/
def Received.closes (x : Received) : Bool :=
  x.ret = 0 || (x.ret = SOCKET_ERROR && x.error = WSAECONNRESET)

/-- The sockets that a pass called `recv` and `closesocket` on, in order. -/
structure Calls where
  recv : List SOCKET := []
  closesocket : List SOCKET := []

/-- The second loop of `WorkerThread`, from index `i`. What `recv` returns may
depend on the calls before. A message that is handed over leaves the array alone. -/
def receiveLoop (fdread : List SOCKET) (recv : List SOCKET → SOCKET → Received) (i : Nat)
    (conns : ArrayPrefix SOCKET) (calls : Calls) : ArrayPrefix SOCKET × Calls :=
  if h : i < conns.count then
    let s := conns.get i h
    if s ∈ fdread then
      let ret := recv calls.recv s
      let calls := { calls with recv := calls.recv ++ [s] }
      if ret.closes then
        -- the slot is not looked at again, although another socket is in it now
        receiveLoop fdread recv (i + 1) (conns.dropAt i h)
          { calls with closesocket := calls.closesocket ++ [s] }
      else receiveLoop fdread recv (i + 1) conns calls
    else receiveLoop fdread recv (i + 1) conns calls
  else (conns, calls)
termination_by conns.count - i
decreasing_by
  · rw [ArrayPrefix.count_dropAt]
    omega
  · omega
  · omega

/-- What holds at index `i` of a pass that began with the sockets `all`. -/
structure Scanned (all fdread : List SOCKET) (recv : List SOCKET → SOCKET → Received) (i : Nat)
    (conns : ArrayPrefix SOCKET) (calls : Calls) : Prop where
  parts : (calls.closesocket ++ conns.live).Perm all
  ready : ∀ s ∈ calls.recv, s ∈ fdread
  once : calls.recv.Nodup
  behind : ∀ s ∈ calls.recv, s ∈ calls.closesocket ∨ s ∈ conns.live.take i
  read : calls.closesocket.Sublist calls.recv
  results : ∀ before s after, calls.recv = before ++ s :: after →
    (s ∈ calls.closesocket ↔ (recv before s).closes = true)

section Pass

variable {all fdread : List SOCKET} {recv : List SOCKET → SOCKET → Received} {i : Nat}
  {conns : ArrayPrefix SOCKET} {calls : Calls}

theorem scanned_start (conns : ArrayPrefix SOCKET) (fdread : List SOCKET)
    (recv : List SOCKET → SOCKET → Received) : Scanned conns.live fdread recv 0 conns {} where
  parts := List.Perm.refl _
  ready := by simp
  once := List.nodup_nil
  behind := by simp
  read := List.Sublist.refl _
  results := by simp

theorem Scanned.nodup (hs : Scanned all fdread recv i conns calls) (hnd : all.Nodup) :
    (calls.closesocket ++ conns.live).Nodup := hs.parts.nodup_iff.mpr hnd

theorem Scanned.fresh (hs : Scanned all fdread recv i conns calls) (hnd : all.Nodup)
    (h : i < conns.count) : conns.get i h ∉ calls.recv := by
  obtain ⟨-, hlive, hapart⟩ := List.nodup_append.mp (hs.nodup hnd)
  intro hin
  obtain hclosed | htake := hs.behind _ hin
  · exact hapart _ hclosed _ (ArrayPrefix.get_mem h) rfl
  · exact ArrayPrefix.get_notMem_take hlive h htake

theorem Scanned.once_more (hs : Scanned all fdread recv i conns calls) (hnd : all.Nodup)
    (h : i < conns.count) : (calls.recv ++ [conns.get i h]).Nodup := by
  rw [List.nodup_append]
  refine ⟨hs.once, List.nodup_singleton _, ?_⟩
  rintro s hin t ht rfl
  rw [List.mem_singleton.mp ht] at hin
  exact hs.fresh hnd h hin

theorem Scanned.ready_more (hs : Scanned all fdread recv i conns calls) (h : i < conns.count)
    (hready : conns.get i h ∈ fdread) : ∀ s ∈ calls.recv ++ [conns.get i h], s ∈ fdread := by
  intro s hin
  obtain hin | hin := List.mem_append.mp hin
  · exact hs.ready s hin
  · rwa [List.mem_singleton.mp hin]

theorem Scanned.results_more (hs : Scanned all fdread recv i conns calls) {s₀ : SOCKET}
    {closed : List SOCKET} (hold : ∀ s ∈ calls.recv, s ∈ closed ↔ s ∈ calls.closesocket)
    (hnew : s₀ ∈ closed ↔ (recv calls.recv s₀).closes = true) :
    ∀ before s after, calls.recv ++ [s₀] = before ++ s :: after →
      (s ∈ closed ↔ (recv before s).closes = true) := by
  intro before s after heq
  obtain rfl | ⟨after, u, rfl⟩ := List.eq_nil_or_concat after
  · obtain ⟨rfl, hlast⟩ := List.append_inj' heq rfl
    cases hlast
    exact hnew
  · rw [List.concat_eq_append, ← List.cons_append, ← List.append_assoc] at heq
    have hrecv := (List.append_inj' heq rfl).1
    have hin : s ∈ calls.recv := by
      rw [hrecv]
      exact List.mem_append_right _ List.mem_cons_self
    exact (hold s hin).trans (hs.results before s after hrecv)

theorem Scanned.skip (hs : Scanned all fdread recv i conns calls) (h : i < conns.count) :
    Scanned all fdread recv (i + 1) conns calls where
  parts := hs.parts
  ready := hs.ready
  once := hs.once
  behind s hin := by
    rw [ArrayPrefix.take_succ h]
    exact (hs.behind s hin).imp_right (List.mem_append_left _)
  read := hs.read
  results := hs.results

theorem Scanned.keep (hs : Scanned all fdread recv i conns calls) (hnd : all.Nodup)
    (h : i < conns.count) (hready : conns.get i h ∈ fdread)
    (hopen : ¬(recv calls.recv (conns.get i h)).closes = true) :
    Scanned all fdread recv (i + 1) conns { calls with recv := calls.recv ++ [conns.get i h] } where
  parts := hs.parts
  ready := hs.ready_more h hready
  once := hs.once_more hnd h
  behind s hin := by
    rw [ArrayPrefix.take_succ h]
    obtain hin | hin := List.mem_append.mp hin
    · exact (hs.behind s hin).imp_right (List.mem_append_left _)
    · exact .inr (List.mem_append_right _ hin)
  read := hs.read.trans (List.sublist_append_left _ _)
  results := hs.results_more (fun _ _ => Iff.rfl)
    (iff_of_false (fun hin => hs.fresh hnd h (hs.read.subset hin)) hopen)

/-- The loop closes a socket, and the last one takes its slot. What was read and
is open stands before the slot. -/
theorem Scanned.close (hs : Scanned all fdread recv i conns calls) (hnd : all.Nodup)
    (h : i < conns.count) (hready : conns.get i h ∈ fdread)
    (hclose : (recv calls.recv (conns.get i h)).closes = true) :
    Scanned all fdread recv (i + 1) (conns.dropAt i h)
      ⟨calls.recv ++ [conns.get i h], calls.closesocket ++ [conns.get i h]⟩ where
  parts := by
    rw [List.append_assoc]
    exact ((ArrayPrefix.dropAt_perm h).append_left _).trans hs.parts
  ready := hs.ready_more h hready
  once := hs.once_more hnd h
  behind s hin := by
    obtain hin | hin := List.mem_append.mp hin
    · obtain hclosed | htake := hs.behind s hin
      · exact .inl (List.mem_append_left _ hclosed)
      · rw [← ArrayPrefix.take_dropAt h] at htake
        exact .inr (List.take_subset_take_left _ (Nat.le_succ i) htake)
    · exact .inl (List.mem_append_right _ hin)
  read := hs.read.append (List.Sublist.refl _)
  results := by
    refine hs.results_more (fun s hin => ?_) (iff_of_true List.mem_concat_self hclose)
    rw [List.mem_append, List.mem_singleton]
    refine or_iff_left ?_
    rintro rfl
    exact hs.fresh hnd h hin

theorem receiveLoop_scanned
    (hs : Scanned all fdread recv i conns calls) (hnd : all.Nodup) :
    ∃ j, Scanned all fdread recv j (receiveLoop fdread recv i conns calls).1
      (receiveLoop fdread recv i conns calls).2 := by
  fun_induction receiveLoop fdread recv i conns calls with
  | case1 i conns calls h s hready ret calls' hclose ih => exact ih (hs.close hnd h hready hclose)
  | case2 i conns calls h s hready ret calls' hclose ih => exact ih (hs.keep hnd h hready hclose)
  | case3 i conns calls h s hready ih => exact ih (hs.skip h)
  | case4 i conns calls h => exact ⟨i, hs⟩

end Pass

section Closes

variable {DB : Type} {sqlite : Sqlite DB} {fdread : List SOCKET}
  {recv : List SOCKET → SOCKET → Received} {i : Nat} {conns : ArrayPrefix SOCKET} {calls : Calls}

theorem dropSocket_get (hnd : conns.live.Nodup) (h : i < conns.count) :
    dropSocket (conns.get i h) conns.live = (conns.dropAt i h).live := by
  have hi : i < conns.live.length := by rwa [ArrayPrefix.length_live]
  have hget : conns.get i h = conns.live[i] := by
    rw [← Option.some_inj, ← ArrayPrefix.live_get, List.getElem?_eq_getElem]
  rw [dropSocket, ArrayPrefix.getLast?_live h, ArrayPrefix.live_dropAt, hget]
  dsimp only
  rw [map_replace hnd hi]

def ClosedUpTo (sqlite : Sqlite DB) (st : Process DB) (conns : ArrayPrefix SOCKET)
    (calls : Calls) : Prop :=
  ∃ tr st', Run (Steps sqlite) st tr st' ∧ actions tr = calls.closesocket.map Action.close ∧
    st'.g_CliSocketArr = conns.live

theorem ClosedUpTo.close {st : Process DB} (hc : ClosedUpTo sqlite st conns calls)
    (hnd : conns.live.Nodup) (hlt : conns.count < FD_SETSIZE) (h : i < conns.count)
    (read : List SOCKET) : ClosedUpTo sqlite st (conns.dropAt i h)
      ⟨read, calls.closesocket ++ [conns.get i h]⟩ := by
  obtain ⟨tr, st', hrun, hact, harr⟩ := hc
  have hread : readable (conns.get i h) st' = true := by
    rw [readable, harr, ArrayPrefix.length_live]
    simp [ArrayPrefix.get_mem h, hlt]
  have hstep : Steps sqlite st' (.close (conns.get i h))
      { st' with g_CliSocketArr := dropSocket (conns.get i h) st'.g_CliSocketArr } :=
    ⟨[], by rw [step, if_pos hread]⟩
  refine ⟨_, _, hrun.cons hstep, ?_, ?_⟩
  · rw [List.map_append, ← hact]
    simp [actions]
  · dsimp only
    rw [harr, dropSocket_get hnd h]

theorem receiveLoop_closes {all : List SOCKET} {st : Process DB}
    (hs : Scanned all fdread recv i conns calls) (hnd : all.Nodup) (hlt : all.length < FD_SETSIZE)
    (hc : ClosedUpTo sqlite st conns calls) :
    ClosedUpTo sqlite st (receiveLoop fdread recv i conns calls).1
      (receiveLoop fdread recv i conns calls).2 := by
  fun_induction receiveLoop fdread recv i conns calls with
  | case1 i conns calls h s hready ret calls' hclose ih =>
    have hlen := hs.parts.length_eq
    rw [List.length_append, ArrayPrefix.length_live] at hlen
    have hlive := (List.nodup_append.mp (hs.nodup hnd)).2.1
    exact ih (hs.close hnd h hready hclose) (hc.close hlive (by omega) h _)
  | case2 i conns calls h s hready ret calls' hclose ih => exact ih (hs.keep hnd h hready hclose) hc
  | case3 i conns calls h s hready ih => exact ih (hs.skip h) hc
  | case4 i conns calls h => exact hc

/-- For the server a pass is the sequence of its closes. -/
theorem pass_is_closes (conns : ArrayPrefix SOCKET) (fdread : List SOCKET)
    (recv : List SOCKET → SOCKET → Received) {st : Process DB} (hnd : conns.live.Nodup)
    (hlt : conns.count < FD_SETSIZE) (harr : st.g_CliSocketArr = conns.live) :
    ClosedUpTo sqlite st (receiveLoop fdread recv 0 conns {}).1
      (receiveLoop fdread recv 0 conns {}).2 :=
  receiveLoop_closes (scanned_start conns fdread recv) hnd (by rwa [ArrayPrefix.length_live])
    ⟨[], st, Run.nil, rfl, harr⟩

end Closes

/-- One pass over distinct sockets: those that remain are distinct and are the
old ones without the closed ones; a socket is read once at most and only if it
is ready, and is closed if and only if that `recv` said so; and a ready socket that
was passed over remains. -/
theorem pass_keeps_open_sockets (conns : ArrayPrefix SOCKET) (fdread : List SOCKET)
    (recv : List SOCKET → SOCKET → Received) (hnd : conns.live.Nodup) :
    ∃ conns' calls, receiveLoop fdread recv 0 conns {} = (conns', calls) ∧
      conns'.live.Nodup ∧
      (∀ s, s ∈ conns'.live ↔ s ∈ conns.live ∧ s ∉ calls.closesocket) ∧
      conns'.count + calls.closesocket.length = conns.count ∧
      calls.recv.Nodup ∧ (∀ s ∈ calls.recv, s ∈ fdread ∧ s ∈ conns.live) ∧
      calls.closesocket.Nodup ∧ (∀ s ∈ calls.closesocket, s ∈ calls.recv) ∧
      (∀ before s after, calls.recv = before ++ s :: after →
        (s ∈ calls.closesocket ↔ (recv before s).closes = true)) ∧
      ∀ s ∈ conns.live, s ∈ fdread → s ∉ calls.recv → s ∈ conns'.live := by
  obtain ⟨j, hs⟩ := receiveLoop_scanned (scanned_start conns fdread recv) hnd
  refine ⟨_, _, rfl, ?_⟩
  obtain ⟨hclosed, hlive, hapart⟩ := List.nodup_append.mp (hs.nodup hnd)
  have hmem : ∀ s, s ∈ conns.live ↔ _ ∨ _ := fun s =>
    hs.parts.mem_iff.symm.trans List.mem_append
  have hlen := hs.parts.length_eq
  rw [List.length_append, ArrayPrefix.length_live, ArrayPrefix.length_live] at hlen
  refine ⟨hlive, ?_, by omega, hs.once, ?_, hclosed, fun s h => hs.read.subset h, hs.results, ?_⟩
  · intro s
    rw [hmem]
    refine ⟨fun h => ⟨.inr h, fun hc => hapart s hc s h rfl⟩, ?_⟩
    rintro ⟨hc | h, hopen⟩
    · exact absurd hc hopen
    · exact h
  · intro s h
    refine ⟨hs.ready s h, (hmem s).mpr ?_⟩
    exact (hs.behind s h).imp_right List.mem_of_mem_take
  · intro s h _ hpassed
    exact ((hmem s).mp h).resolve_left fun hc => hpassed (hs.read.subset hc)

/-- Five connections of which three have been closed by their clients. The fifth
and the fourth move into the slots of the first and the third, and wait there for
the next pass. -/
def fiveConns : ArrayPrefix SOCKET where
  cells := [11, 12, 13, 14, 15]
  count := 5
  fits := by decide

def threeClose (_ : List SOCKET) (s : SOCKET) : Received :=
  { ret := if s = 12 then 6 else if s = 15 then 6 else 0, error := 0 }

theorem pass_of_five : ∃ conns' calls,
    receiveLoop fiveConns.live threeClose 0 fiveConns {} = (conns', calls) ∧ conns'.live.Nodup ∧
      conns'.count + calls.closesocket.length = 5 ∧
      (∀ before s after, calls.recv = before ++ s :: after →
        (s ∈ calls.closesocket ↔ (threeClose before s).closes = true)) ∧
      ∀ s ∈ fiveConns.live, s ∉ calls.recv → s ∈ conns'.live := by
  obtain ⟨conns', calls, hpass, hlive, -, hcount, -, -, -, -, hresults, hstay⟩ :=
    pass_keeps_open_sockets fiveConns fiveConns.live threeClose (by decide)
  exact ⟨conns', calls, hpass, hlive, hcount, hresults, fun s hs => hstay s hs hs⟩

example : receiveLoop fiveConns.live threeClose 0 fiveConns {} =
    (⟨[15, 12, 14, 14, 15], 3, by decide⟩, ⟨[11, 12, 13], [11, 13]⟩) := by
  simp [receiveLoop, fiveConns, threeClose, ArrayPrefix.live, ArrayPrefix.get, ArrayPrefix.dropAt,
    ArrayPrefix.back, Received.closes, SOCKET_ERROR]

end JiraGame.ReceivePass
