import JiraGame.Runs

namespace JiraGame.Connections

open JiraGame.Scene JiraGame.Command JiraGame.DBServer JiraGame.Cache JiraGame.ServerState
open JiraGame.KeepAlive JiraGame.Server JiraGame.ProcessFrame JiraGame.Runs
open JiraGame.Lib.History JiraGame.Lib.Fails

/-- A socket set holds a socket once, and at most `FD_SETSIZE` of them. -/
def FD_SET (s : SOCKET) (fdread : List SOCKET) : List SOCKET :=
  if s ∈ fdread then fdread
  else if fdread.length < FD_SETSIZE then fdread ++ [s] else fdread

/-- The set that a pass of `WorkerThread` fills from the array. -/
def fdread (arr : List SOCKET) : List SOCKET := arr.foldl (fun fd s => FD_SET s fd) []

variable {DB : Type}

/-- What a pass hands to `select`, unless the full set ends the pass before. -/
def selected (st : Process DB) : Option (List SOCKET) :=
  if FD_SETSIZE ≤ (fdread st.g_CliSocketArr).length then none else some (fdread st.g_CliSocketArr)

/-- The sockets that were accepted and not closed since. -/
def connected (o : SOCKET → Bool) (_ : Process DB) : Action → SOCKET → Bool
  | .accept s _ => if s = INVALID_SOCKET then o else Function.update o s true
  | .close s => Function.update o s false
  | _ => o

def connections (tr : List (Process DB × Action)) : SOCKET → Bool :=
  observe (fun _ => false) connected tr

/-- The array lists the connections, and the worker can serve them. -/
structure Serves (o : SOCKET → Bool) (st : Process DB) : Prop where
  bound : st.g_CliSocketArr.length ≤ FD_SETSIZE
  once : st.g_CliSocketArr.Nodup
  listed : ∀ s, s ∈ st.g_CliSocketArr ↔ o s = true
  reached : st.g_CliSocketArr ≠ [] → selected st = some st.g_CliSocketArr

def LeavesRoom (st : Process DB) : Action → Prop
  | .accept s _ =>
    s ∈ st.g_CliSocketArr ∨ s = INVALID_SOCKET ∨ st.g_CliSocketArr.length + 1 < FD_SETSIZE
  | _ => True

def arrayAfter (st : Process DB) : Action → List SOCKET
  | .accept s _ =>
    if s ∈ st.g_CliSocketArr ∨ s = INVALID_SOCKET then st.g_CliSocketArr
    else st.g_CliSocketArr ++ [s]
  | .close s => if readable s st then dropSocket s st.g_CliSocketArr else st.g_CliSocketArr
  | _ => st.g_CliSocketArr

section Sets

variable {arr : List SOCKET} {s : SOCKET}

theorem fdread_eq (hnd : arr.Nodup) (hle : arr.length ≤ FD_SETSIZE) : fdread arr = arr := by
  have hfold : ∀ rest acc : List SOCKET, (acc ++ rest).Nodup →
      (acc ++ rest).length ≤ FD_SETSIZE →
      rest.foldl (fun fd s => FD_SET s fd) acc = acc ++ rest := by
    intro rest
    induction rest with
    | nil => exact fun acc _ _ => (List.append_nil acc).symm
    | cons s rest ih =>
      intro acc hnd hle
      have hnew : s ∉ acc := by
        intro hs
        exact (List.nodup_append.mp hnd).2.2 s hs s List.mem_cons_self rfl
      have hroom : acc.length < FD_SETSIZE := by
        rw [List.length_append, List.length_cons] at hle
        omega
      have hadd : FD_SET s acc = acc ++ [s] := by rw [FD_SET, if_neg hnew, if_pos hroom]
      have hsame : acc ++ [s] ++ rest = acc ++ s :: rest := by simp
      rw [List.foldl_cons, hadd, ih (acc ++ [s]) (by rwa [hsame]) (by rwa [hsame]), hsame]
  exact hfold arr [] hnd hle

/-- The moved socket takes the place of the closed one. -/
theorem dropSocket_perm (hnd : arr.Nodup) (hs : s ∈ arr) :
    (dropSocket s arr).Perm (arr.erase s) := by
  obtain rfl | ⟨rest, last, rfl⟩ := List.eq_nil_or_concat arr
  · cases hs
  · rw [List.concat_eq_append] at hnd hs ⊢
    obtain ⟨hrest, -, hlast⟩ := List.nodup_append.mp hnd
    have hdrop : dropSocket s (rest ++ [last]) = rest.map fun t => if t = s then last else t := by
      simp [dropSocket]
    rw [hdrop]
    by_cases hin : s ∈ rest
    · have hkept : (rest.erase s).map (fun t => if t = s then last else t) = rest.erase s := by
        refine (List.map_congr_left fun t ht => if_neg ?_).trans (List.map_id _)
        rintro rfl
        exact hrest.not_mem_erase ht
      have hmoved := (List.perm_cons_erase hin).map fun t => if t = s then last else t
      rw [List.map_cons, if_pos rfl, hkept] at hmoved
      rw [List.erase_append_left _ hin]
      exact hmoved.trans (List.perm_append_singleton _ _).symm
    · have hkept : rest.map (fun t => if t = s then last else t) = rest := by
        refine (List.map_congr_left fun t ht => if_neg ?_).trans (List.map_id _)
        rintro rfl
        exact hin ht
      have heq : s = last := by simpa [hin] using hs
      rw [hkept, List.erase_append_right _ hin, heq, List.erase_cons_head, List.append_nil]

theorem mem_of_dropSocket {t : SOCKET} (h : t ∈ dropSocket s arr) : t ∈ arr := by
  obtain rfl | ⟨rest, last, rfl⟩ := List.eq_nil_or_concat arr
  · cases h
  · rw [List.concat_eq_append] at h ⊢
    have hdrop : dropSocket s (rest ++ [last]) = rest.map fun t => if t = s then last else t := by
      simp [dropSocket]
    rw [hdrop] at h
    obtain ⟨u, hu, rfl⟩ := List.mem_map.mp h
    split
    · exact List.mem_concat_self
    · exact List.mem_append_left _ hu

end Sets

section Selection

variable {o : SOCKET → Bool} {st : Process DB}

theorem selected_eq (hnd : st.g_CliSocketArr.Nodup)
    (hlt : st.g_CliSocketArr.length < FD_SETSIZE) : selected st = some st.g_CliSocketArr := by
  rw [selected, fdread_eq hnd (Nat.le_of_lt hlt), if_neg (by omega)]

/-- A full array makes every pass end before `select`. -/
theorem selected_full (hnd : st.g_CliSocketArr.Nodup)
    (hfull : st.g_CliSocketArr.length = FD_SETSIZE) : selected st = none := by
  rw [selected, fdread_eq hnd (Nat.le_of_eq hfull), if_pos (Nat.le_of_eq hfull.symm)]

theorem readable_iff (hnd : st.g_CliSocketArr.Nodup) (hle : st.g_CliSocketArr.length ≤ FD_SETSIZE)
    (s : SOCKET) : readable s st = true ↔ ∃ fd, selected st = some fd ∧ s ∈ fd := by
  rw [readable, Bool.and_eq_true, decide_eq_true_eq, decide_eq_true_eq]
  obtain hlt | hfull := Nat.lt_or_eq_of_le hle
  · rw [selected_eq hnd hlt]
    simp [hlt]
  · rw [selected_full hnd hfull, hfull]
    simp

theorem Serves.length_lt (h : Serves o st) : st.g_CliSocketArr.length < FD_SETSIZE := by
  by_contra hfull
  have hlength : st.g_CliSocketArr.length = FD_SETSIZE := by
    have hle := h.bound
    omega
  have hne : st.g_CliSocketArr ≠ [] := by
    intro hnil
    rw [hnil] at hlength
    exact absurd hlength (by decide)
  have hsel := h.reached hne
  rw [selected_full h.once hlength] at hsel
  cases hsel

theorem serves_iff_length (hnd : st.g_CliSocketArr.Nodup)
    (hlisted : ∀ s, s ∈ st.g_CliSocketArr ↔ o s = true) :
    Serves o st ↔ st.g_CliSocketArr.length < FD_SETSIZE := by
  refine ⟨Serves.length_lt, fun hlt => ?_⟩
  exact { bound := Nat.le_of_lt hlt, once := hnd, listed := hlisted,
          reached := fun _ => selected_eq hnd hlt }

end Selection

section Steps

variable {sqlite : Sqlite DB} {st st' : Process DB} {o : SOCKET → Bool} {s : SOCKET}

theorem StartCServer_array {junk : Int} (h : StartCServer s junk st = .ok st') :
    st'.g_CliSocketArr =
      if s ∈ st.g_CliSocketArr ∨ s = INVALID_SOCKET then st.g_CliSocketArr
      else st.g_CliSocketArr ++ [s] := by
  rw [StartCServer] at h
  by_cases hs : s ∈ st.g_CliSocketArr
  · rw [if_pos hs] at h
    cases h
    rw [if_pos (.inl hs)]
  · rw [if_neg hs] at h
    by_cases hv : s = INVALID_SOCKET
    · rw [if_pos (.inr hv)]
      cases he : st.cache.GetEntity s <;> simp only [he, if_pos hv] at h <;> cases h <;> rfl
    · rw [if_neg (by simp [hs, hv])]
      cases he : st.cache.GetEntity s <;> simp only [he, if_neg hv] at h
      all_goals
        split at h
        · cases h
        · cases h
          rfl

theorem step_array {a : Action} (h : Steps sqlite st a st') :
    st'.g_CliSocketArr = arrayAfter st a := by
  obtain ⟨out, h⟩ := h
  cases a with
  | accept s junk =>
    obtain ⟨x, hx, h⟩ := of_map_ok h
    cases h
    exact StartCServer_array hx
  | close s =>
    simp only [step] at h
    rw [arrayAfter]
    split at h
    all_goals
      rename_i hr
      cases h
      simp only [hr, if_true, Bool.false_eq_true, if_false]
  | packet s m rand =>
    obtain ⟨x, hx, h⟩ := of_map_ok h
    obtain ⟨_, rfl⟩ := of_deliver h
    rw [receive] at hx
    split at hx
    · split at hx
      · cases hx
        rfl
      · obtain ⟨_, _, _, _, _, _, hframe⟩ := ProcessMsgLogic_frame hx
        rw [hframe]
        rfl
    · cases hx
      rfl
  | poll j now =>
    obtain ⟨x, hx, h⟩ := of_map_ok h
    obtain ⟨_, rfl⟩ := of_deliver h
    obtain ⟨_, _, _, _, _, _, hframe⟩ := poll_frame hx
    rw [hframe]
    rfl

theorem readable_of_serves (hs : Serves o st) : readable s st = true ↔ s ∈ st.g_CliSocketArr := by
  simp [readable, hs.length_lt]

theorem once_step (hs : Serves o st) (a : Action) : (arrayAfter st a).Nodup := by
  cases a with
  | accept s junk =>
    rw [arrayAfter]
    split
    · exact hs.once
    · rename_i hnew
      refine List.nodup_append.mpr ⟨hs.once, List.nodup_singleton s, ?_⟩
      rintro t ht u hu rfl
      rw [List.mem_singleton.mp hu] at ht
      exact hnew (.inl ht)
  | close s =>
    rw [arrayAfter]
    split
    · rename_i hread
      have hperm := dropSocket_perm hs.once ((readable_of_serves hs).mp hread)
      exact hperm.nodup_iff.mpr (hs.once.erase s)
    · exact hs.once
  | packet | poll => exact hs.once

theorem listed_step (hs : Serves o st) (a : Action) (t : SOCKET) :
    t ∈ arrayAfter st a ↔ connected o st a t = true := by
  cases a with
  | accept s junk =>
    rw [arrayAfter, connected]
    by_cases hi : s = INVALID_SOCKET
    · simp [hi, hs.listed]
    · rw [if_neg hi]
      by_cases hts : t = s
      · subst hts
        by_cases ht : t ∈ st.g_CliSocketArr <;> simp [ht, hi]
      · rw [Function.update_of_ne hts, ← hs.listed]
        by_cases ht : s ∈ st.g_CliSocketArr <;> simp [ht, hi, hts]
  | close s =>
    rw [arrayAfter, connected]
    split
    · rename_i hread
      have hperm := dropSocket_perm hs.once ((readable_of_serves hs).mp hread)
      rw [hperm.mem_iff, hs.once.mem_erase_iff, hs.listed]
      by_cases hts : t = s
      · subst hts
        simp
      · simp [hts]
    · rename_i hread
      by_cases hts : t = s
      · subst hts
        simpa using fun ht => hread ((readable_of_serves hs).mpr ht)
      · rw [Function.update_of_ne hts, hs.listed]
  | packet | poll => exact hs.listed t

theorem length_step_iff (hs : Serves o st) (a : Action) :
    (arrayAfter st a).length < FD_SETSIZE ↔ LeavesRoom st a := by
  have hlt := hs.length_lt
  cases a with
  | accept s junk =>
    rw [arrayAfter, LeavesRoom]
    by_cases hmem : s ∈ st.g_CliSocketArr <;> by_cases hi : s = INVALID_SOCKET <;>
      simp [hmem, hi, hlt]
  | close s =>
    refine iff_of_true ?_ trivial
    rw [arrayAfter]
    split
    · rename_i hread
      have hmem := (readable_of_serves hs).mp hread
      rw [(dropSocket_perm hs.once hmem).length_eq, List.length_erase_of_mem hmem]
      omega
    · exact hlt
  | packet | poll => exact iff_of_true hlt trivial

theorem serves_step {a : Action} (hs : Serves o st)
    (h : Steps sqlite st a st') :
    Serves (connected o st a) st' ↔ LeavesRoom st a := by
  have harr := step_array h
  have honce : st'.g_CliSocketArr.Nodup := by
    rw [harr]
    exact once_step hs a
  have hlisted : ∀ t, t ∈ st'.g_CliSocketArr ↔ connected o st a t = true := by
    rw [harr]
    exact listed_step hs a
  rw [serves_iff_length honce hlisted, harr]
  exact length_step_iff hs a

/-- The worker never comes back from a full array: no connection is removed from
it, and none fits in. -/
theorem full_array_stays {a : Action} (hfull : FD_SETSIZE ≤ st.g_CliSocketArr.length)
    (h : Steps sqlite st a st') : st'.g_CliSocketArr = st.g_CliSocketArr := by
  have harr := step_array h
  cases a with
  | accept s junk =>
    by_cases hkeep : s ∈ st.g_CliSocketArr ∨ s = INVALID_SOCKET
    · rw [harr, arrayAfter, if_pos hkeep]
    · obtain ⟨hnew, hi⟩ := not_or.mp hkeep
      obtain ⟨out, h⟩ := h
      obtain ⟨x, hx, -⟩ := of_map_ok h
      rw [StartCServer, if_neg hnew] at hx
      cases he : st.cache.GetEntity s <;> simp [he, if_neg hi, hfull] at hx
  | close s =>
    rw [harr, arrayAfter, if_neg]
    simp [readable, Nat.not_lt.mpr hfull]
  | packet | poll => exact harr

end Steps

/-- The array lists the connections and the worker serves them in all states of a
run if and only if every accept leaves a place free. -/
theorem served_iff {sqlite : Sqlite DB} {db : DB} {tr : List (Process DB × Action)}
    {st : Process DB} (h : ServerRun sqlite db tr st) :
    (∀ x ∈ points tr st, Serves (connections x.1) x.2) ↔ ∀ x ∈ tr, LeavesRoom x.1 x.2 := by
  apply Run.always_iff (I := fun tr st => Serves (connections tr) st) (C := LeavesRoom) ?_ ?_ h
  · exact { bound := Nat.zero_le _, once := List.nodup_nil, listed := by simp [connections, observe,
              start], reached := fun hne => absurd rfl hne }
  · intro tr st a st' _ hs hstep
    exact serves_step hs hstep

/-- With one connection the worker serves it. -/
theorem one_connection_served : ∃ tr st, ServerRun noTables () tr st ∧
    actions tr = [.accept 7 0] ∧ ∀ x ∈ points tr st, Serves (connections x.1) x.2 := by
  obtain ⟨tr, st, hrun, hact, hp⟩ := exists_run noTables () [.accept 7 0]
    (fun tr _ => tr.all fun x => decide (x.1.g_CliSocketArr.length + 1 < FD_SETSIZE))
    (by decide +kernel)
  refine ⟨tr, st, hrun, hact, (served_iff hrun).mpr fun x hx => ?_⟩
  have hroom := of_decide_eq_true (List.all_eq_true.mp hp x hx)
  cases hx2 : x.2 with
  | accept s junk => exact .inr (.inr hroom)
  | close | packet | poll => trivial

def fullHouse : List Action := (List.range 64).map fun i => .accept (i + 1) 0

/-- The worker stops serving 64 clients, and the next accept writes behind the array. -/
theorem full_house_unserved : ∃ tr st, ServerRun noTables () tr st ∧ actions tr = fullHouse ∧
    st.g_CliSocketArr.length = 64 ∧ (∀ s ∈ st.g_CliSocketArr, connections tr s = true) ∧
    selected st = none ∧ step noTables st (.accept 65 0) = .error .outOfBounds ∧
    ¬∀ x ∈ points tr st, Serves (connections x.1) x.2 := by
  obtain ⟨tr, st, hrun, hact, hp⟩ := exists_run noTables () fullHouse
    (fun tr st => decide (st.g_CliSocketArr.length = 64) &&
      st.g_CliSocketArr.all (fun s => connections tr s) && (selected st).isNone &&
      match step noTables st (.accept 65 0) with
      | .error .outOfBounds => true
      | _ => false) (by decide +kernel)
  simp only [Bool.and_eq_true, decide_eq_true_eq, List.all_eq_true, Option.isNone_iff_eq_none] at hp
  obtain ⟨⟨⟨hlength, hopen⟩, hsel⟩, hnext⟩ := hp
  refine ⟨tr, st, hrun, hact, hlength, hopen, hsel, ?_, ?_⟩
  · split at hnext
    · assumption
    · cases hnext
  · intro hall
    have hlt := (hall _ self_mem_points).length_lt
    rw [hlength] at hlt
    exact absurd hlt (by decide)

end JiraGame.Connections
