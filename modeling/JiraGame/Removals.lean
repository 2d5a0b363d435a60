import JiraGame.LeavePaths

namespace JiraGame.Removals

open JiraGame.Scene JiraGame.Command JiraGame.DBServer JiraGame.Cache JiraGame.HallScene
open JiraGame.ServerState JiraGame.Server JiraGame.RoomTable JiraGame.Refinement
open JiraGame.RoomChanges JiraGame.RosterOrder JiraGame.Runs JiraGame.Lib.History
open JiraGame.RelationalSqlite JiraGame.AccountRefinement JiraGame.LeavePaths

/-- The room that was stored as `r` has lost the entries of the socket and no others,
and is deleted only if it had no others. Owner flags may have moved. -/
def RemovesOwn (s : SOCKET) (r : RoomInfo) : Option RoomInfo → Prop
  | none => ∀ p ∈ r.playerinfo, p.socket = s
  | some r' =>
    r'.playerinfo.map unmarked = (r.playerinfo.filter fun p => p.socket ≠ s).map unmarked

/-- A room that the counters delete has entries of the socket only, and in a room
that is kept the entries with the leaver's role id are those of the socket. -/
def OwnEntries (s : SOCKET) (roleid : Int) (r : RoomInfo) : Prop :=
  (lastLeaves r = true → ∀ p ∈ r.playerinfo, p.socket = s) ∧
    (lastLeaves r = false → ∀ p ∈ r.playerinfo, p.roleid = roleid ↔ p.socket = s)

section Filters

variable {α β : Type} {f : α → β} {p q : α → Bool} {xs : List α}

theorem map_filter_eq_iff (hp : ∀ x y, f x = f y → p x = p y) (hq : ∀ x y, f x = f y → q x = q y) :
    (xs.filter p).map f = (xs.filter q).map f ↔ ∀ x ∈ xs, p x = q x := by
  refine ⟨?_, fun h => congrArg (List.map f) (List.filter_congr h)⟩
  have hsub : ∀ p q : α → Bool, (∀ x y, f x = f y → q x = q y) →
      (xs.filter p).map f = (xs.filter q).map f → ∀ x ∈ xs, p x = true → q x = true := by
    intro p q hq h x hx hpx
    have hmem := List.mem_map_of_mem (f := f) (List.mem_filter.mpr ⟨hx, hpx⟩)
    rw [h] at hmem
    obtain ⟨y, hy, hxy⟩ := List.mem_map.mp hmem
    rw [← hq y x hxy]
    exact (List.mem_filter.mp hy).2
  intro h x hx
  rw [Bool.eq_iff_iff]
  exact ⟨hsub p q hq h x hx, hsub q p hp h.symm x hx⟩

end Filters

variable {l : Lobby} {s : SOCKET} {k : Int} {r : RoomInfo} {p : PlayerInfo} {via : LeavePath}

theorem removesOwn_leave (hk : Keyed l) (hp : l.role s = some p) (hr : l.room k = some r) :
    RemovesOwn s r ((l.apply (.leave s k via)).room k) ↔ OwnEntries s p.roleid r := by
  rw [OwnEntries]
  cases hlast : lastLeaves r with
  | true =>
    have hgone : (l.apply (.leave s k via)).room k = none := by
      simp [Lobby.apply, hp, hr, hlast, leaveKey_eq hk hr]
    rw [hgone]
    exact ⟨fun h => ⟨fun _ => h, fun hstays => absurd hstays (by decide)⟩, fun h => h.1 rfl⟩
  | false =>
    have hid : ∀ x y : PlayerInfo, unmarked x = unmarked y →
        decide (x.roleid ≠ p.roleid) = decide (y.roleid ≠ p.roleid) := by
      intro x y h
      rw [show x.roleid = y.roleid from congrArg (·.roleid) h]
    have hsocket : ∀ x y : PlayerInfo, unmarked x = unmarked y →
        decide (x.socket ≠ s) = decide (y.socket ≠ s) := by
      intro x y h
      rw [show x.socket = y.socket from congrArg (·.socket) h]
    have hkept : RemovesOwn s r ((l.apply (.leave s k via)).room k) ↔
        ∀ x ∈ r.playerinfo, decide (x.roleid ≠ p.roleid) = decide (x.socket ≠ s) := by
      rw [room_leave hk hp hr (by simp [hlast]), RemovesOwn, leftRoom,
        map_stay unmarked fun _ => rfl]
      exact map_filter_eq_iff hid hsocket
    rw [hkept]
    simp only [decide_eq_decide, not_iff_not, ne_eq]
    exact ⟨fun h => ⟨fun hgone => absurd hgone (by decide), fun _ => h⟩, fun h => h.2 trivial⟩

section Runs

variable {DB : Type} {sqlite : Sqlite DB} {db : DB}

theorem removesOwn_of_step {st st' : Process DB} {a : Action} {out : Outbox} {e : CClientEntity}
    (hk : Keyed (lobby st.cache)) (hstep : step sqlite st a = .ok (st', out))
    (hev : event sqlite st a = .leave s k via) (he : st.cache.GetEntity s = some e)
    (hr : st.cache.FindEntityRoom k = some r) :
    RemovesOwn s r (st'.cache.FindEntityRoom k) ↔ OwnEntries s e.roleInfo.roleid r := by
  obtain ⟨-, happ⟩ := step_refines hstep
  rw [← room_lobby, happ, hev]
  exact removesOwn_leave hk (role_of_entity st.cache he) hr

/-- A step by which the client on `s` leaves room `k` removes exactly its own
entries, if and only if they are the entries with its role id, or all entries where
the counters delete the room. -/
theorem leaves_remove_own (tr : List (Process DB × Action)) (st st' : Process DB) (a : Action)
    (out : Outbox) (s : SOCKET) (k : Int) (via : LeavePath) (e : CClientEntity) (r : RoomInfo)
    (h : ServerRun sqlite db tr st) (hstep : step sqlite st a = .ok (st', out))
    (hev : event sqlite st a = .leave s k via) (he : st.cache.GetEntity s = some e)
    (hr : st.cache.FindEntityRoom k = some r) :
    RemovesOwn s r (st'.cache.FindEntityRoom k) ↔ OwnEntries s e.roleInfo.roleid r :=
  removesOwn_of_step (keyed_headed h).1 hstep hev he hr

theorem exists_leave (sqlite : Sqlite DB) (db : DB) (as : List Action) (s : SOCKET)
    (entries : List (Int × SOCKET))
    (h : (execute (next sqlite) as ([], start db)).any (fun y =>
      (next sqlite y.2 (leaveRoom s)).any fun _ =>
        (y.2.cache.GetEntity s).any fun e : CClientEntity =>
          (y.2.cache.FindEntityRoom 111111).any fun r : RoomInfo =>
            decide (event sqlite y.2 (leaveRoom s) = .leave s 111111 .leaveRoom ∧
              e.roleInfo.roleid = 0 ∧ lastLeaves r = false ∧
              r.playerinfo.map (fun p => (p.roleid, p.socket)) = entries)) = true) :
    ∃ tr st st' out e r, ServerRun sqlite db tr st ∧ actions tr = as ∧
      step sqlite st (leaveRoom s) = .ok (st', out) ∧
      event sqlite st (leaveRoom s) = .leave s 111111 .leaveRoom ∧
      st.cache.GetEntity s = some e ∧ st.cache.FindEntityRoom 111111 = some r ∧
      e.roleInfo.roleid = 0 ∧ lastLeaves r = false ∧
      r.playerinfo.map (fun p => (p.roleid, p.socket)) = entries := by
  obtain ⟨tr, st, st', hrun, hact, ⟨out, hstep⟩, hp⟩ := exists_step sqlite db as (leaveRoom s)
    (fun st _ => (st.cache.GetEntity s).any fun e : CClientEntity =>
      (st.cache.FindEntityRoom 111111).any fun r : RoomInfo =>
        decide (event sqlite st (leaveRoom s) = .leave s 111111 .leaveRoom ∧
          e.roleInfo.roleid = 0 ∧ lastLeaves r = false ∧
          r.playerinfo.map (fun p => (p.roleid, p.socket)) = entries)) h
  obtain ⟨e, he, hp⟩ := (Option.any_eq_true _ _).mp hp
  obtain ⟨r, hr, hp⟩ := (Option.any_eq_true _ _).mp hp
  obtain ⟨hev, hid, hlast, hroster⟩ := of_decide_eq_true hp
  exact ⟨tr, st, st', out, e, r, hrun, hact, hstep, hev, he, hr, hid, hlast, hroster⟩

/-- The owner leaves a room in which Ann stays. -/
theorem owner_removed_alone : ∃ tr st st' out r, ServerRun reference noTablesYet tr st ∧
    actions tr = annAndOwner ∧ step reference st (leaveRoom 8) = .ok (st', out) ∧
    r.playerinfo.map (fun p => (p.roleid, p.socket)) = [(0, 8), (1, 7)] ∧
    RemovesOwn 8 r (st'.cache.FindEntityRoom 111111) := by
  obtain ⟨tr, st, st', out, e, r, hrun, hact, hstep, hev, he, hr, hid, hlast, hroster⟩ :=
    exists_leave reference noTablesYet annAndOwner 8 [(0, 8), (1, 7)] (by decide +kernel)
  refine ⟨tr, st, st', out, r, hrun, hact, hstep, hroster,
    (leaves_remove_own tr st st' (leaveRoom 8) out 8 111111 .leaveRoom e r hrun hstep hev he
      hr).mpr ⟨?_, ?_⟩⟩
  · intro hgone
    rw [hlast] at hgone
    cases hgone
  · intro _ p hp
    have hmem := List.mem_map_of_mem (f := fun p : PlayerInfo => (p.roleid, p.socket)) hp
    rw [hroster] at hmem
    rw [hid]
    simp only [List.mem_cons, Prod.mk.injEq, List.not_mem_nil, or_false] at hmem
    obtain ⟨hi, hs⟩ | ⟨hi, hs⟩ := hmem <;> simp [hi, hs]

/-- Of two clients without a role, the leave of one removes both. -/
theorem both_removed : ∃ tr st st' out r, ServerRun noTables () tr st ∧
    actions tr = [.accept 7 0, createRoom 7, .accept 8 0, joinTeam 8 111111 .Team_B 0] ∧
    step noTables st (leaveRoom 7) = .ok (st', out) ∧
    event noTables st (leaveRoom 7) = .leave 7 111111 .leaveRoom ∧
    st.cache.FindEntityRoom 111111 = some r ∧
    r.playerinfo.map (fun p => (p.roleid, p.socket)) = [(0, 7), (0, 8)] ∧
    ¬RemovesOwn 7 r (st'.cache.FindEntityRoom 111111) := by
  obtain ⟨tr, st, st', out, e, r, hrun, hact, hstep, hev, he, hr, hid, hlast, hroster⟩ :=
    exists_leave noTables () [.accept 7 0, createRoom 7, .accept 8 0, joinTeam 8 111111 .Team_B 0]
      7 [(0, 7), (0, 8)] (by decide +kernel)
  refine ⟨tr, st, st', out, r, hrun, hact, hstep, hev, hr, hroster, ?_⟩
  rw [removesOwn_of_step (keyed_headed hrun).1 hstep hev he hr]
  intro hown
  have hmem : ((0 : Int), (8 : SOCKET)) ∈ r.playerinfo.map fun p => (p.roleid, p.socket) := by
    rw [hroster]
    decide
  obtain ⟨p, hp, heq⟩ := List.mem_map.mp hmem
  obtain ⟨hpid, hps⟩ := Prod.mk.inj heq
  have hsocket := (hown.2 hlast p hp).mp (by rw [hpid, hid])
  rw [hps] at hsocket
  cases hsocket

end Runs

end JiraGame.Removals
