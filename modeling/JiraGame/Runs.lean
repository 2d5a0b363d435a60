import JiraGame.Refinement
import JiraGame.Lib.History

namespace JiraGame.Runs

open JiraGame.Scene JiraGame.Command JiraGame.DBServer JiraGame.Cache JiraGame.ServerState
open JiraGame.Server
open JiraGame.RoomTable JiraGame.Refinement JiraGame.Lib.History

variable {DB : Type} {sqlite : Sqlite DB} {db : DB}

abbrev ServerRun (sqlite : Sqlite DB) (db : DB) : List (Process DB × Action) → Process DB → Prop :=
  Run (Steps sqlite) (start db)

theorem lobby_start : lobby (start db).cache = emptyLobby := by
  apply Lobby.ext
  · funext k
    simp [lobby, start, CCache.FindEntityRoom, emptyLobby]
  · funext s
    simp [lobby, start, CCache.GetEntity, emptyLobby]

section Lift

variable {tr : List (Process DB × Action)} {st : Process DB}

theorem lobby_invariant {I : Lobby → Prop} (h0 : I emptyLobby)
    (hs : ∀ l ev, I l → l.Enabled ev → I (l.apply ev)) (h : ServerRun sqlite db tr st) :
    I (lobby st.cache) := by
  refine Run.invariant (I := fun st : Process DB => I (lobby st.cache)) ?_ ?_ h
  · rw [lobby_start]
    exact h0
  · rintro st a st' hi ⟨out, hstep⟩
    obtain ⟨hen, happ⟩ := step_refines hstep
    rw [happ]
    exact hs _ _ hi hen

/-- The exact condition for a property of the lobby: `J` needs no condition, and
an event keeps `I` exactly when it meets `C`. -/
theorem lobby_always_iff {I J : Lobby → Prop} {C : Lobby → Event → Prop} (hj0 : J emptyLobby)
    (hj : ∀ l ev, J l → l.Enabled ev → J (l.apply ev)) (h0 : I emptyLobby)
    (hs : ∀ l ev, J l → I l → l.Enabled ev → (I (l.apply ev) ↔ C l ev))
    (h : ServerRun sqlite db tr st) :
    (∀ x ∈ points tr st, I (lobby x.2.cache)) ↔
      ∀ x ∈ tr, C (lobby x.1.cache) (event sqlite x.1 x.2) := by
  refine Run.always_iff (I := fun _ st => I (lobby st.cache))
    (C := fun st a => C (lobby st.cache) (event sqlite st a)) ?_ ?_ h
  · rw [lobby_start]
    exact h0
  · rintro tr st a st' hrun hi ⟨out, hstep⟩
    obtain ⟨hen, happ⟩ := step_refines hstep
    rw [happ]
    exact hs _ _ (lobby_invariant hj0 hj hrun) hi hen

def seen {ω : Type} (sqlite : Sqlite DB) (init : ω) (see : ω → Lobby → Event → ω)
    (tr : List (Process DB × Action)) : ω :=
  observe init (fun o st a => see o (lobby st.cache) (event sqlite st a)) tr

theorem seen_invariant {ω : Type} {init : ω} {see : ω → Lobby → Event → ω} {I : ω → Lobby → Prop}
    {J : Lobby → Prop} {C : Lobby → Event → Prop} (hj0 : J emptyLobby)
    (hj : ∀ l ev, J l → l.Enabled ev → J (l.apply ev)) (h0 : I init emptyLobby)
    (hs : ∀ o l ev, J l → I o l → C l ev → l.Enabled ev → I (see o l ev) (l.apply ev))
    (h : ServerRun sqlite db tr st)
    (hc : ∀ x ∈ tr, C (lobby x.1.cache) (event sqlite x.1 x.2)) :
    I (seen sqlite init see tr) (lobby st.cache) := by
  refine Run.always (I := fun tr st => I (seen sqlite init see tr) (lobby st.cache))
    (C := fun st a => C (lobby st.cache) (event sqlite st a)) ?_ ?_ h hc
  · rw [lobby_start]
    exact h0
  · rintro tr st a st' hrun hi hca ⟨out, hstep⟩
    obtain ⟨hen, happ⟩ := step_refines hstep
    rw [happ]
    exact hs _ _ _ (lobby_invariant hj0 hj hrun) hi hca hen

end Lift

def noTables : Sqlite Unit where
  exec := fun db _ => (db, none)

def next (sqlite : Sqlite DB) (st : Process DB) (a : Action) : Option (Process DB) :=
  match step sqlite st a with
  | .ok x => some x.1
  | .error _ => none

theorem steps_of_next {st st' : Process DB} {a : Action} (h : next sqlite st a = some st') :
    Steps sqlite st a st' := by
  rw [next] at h
  cases hs : step sqlite st a with
  | error f => simp [hs] at h
  | ok x =>
    simp only [hs, Option.some.injEq] at h
    exact ⟨x.2, by rw [hs, ← h]⟩

def hall (s : SOCKET) (req : HallRequest) : Action :=
  .packet s { curscene? := some .CS_WaitRoom, hallrequest? := some req } (List.replicate 12 0)

def createRoom (s : SOCKET) : Action :=
  hall s { msgtype? := some .HST_CreateRoom, roomname? := some "room" }

def joinTeam (s : SOCKET) (k : Int) (team : TeamType) (teamid : Int) : Action :=
  hall s { msgtype? := some .HST_JoinTeam
           inviteinfo? := some { roomid? := some k, team? := some team, teamid? := some teamid } }

def leaveRoom (s : SOCKET) : Action := hall s { msgtype? := some .HST_LeaveRoom }

def gameWaite (s : SOCKET) : Action := hall s { msgtype? := some .HST_GameWaite }

def gameStart (s : SOCKET) : Action := hall s { msgtype? := some .HST_GameStart }

def inGame (s : SOCKET) (req : GameMainRequest) : Action :=
  .packet s { curscene? := some .CS_MainScene, gamemainrequest? := some req } []

def rsyncAttr (s : SOCKET) (payload : PlayerInfo) : Action :=
  inGame s { msgtype? := some .GMT_RsyncAttr, playerinfo? := some payload }

def gameOver (s : SOCKET) : Action := inGame s { msgtype? := some .GMT_GameOver }

/-- A run with the given actions whose end passes a test. -/
theorem exists_run (sqlite : Sqlite DB) (db : DB) (as : List Action)
    (P : List (Process DB × Action) → Process DB → Bool)
    (h : (execute (next sqlite) as ([], start db)).any (fun y => P y.1 y.2) = true) :
    ∃ tr st, ServerRun sqlite db tr st ∧ actions tr = as ∧ P tr st = true :=
  exists_of_execute (fun _ _ _ => steps_of_next) h

theorem extended_run (h : ServerRun sqlite db tr st) (as : List Action)
    (P : List (Process DB × Action) → Process DB → Bool)
    (ht : (execute (next sqlite) as (tr, st)).any (fun y => P y.1 y.2) = true) :
    ∃ tr' st', ServerRun sqlite db tr' st' ∧ actions tr' = actions tr ++ as ∧ P tr' st' = true :=
  Run.extend_execute (fun _ _ _ => steps_of_next) h ht

theorem exists_room_run (sqlite : Sqlite DB) (db : DB) (as : List Action) (k : Int)
    (P : RoomInfo → Bool)
    (h : (execute (next sqlite) as ([], start db)).any
      (fun y => (y.2.cache.FindEntityRoom k).any P) = true) :
    ∃ tr st, ServerRun sqlite db tr st ∧ actions tr = as ∧
      ∃ r, st.cache.FindEntityRoom k = some r ∧ P r = true := by
  obtain ⟨tr, st, hrun, hact, hroom⟩ := exists_run sqlite db as
    (fun _ st => (st.cache.FindEntityRoom k).any P) h
  cases hr : st.cache.FindEntityRoom k with
  | none => simp [hr] at hroom
  | some r => exact ⟨tr, st, hrun, hact, r, hr, by simpa [hr] using hroom⟩

theorem exists_step (sqlite : Sqlite DB) (db : DB) (as : List Action) (a : Action)
    (P : Process DB → Process DB → Bool)
    (h : (execute (next sqlite) as ([], start db)).any
      (fun y => (next sqlite y.2 a).any (P y.2)) = true) :
    ∃ tr st st', ServerRun sqlite db tr st ∧ actions tr = as ∧ Steps sqlite st a st' ∧
      P st st' = true := by
  obtain ⟨tr, st, hrun, hact, hnext⟩ := exists_run sqlite db as
    (fun _ st => (next sqlite st a).any (P st)) h
  cases hs : next sqlite st a with
  | none => simp [hs] at hnext
  | some st' => exact ⟨tr, st, st', hrun, hact, steps_of_next hs, by simpa [hs] using hnext⟩

end JiraGame.Runs
