import JiraGame.Membership

namespace JiraGame.Readiness

open JiraGame.Scene JiraGame.Command JiraGame.DBServer JiraGame.Cache JiraGame.HallScene
open JiraGame.MainScene JiraGame.AccountScenes JiraGame.ServerState JiraGame.Server
open JiraGame.RoomTable JiraGame.Refinement JiraGame.RoomChanges JiraGame.Membership
open JiraGame.Runs JiraGame.Lib.History

/-- The readiness that `GameStart` reads of a client. -/
def ready (l : Lobby) (s : SOCKET) : Bool :=
  match l.role s with
  | some p => p.gamewaite
  | none => false

/-- The number of `GameWaite` requests of a client since the step that made it
a member of a room. -/
def tally (w : Int → SOCKET → Nat) (l : Lobby) (ev : Event) : Int → SOCKET → Nat :=
  match ev with
  | .wait s => fun k t => if t = s then w k t + 1 else w k t
  | ev =>
    match entrant l ev with
    | some (i, s) => fun k t => if k = i ∧ t = s then 0 else w k t
    | none => w

/-- The readiness of every member is the parity of its requests. -/
def Tallied (w : Int → SOCKET → Nat) (l : Lobby) : Prop :=
  ∀ k, ∀ t ∈ sockets l k, (ready l t = true ↔ w k t % 2 = 1)

/-- Readiness is not carried into a room, not set by a sync, not lost by an
eviction, and whoever shares the role id of the client that starts is ready. -/
def CountsFresh (l : Lobby) (ev : Event) : Prop :=
  (∀ k s, entrant l ev = some (k, s) → ready l s = false) ∧
  match ev with
  | .sync s payload => ∀ k, s ∈ sockets l k → payload.gamewaite = ready l s
  | .evict s => ∀ k, s ∈ sockets l k → ready l s = false
  | .start s => ∀ p r, l.role s = some p → l.room p.roomid = some r →
      ∀ q ∈ r.playerinfo, q.roleid = p.roleid → q.socket ≠ s → ready l q.socket = true
  | _ => True

variable {l : Lobby} {ev : Event} {k : Int} {s : SOCKET} {f : PlayerInfo → PlayerInfo}
  {w : Int → SOCKET → Nat}

section Flag

theorem ready_of_role {p : PlayerInfo} (h : l.role s = some p) : ready l s = p.gamewaite := by
  simp only [ready, h]

theorem ready_eq (l : Lobby) : ready l = fun s => (l.role s).elim false PlayerInfo.gamewaite := by
  funext s
  rw [ready]
  cases l.role s <;> rfl

theorem ready_setRole (s : SOCKET) (o : Option PlayerInfo) : ready (l.setRole s o) =
    Function.update (ready l) s (o.elim false PlayerInfo.gamewaite) := by
  rw [ready_eq, ready_eq]
  exact l.read_setRole (fun o => o.elim false PlayerInfo.gamewaite) s o

theorem ready_modify {p : PlayerInfo} (hp : l.role s = some p) :
    ready (l.modify s f) = Function.update (ready l) s (f p).gamewaite := by
  rw [Lobby.modify, ready_setRole, hp]
  rfl

theorem ready_modify_same (s : SOCKET) (hf : ∀ p, (f p).gamewaite = p.gamewaite) :
    ready (l.modify s f) = ready l := by
  rw [ready_eq, ready_eq]
  refine l.read_modify_same (fun o => o.elim false PlayerInfo.gamewaite) s ?_
  intro o
  cases o with
  | none => rfl
  | some p => exact hf p

theorem ready_promote (o : Option PlayerInfo) : ready (l.promote o) = ready l := by
  cases o with
  | none => rfl
  | some q => exact ready_modify_same q.socket fun _ => rfl

def readied (l : Lobby) : Event → SOCKET → Bool
  | .enter s | .evict s => Function.update (ready l) s false
  | .wait s => Function.update (ready l) s !ready l s
  | .sync s payload => Function.update (ready l) s payload.gamewaite
  | _ => ready l

theorem ready_apply (hen : l.Enabled ev) : ready (l.apply ev) = readied l ev := by
  cases ev with
  | quiet => rfl
  | start s => rfl
  | enter s => exact ready_setRole s _
  | evict s => exact ready_setRole s _
  | select s roletype row => exact ready_modify_same s fun p => by cases row <;> rfl
  | wait s =>
    obtain ⟨p, r, hp, -⟩ := hen
    rw [Lobby.apply, ready_modify hp, readied, ready_of_role hp]
    rfl
  | sync s payload =>
    obtain ⟨p, r, hp, -⟩ := hen
    rw [Lobby.apply, ready_modify hp]
    rfl
  | create s id roomname =>
    obtain ⟨p, hp, -⟩ := hen
    simp only [Lobby.apply, hp]
    split
    · exact ready_modify_same s fun _ => rfl
    · exact ready_modify_same s fun _ => rfl
  | join s k team teamid via =>
    obtain ⟨p, r, hp, hr, -⟩ := hen
    simp only [Lobby.apply, hp, hr]
    exact ready_modify_same s fun _ => rfl
  | leave s k via =>
    obtain ⟨p, r, hp, hr, -⟩ := hen
    have hidle : ∀ p, (asIdle p).gamewaite = p.gamewaite := fun _ => rfl
    simp only [Lobby.apply, hp, hr]
    split
    · exact ready_modify_same s hidle
    · have hstay : ready ((l.promote (stay via p r.playerinfo).2).modify s asIdle) = ready l := by
        rw [ready_modify_same s hidle, ready_promote]
      exact hstay
  | gameOver s k =>
    funext t
    cases hr : l.room k with
    | none => simp only [Lobby.apply, hr, readied]
    | some r =>
      simp only [Lobby.apply, hr, ready, readied]
      cases l.role t with
      | none => simp
      | some p =>
        by_cases ht : t ∈ r.playerinfo.map PlayerInfo.socket
        · rw [if_pos ht]
          rfl
        · rw [if_neg ht]

end Flag

theorem mem_sockets_apply (hk : Keyed l) (hen : l.Enabled ev) {t : SOCKET}
    (ht : t ∈ sockets (l.apply ev) k) : t ∈ sockets l k ∨ entrant l ev = some (k, t) := by
  cases he : entrant l ev with
  | none => exact .inl ((sockets_no_entrant hk hen he k).subset ht)
  | some x =>
    obtain ⟨i, s⟩ := x
    rw [sockets_entrant hen he] at ht
    by_cases hki : k = i
    · subst hki
      rw [Function.update_self] at ht
      obtain ht | ht := List.mem_append.mp ht
      · exact .inl ht
      · rw [List.mem_singleton.mp ht]
        exact .inr rfl
    · rw [Function.update_of_ne hki] at ht
      exact .inl ht

theorem tally_of_entrant {i : Int} (he : entrant l ev = some (i, s)) (t : SOCKET) :
    tally w l ev k t = if k = i ∧ t = s then 0 else w k t := by
  cases ev with
  | create s id roomname => simp only [tally, he]
  | join s k team teamid via => simp only [tally, he]
  | _ => cases he

theorem tally_of_no_entrant (he : entrant l ev = none) (hev : ∀ s, ev ≠ .wait s) :
    tally w l ev = w := by
  cases ev with
  | wait s => exact absurd rfl (hev s)
  | create s id roomname => simp only [tally, he]
  | join s k team teamid via => cases he
  | _ => rfl

theorem ready_of_entrant {i : Int} (hen : l.Enabled ev) (he : entrant l ev = some (i, s)) :
    ready (l.apply ev) = ready l := by
  rw [ready_apply hen]
  cases ev <;> first | rfl | cases he

theorem tallied_apply (hk : Keyed l) (h : Tallied w l) (hc : CountsFresh l ev)
    (hen : l.Enabled ev) : Tallied (tally w l ev) (l.apply ev) := by
  obtain ⟨hfresh, hev⟩ := hc
  intro k t ht
  have hmem := mem_sockets_apply hk hen ht
  cases he : entrant l ev with
  | some x =>
    obtain ⟨i, s⟩ := x
    rw [ready_of_entrant hen he, tally_of_entrant he]
    by_cases hnew : k = i ∧ t = s
    · obtain ⟨rfl, rfl⟩ := hnew
      rw [if_pos ⟨rfl, rfl⟩, hfresh k t he]
      decide
    · rw [if_neg hnew]
      obtain hold | hent := hmem
      · exact h k t hold
      · rw [he] at hent
        cases hent
        exact absurd ⟨rfl, rfl⟩ hnew
  | none =>
    have hold : t ∈ sockets l k := by
      obtain hold | hent := hmem
      · exact hold
      · rw [he] at hent
        cases hent
    have hkeep := h k t hold
    rw [ready_apply hen]
    cases ev with
    | enter s =>
      by_cases hts : t = s
      · subst hts
        have hoff : ready l t = false := by simp only [ready, Lobby.Enabled] at hen ⊢; simp [hen]
        rw [hoff] at hkeep
        rw [readied, Function.update_self]
        exact hkeep
      · rw [readied, Function.update_of_ne hts]
        exact hkeep
    | evict s =>
      by_cases hts : t = s
      · subst hts
        rw [hev k hold] at hkeep
        rw [readied, Function.update_self]
        exact hkeep
      · rw [readied, Function.update_of_ne hts]
        exact hkeep
    | wait s =>
      by_cases hts : t = s
      · subst hts
        have hone : tally w l (.wait t) k t = w k t + 1 := by simp [tally]
        rw [readied, Function.update_self, hone]
        cases hr : ready l t with
        | true =>
          rw [hr] at hkeep
          have hodd := hkeep.mp rfl
          simp
          omega
        | false =>
          rw [hr] at hkeep
          have heven : ¬ w k t % 2 = 1 := fun hodd => Bool.false_ne_true (hkeep.mpr hodd)
          simp
          omega
      · have hsame : tally w l (.wait s) k t = w k t := by simp [tally, hts]
        rw [readied, Function.update_of_ne hts, hsame]
        exact hkeep
    | sync s payload =>
      by_cases hts : t = s
      · subst hts
        rw [readied, Function.update_self, hev k hold]
        exact hkeep
      · rw [readied, Function.update_of_ne hts]
        exact hkeep
    | _ =>
      rw [tally_of_no_entrant he (by intro s h; cases h)]
      exact hkeep

theorem tallied_empty : Tallied (fun _ _ => 0) emptyLobby := by
  intro k t ht
  cases ht

section Start

variable {c c' : CCache} {out : Outbox}

/-- The loop of `GameStart` has seen every member with another role id ready. -/
theorem ready_of_allPlayerWaite {roleid : Int} {ps : List PlayerInfo}
    (h : allPlayerWaite c roleid ps = .ok true) :
    ∀ q ∈ ps, q.roleid ≠ roleid → ready (lobby c) q.socket = true := by
  induction ps with
  | nil =>
    intro q hq
    cases hq
  | cons p ps ih =>
    intro q hq hne
    rw [allPlayerWaite] at h
    split at h
    · rename_i hp
      obtain rfl | hq := List.mem_cons.mp hq
      · exact absurd hp hne
      · exact ih h q hq hne
    · split at h
      · cases h
      · rename_i e he
        split at h
        · rename_i hwait
          obtain rfl | hq := List.mem_cons.mp hq
          · rw [ready_of_role (role_of_entity c he)]
            exact hwait
          · exact ih h q hq hne
        · cases h

def broadcasts (out : Outbox) : Bool :=
  out.any fun x => x.2.hallreturn?.any fun ret => !ret.friendlist.isEmpty

theorem allPlayerWaite_of_broadcast {e : CClientEntity} {r : RoomInfo} (he : c.GetEntity s = some e)
    (hr : c.FindEntityRoom e.roleInfo.roomid = some r) (h : GameStart s c = .ok (c', out))
    (hb : broadcasts out = true) : allPlayerWaite c e.roleInfo.roleid r.playerinfo = .ok true := by
  obtain ⟨e', r', all, he', hr', hall, -, rfl⟩ := GameStart_spec h
  rw [he] at he'
  cases he'
  rw [hr] at hr'
  cases hr'
  cases all with
  | true => exact hall
  | false =>
    obtain ⟨x, hx, hlist⟩ := List.any_eq_true.mp hb
    obtain ⟨q, -, rfl⟩ := List.mem_map.mp hx
    cases hlist

/-- The client, its room and the packets when a `GameStart` request completes. -/
def startReply (s : SOCKET) (c : CCache) : Option (CClientEntity × RoomInfo × Outbox) :=
  match c.GetEntity s with
  | none => none
  | some e =>
    match c.FindEntityRoom e.roleInfo.roomid, GameStart s c with
    | some r, .ok x => some (e, r, x.2)
    | _, _ => none

theorem startReply_spec {e : CClientEntity} {r : RoomInfo} (h : startReply s c = some (e, r, out)) :
    c.GetEntity s = some e ∧ c.FindEntityRoom e.roleInfo.roomid = some r ∧
      ∃ c', GameStart s c = .ok (c', out) := by
  rw [startReply] at h
  split at h
  · cases h
  · rename_i e' he
    split at h
    · rename_i r' x hr hg
      cases h
      exact ⟨he, hr, x.1, hg⟩
    · cases h

end Start

section Run

variable {DB : Type} {sqlite : Sqlite DB} {db : DB}

def waits (sqlite : Sqlite DB) (tr : List (Process DB × Action)) : Int → SOCKET → Nat :=
  seen sqlite (fun _ _ => 0) tally tr

theorem tallied_run {tr : List (Process DB × Action)} {st : Process DB}
    (h : ServerRun sqlite db tr st)
    (hc : ∀ x ∈ tr, CountsFresh (lobby x.1.cache) (event sqlite x.1 x.2)) :
    Tallied (waits sqlite tr) (lobby st.cache) :=
  seen_invariant (I := Tallied) (C := CountsFresh) keyed_empty (fun _ _ => keyed_apply)
    tallied_empty (fun _ _ _ hk hi hc hen => tallied_apply hk hi hc hen) h hc

/-- In a run whose steps count readiness afresh, the last of them a `GameStart`
request of `s`, the member list is broadcast only if every other member has sent
an odd number of `GameWaite` requests since it joined. -/
theorem start_only_when_ready (tr : List (Process DB × Action)) (st : Process DB) (a : Action)
    (s : SOCKET) (h : ServerRun sqlite db tr st) (ha : event sqlite st a = .start s)
    (hc : ∀ x ∈ (st, a) :: tr, CountsFresh (lobby x.1.cache) (event sqlite x.1 x.2))
    (e : CClientEntity) (r : RoomInfo) (he : st.cache.GetEntity s = some e)
    (hr : st.cache.FindEntityRoom e.roleInfo.roomid = some r) (c' : CCache) (out : Outbox)
    (hg : GameStart s st.cache = .ok (c', out)) (hb : broadcasts out = true) :
    ∀ q ∈ r.playerinfo, q.socket ≠ s →
      waits sqlite tr e.roleInfo.roomid q.socket % 2 = 1 := by
  intro q hq hne
  have htally := tallied_run h fun x hx => hc x (List.mem_cons_of_mem _ hx)
  have hsock : q.socket ∈ sockets (lobby st.cache) e.roleInfo.roomid := by
    rw [sockets, roster_of_room hr]
    exact List.mem_map_of_mem hq
  rw [← htally e.roleInfo.roomid q.socket hsock]
  by_cases hid : q.roleid = e.roleInfo.roleid
  · obtain ⟨-, hstart⟩ := hc (st, a) List.mem_cons_self
    simp only [ha] at hstart
    exact hstart e.roleInfo r (role_of_entity st.cache he) hr q hq hid hne
  · exact ready_of_allPlayerWaite (allPlayerWaite_of_broadcast he hr hg hb) q hq hid

/-- A test that is enough for steps other than syncs and evictions. -/
def passesFresh (l : Lobby) : Event → Bool
  | .create s _ _ | .join s _ _ _ _ => !ready l s
  | .sync _ _ | .evict _ => false
  | .start s => (roster l (((l.role s).map PlayerInfo.roomid).getD 0)).all fun q =>
      q.socket = s || ready l q.socket
  | _ => true

theorem countsFresh_of_passes (h : passesFresh l ev = true) : CountsFresh l ev := by
  cases ev with
  | create s id roomname =>
    refine ⟨?_, trivial⟩
    intro k t he
    simp only [entrant] at he
    split at he <;> cases he
    simpa [passesFresh] using h
  | join s i team teamid via =>
    refine ⟨?_, trivial⟩
    intro k t he
    cases he
    simpa [passesFresh] using h
  | sync s payload => cases h
  | evict s => cases h
  | start s =>
    refine ⟨?_, ?_⟩
    · intro k t he
      cases he
    intro p r hp hr q hq _ hne
    simp only [passesFresh, hp, Option.map_some, Option.getD_some, roster_of_room hr] at h
    simpa [hne] using List.all_eq_true.mp h q hq
  | _ =>
    refine ⟨?_, trivial⟩
    intro k t he
    cases he

theorem started_when_ready : ∃ tr st e r, ServerRun noTables () tr st ∧
    actions tr = [.accept 7 0, createRoom 7, .accept 8 0, joinTeam 8 111111 .Team_B 0,
      gameWaite 8] ∧
    st.cache.GetEntity 7 = some e ∧ st.cache.FindEntityRoom e.roleInfo.roomid = some r ∧
    ∀ q ∈ r.playerinfo, q.socket ≠ 7 →
      waits noTables tr e.roleInfo.roomid q.socket % 2 = 1 := by
  obtain ⟨tr, st, hrun, hact, hp⟩ := exists_run noTables ()
    [.accept 7 0, createRoom 7, .accept 8 0, joinTeam 8 111111 .Team_B 0, gameWaite 8]
    (fun tr st => decide (event noTables st (gameStart 7) = .start 7) &&
      ((st, gameStart 7) :: tr).all (fun x => passesFresh (lobby x.1.cache)
        (event noTables x.1 x.2)) &&
      (startReply 7 st.cache).any fun x => broadcasts x.2.2) (by decide +kernel)
  simp only [Bool.and_eq_true, decide_eq_true_eq, List.all_eq_true] at hp
  obtain ⟨⟨hev, hpass⟩, hstart⟩ := hp
  cases hs : startReply 7 st.cache with
  | none => simp [hs] at hstart
  | some x =>
    obtain ⟨e, r, out⟩ := x
    obtain ⟨he, hr, c', hg⟩ := startReply_spec hs
    simp only [hs, Option.any_some] at hstart
    exact ⟨tr, st, e, r, hrun, hact, he, hr, start_only_when_ready tr st (gameStart 7) 7 hrun hev
      (fun x hx => countsFresh_of_passes (hpass x hx)) e r he hr c' out hg hstart⟩

/-- The loop passes over a member with the role id of the one who starts. -/
theorem started_without_request : ∃ tr st e r c' out, ServerRun noTables () tr st ∧
    actions tr = [.accept 7 0, createRoom 7, .accept 8 0, joinTeam 8 111111 .Team_B 0] ∧
    event noTables st (gameStart 7) = .start 7 ∧ st.cache.GetEntity 7 = some e ∧
    st.cache.FindEntityRoom e.roleInfo.roomid = some r ∧ GameStart 7 st.cache = .ok (c', out) ∧
    broadcasts out = true ∧
    ¬ ∀ q ∈ r.playerinfo, q.socket ≠ 7 →
      waits noTables tr e.roleInfo.roomid q.socket % 2 = 1 := by
  obtain ⟨tr, st, hrun, hact, hp⟩ := exists_run noTables ()
    [.accept 7 0, createRoom 7, .accept 8 0, joinTeam 8 111111 .Team_B 0]
    (fun tr st => decide (event noTables st (gameStart 7) = .start 7) &&
      (startReply 7 st.cache).any fun x : CClientEntity × RoomInfo × Outbox => broadcasts x.2.2 &&
        decide (¬ ∀ q ∈ x.2.1.playerinfo, q.socket ≠ 7 →
          waits noTables tr x.1.roleInfo.roomid q.socket % 2 = 1)) (by decide +kernel)
  simp only [Bool.and_eq_true, decide_eq_true_eq] at hp
  obtain ⟨hev, hstart⟩ := hp
  cases hs : startReply 7 st.cache with
  | none => simp [hs] at hstart
  | some x =>
    obtain ⟨e, r, out⟩ := x
    obtain ⟨he, hr, c', hg⟩ := startReply_spec hs
    simp only [hs, Option.any_some, Bool.and_eq_true, decide_eq_true_eq] at hstart
    exact ⟨tr, st, e, r, c', out, hrun, hact, hev, he, hr, hg, hstart.1, hstart.2⟩

end Run

end JiraGame.Readiness
