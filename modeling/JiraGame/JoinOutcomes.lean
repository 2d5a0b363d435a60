import JiraGame.RoleIds
import JiraGame.SeatElimination
import JiraGame.SentPackets

namespace JiraGame.JoinOutcomes

open JiraGame.Scene JiraGame.Command JiraGame.DBServer JiraGame.Cache JiraGame.HallScene
open JiraGame.ServerState JiraGame.Server JiraGame.RoomTable JiraGame.Refinement JiraGame.Runs
open JiraGame.RoomRecord JiraGame.Broadcasts JiraGame.SentPackets JiraGame.SeatElimination
open JiraGame.RelationalSqlite JiraGame.AccountRefinement JiraGame.RoleIds JiraGame.Lib.History

/-- One entry for the requester is appended to the room, the requester's role info
records room and seat, and nothing else is changed. -/
def Joined (s : SOCKET) (k : Int) (c c' : CCache) : Prop :=
  ∃ r r' entry e', c.FindEntityRoom k = some r ∧ c'.FindEntityRoom k = some r' ∧
    r'.playerinfo = r.playerinfo ++ [entry] ∧ entry.socket = s ∧
    r'.freepersoncount = r.freepersoncount - 1 ∧
    c'.GetEntity s = some e' ∧ e'.roleInfo.roomid = k ∧ e'.roleInfo.roomstate = .RT_JoinRoom ∧
    e'.roleInfo.seat = entry.seat ∧
    (∀ j, j ≠ k → c'.FindEntityRoom j = c.FindEntityRoom j) ∧
    ∀ t, t ≠ s → c'.GetEntity t = c.GetEntity t

/-- Nothing is changed, and the requester alone is told that it did not join. -/
def Rejected (s : SOCKET) (c c' : CCache) (out : Outbox) : Prop :=
  (∀ j, c'.FindEntityRoom j = c.FindEntityRoom j) ∧ (∀ t, c'.GetEntity t = c.GetEntity t) ∧
    ∃ ret : HallReturn, out = [(s, hallPacket ret)] ∧ ret.msgtype? = some .HST_JoinTeam ∧
      ret.friendlist = []

/-- The request completes with exactly one of the two outcomes. -/
def Answered (s : SOCKET) (req : HallRequest) (rand : List Nat) (c : CCache) : Prop :=
  ∃ c' out, hallLogic s req rand c = .ok (c', out) ∧
    Xor (Joined s req.inviteinfo.roomid c c') (Rejected s c c' out)

/-- The session is the requester's, the room is there, and the seat that was asked
for is free, or any seat of the grid where none was. -/
def Admits (req : HallRequest) (e : CClientEntity) (c : CCache) : Prop :=
  e.SessionID = req.sessionid ∧ ∃ r, c.FindEntityRoom req.inviteinfo.roomid = some r ∧
    match req.msgtype with
    | .HST_JoinTeam => ∀ p ∈ r.playerinfo, p.seat ≠ (req.inviteinfo.team, req.inviteinfo.teamid)
    | _ => ∃ q ∈ grid, q ∉ r.playerinfo.map place

section Outcomes

variable {c c' : CCache} {out : Outbox} {s : SOCKET} {k : Int}

theorem Joined.room_ne (h : Joined s k c c') : c'.FindEntityRoom k ≠ c.FindEntityRoom k := by
  obtain ⟨r, r', entry, -, hr, hr', hroster, -⟩ := h
  intro hsame
  rw [hr, hr', Option.some_inj] at hsame
  rw [hsame] at hroster
  exact absurd hroster (by simp)

theorem Joined.not_rejected (h : Joined s k c c') : ¬Rejected s c c' out :=
  fun hrejected => h.room_ne (hrejected.1 k)

theorem not_answered (hout : ¬∃ ret : HallReturn, out = [(s, hallPacket ret)] ∧
    ret.msgtype? = some .HST_JoinTeam ∧ ret.friendlist = []) :
    ¬Xor (Joined s k c c) (Rejected s c c out) := by
  rintro (⟨hjoined, -⟩ | ⟨hrejected, -⟩)
  · exact hjoined.room_ne rfl
  · exact hout hrejected.2.2

end Outcomes

section Handlers

variable {c : CCache} {s : SOCKET} {req : HallRequest} {r : RoomInfo} {e : CClientEntity}
  {team : TeamType} {teamid : Int}

theorem GetEntity_join (k : Int) (r' : RoomInfo) (f : PlayerInfo → PlayerInfo)
    (entry : PlayerInfo) (t : SOCKET) :
    (((c.writeRoom k r').writeRoleInfo s f).EntityRoomAddMember k entry).GetEntity t =
      (c.GetEntity t).map fun e => if t = s then { e with roleInfo := f e.roleInfo } else e := by
  have hadd : ∀ d : CCache, (d.EntityRoomAddMember k entry).GetEntity t = d.GetEntity t := by
    intro d
    rw [CCache.EntityRoomAddMember]
    split <;> rfl
  rw [hadd, GetEntity_writeRoleInfo]
  rfl

theorem joined_writes (via : JoinPath) {k : Int} (hr : c.FindEntityRoom k = some r)
    (hid : r.roomid = k) (he : c.GetEntity s = some e) :
    Joined s k c (((c.writeRoom k (r.set_freepersoncount (r.freepersoncount - 1))).writeRoleInfo s
      (asMember r.roomid team teamid)).EntityRoomAddMember k
        (entryOf via s e.roleInfo r team teamid)) := by
  have hentity := fun t => @GetEntity_join c s k (r.set_freepersoncount (r.freepersoncount - 1))
    (asMember r.roomid team teamid) (entryOf via s e.roleInfo r team teamid) t
  have hlobby := @lobby_join c s k (r.set_freepersoncount (r.freepersoncount - 1))
    (asMember r.roomid team teamid) (entryOf via s e.roleInfo r team teamid)
  refine ⟨r, joined r (entryOf via s e.roleInfo r team teamid),
    entryOf via s e.roleInfo r team teamid,
    { e with roleInfo := asMember r.roomid team teamid e.roleInfo }, hr, ?_, rfl, ?_, rfl, ?_, hid,
    rfl, ?_, ?_, ?_⟩
  · rw [← room_lobby, hlobby]
    simp [joined]
  · cases via <;> rfl
  · rw [hentity, he, Option.map_some, if_pos rfl]
  · rw [seat_entryOf]
    rfl
  · intro j hj
    rw [← room_lobby, hlobby]
    simp [hj, room_lobby]
  · intro t ht
    rw [hentity]
    simp [ht]

theorem JoinTeam_joins (hr : c.FindEntityRoom req.inviteinfo.roomid = some r)
    (hid : r.roomid = req.inviteinfo.roomid) (he : c.GetEntity s = some e)
    (hfree : ∀ p ∈ r.playerinfo, p.seat ≠ (req.inviteinfo.team, req.inviteinfo.teamid)) :
    ∃ c' out, JoinTeam s req c = .ok (c', out) ∧ Joined s req.inviteinfo.roomid c c' := by
  simp only [JoinTeam, hr, scanSeat_free _ hfree, if_true, he]
  exact ⟨_, _, rfl, joined_writes .joinTeam hr hid he⟩

/-- The handler reads the roster of the room also where there is none. -/
theorem JoinTeam_unknown (hr : c.FindEntityRoom req.inviteinfo.roomid = none) :
    JoinTeam s req c = .error .nullRoom := by
  simp only [JoinTeam, hr]

/-- The reply has been cleared, and all members get it. -/
theorem JoinTeam_taken (hr : c.FindEntityRoom req.inviteinfo.roomid = some r) {p : PlayerInfo}
    (hp : p ∈ r.playerinfo) (hseat : p.seat = (req.inviteinfo.team, req.inviteinfo.teamid)) :
    JoinTeam s req c = .ok (c, (((r.playerinfo.map PlayerInfo.socket).filter (· ≠ s)) ++ [s]).map
      fun t => (t, hallPacket {})) := by
  have hany : (r.playerinfo.any fun p => p.seat = (req.inviteinfo.team, req.inviteinfo.teamid)) =
      true := List.any_eq_true.mpr ⟨p, hp, decide_eq_true hseat⟩
  simp only [JoinTeam, hr, scanSeat_taken _ hany, Bool.false_eq_true, if_false]

theorem JoinRoom_unknown (hr : c.FindEntityRoom req.inviteinfo.roomid = none) :
    JoinRoom s req c = .ok (c, []) := by
  simp only [JoinRoom, hr]

theorem JoinRoom_joins (hr : c.FindEntityRoom req.inviteinfo.roomid = some r)
    (hid : r.roomid = req.inviteinfo.roomid) (he : c.GetEntity s = some e)
    (hnew : ∀ p ∈ r.playerinfo, p.roleid ≠ e.roleInfo.roleid)
    (hfree : ∃ q ∈ grid, q ∉ r.playerinfo.map place) :
    ∃ c' out, JoinRoom s req c = .ok (c', out) ∧ Joined s req.inviteinfo.roomid c c' := by
  obtain ⟨q, hq, hnot⟩ := hfree
  cases ha : assigned (idlePlaces (r.playerinfo.map place)) with
  | none =>
    rw [assigned_eq, List.find?_eq_none] at ha
    exact absurd (decide_eq_true hnot) (ha q hq)
  | some q' =>
    obtain ⟨team, out, -, hjoin⟩ := JoinRoom_assigns hr he hnew ha
    exact ⟨_, out, hjoin, joined_writes .joinRoom hr hid he⟩

theorem JoinRoom_turns (hr : c.FindEntityRoom req.inviteinfo.roomid = some r)
    (he : c.GetEntity s = some e) (hnew : ∀ p ∈ r.playerinfo, p.roleid ≠ e.roleInfo.roleid)
    (hfull : ∀ q ∈ grid, q ∈ r.playerinfo.map place) : JoinRoom s req c = .ok (c, []) := by
  refine JoinRoom_full hr he hnew ?_
  rw [idlePlaces_eq_nil_iff.mpr hfull]
  rfl

end Handlers

section Requests

variable {c : CCache} {s : SOCKET} {req : HallRequest} {rand : List Nat} {e : CClientEntity}

theorem JoinTeam_answered (hkeyed : ∀ k r, c.FindEntityRoom k = some r → r.roomid = k)
    (he : c.GetEntity s = some e) :
    (∃ c' out, JoinTeam s req c = .ok (c', out) ∧
      Xor (Joined s req.inviteinfo.roomid c c') (Rejected s c c' out)) ↔
    ∃ r, c.FindEntityRoom req.inviteinfo.roomid = some r ∧
      ∀ p ∈ r.playerinfo, p.seat ≠ (req.inviteinfo.team, req.inviteinfo.teamid) := by
  refine ⟨?_, ?_⟩
  · rintro ⟨c', out, hjoin, hxor⟩
    cases hr : c.FindEntityRoom req.inviteinfo.roomid with
    | none =>
      rw [JoinTeam_unknown hr] at hjoin
      cases hjoin
    | some r =>
      refine ⟨r, rfl, ?_⟩
      intro p hp hseat
      rw [JoinTeam_taken hr hp hseat] at hjoin
      cases hjoin
      refine not_answered ?_ hxor
      rintro ⟨ret, hout, hmsg, -⟩
      have hmem : (s, hallPacket {}) ∈ [(s, hallPacket ret)] := by
        rw [← hout]
        simp
      have hret : ({} : HallReturn) = ret := by simpa [hallPacket] using hmem
      rw [← hret] at hmsg
      cases hmsg
  · rintro ⟨r, hr, hfree⟩
    obtain ⟨c', out, hjoin, hjoined⟩ := JoinTeam_joins hr (hkeyed _ r hr) he hfree
    exact ⟨c', out, hjoin, .inl ⟨hjoined, hjoined.not_rejected⟩⟩

theorem not_answered_silent {k : Int} : ¬Xor (Joined s k c c) (Rejected s c c []) := by
  apply not_answered
  rintro ⟨ret, hout, -⟩
  cases hout

theorem JoinRoom_answered (hkeyed : ∀ k r, c.FindEntityRoom k = some r → r.roomid = k)
    (he : c.GetEntity s = some e) (hnew : ∀ r, c.FindEntityRoom req.inviteinfo.roomid = some r →
      ∀ p ∈ r.playerinfo, p.roleid ≠ e.roleInfo.roleid) :
    (∃ c' out, JoinRoom s req c = .ok (c', out) ∧
      Xor (Joined s req.inviteinfo.roomid c c') (Rejected s c c' out)) ↔
    ∃ r, c.FindEntityRoom req.inviteinfo.roomid = some r ∧
      ∃ q ∈ grid, q ∉ r.playerinfo.map place := by
  refine ⟨?_, ?_⟩
  · rintro ⟨c', out, hjoin, hxor⟩
    cases hr : c.FindEntityRoom req.inviteinfo.roomid with
    | none =>
      rw [JoinRoom_unknown hr] at hjoin
      cases hjoin
      exact absurd hxor not_answered_silent
    | some r =>
      refine ⟨r, rfl, ?_⟩
      by_contra hfull
      push Not at hfull
      rw [JoinRoom_turns hr he (hnew r hr) hfull] at hjoin
      cases hjoin
      exact not_answered_silent hxor
  · rintro ⟨r, hr, hfree⟩
    obtain ⟨c', out, hjoin, hjoined⟩ := JoinRoom_joins hr (hkeyed _ r hr) he (hnew r hr) hfree
    exact ⟨c', out, hjoin, .inl ⟨hjoined, hjoined.not_rejected⟩⟩

theorem answered_iff (hkeyed : ∀ k r, c.FindEntityRoom k = some r → r.roomid = k)
    (he : c.GetEntity s = some e)
    (hmsg : req.msgtype = .HST_JoinTeam ∨ req.msgtype = .HST_JoinRoom)
    (hnew : ∀ r, c.FindEntityRoom req.inviteinfo.roomid = some r →
      ∀ p ∈ r.playerinfo, p.roleid ≠ e.roleInfo.roleid) :
    Answered s req rand c ↔ Admits req e c := by
  rw [Answered, Admits]
  by_cases hs : e.SessionID = req.sessionid
  · have hvalid := (CheckSessionValid_iff he req.sessionid).mpr hs
    simp only [hallLogic, hvalid, if_true, hs, true_and]
    obtain hm | hm := hmsg
    · simp only [hm]
      exact JoinTeam_answered hkeyed he
    · simp only [hm]
      exact JoinRoom_answered hkeyed he hnew
  · have hvalid : ¬c.CheckSessionValid s req.sessionid = true := by
      rw [CheckSessionValid_iff he]
      exact hs
    simp only [hallLogic, hvalid, Bool.false_eq_true, if_false, hs, false_and, iff_false]
    rintro ⟨c', out, hjoin, hxor⟩
    cases hjoin
    exact not_answered_silent hxor

end Requests

section Runs

variable {DB : Type} {sqlite : Sqlite DB} {db : DB}

/-- Only a request that joins has one of the two outcomes. An unknown room stops
the server or is passed over in silence, a full room is passed over in silence,
and the reply to a taken seat has lost its type and goes to all members. -/
theorem joins_answered (tr : List (Process DB × Action)) (st : Process DB) (s : SOCKET)
    (req : HallRequest) (rand : List Nat) (e : CClientEntity) (h : ServerRun sqlite db tr st)
    (he : st.cache.GetEntity s = some e)
    (hmsg : req.msgtype = .HST_JoinTeam ∨ req.msgtype = .HST_JoinRoom)
    (hnew : ∀ r, st.cache.FindEntityRoom req.inviteinfo.roomid = some r →
      ∀ p ∈ r.playerinfo, p.roleid ≠ e.roleInfo.roleid) :
    Answered s req rand st.cache ↔ Admits req e st.cache :=
  answered_iff (fun k r hr => (rooms_recorded tr st h k r hr).1) he hmsg hnew

def annMeetsOwner : List Action := annPlaysBob ++ [.accept 8 0, createRoom 8]

def annJoins (msgtype : HallMsgType) (k : Int) (team : TeamType) (teamid : Int) : HallRequest :=
  { sessionid? := some "ann_111111", msgtype? := some msgtype
    inviteinfo? := some { roomid? := some k, team? := some team, teamid? := some teamid } }

theorem ann_meets_owner : ∃ tr st e r, ServerRun reference noTablesYet tr st ∧
    actions tr = annMeetsOwner ∧ st.cache.GetEntity 7 = some e ∧ e.SessionID = "ann_111111" ∧
    st.cache.FindEntityRoom 111111 = some r ∧ st.cache.FindEntityRoom 5 = none ∧
    r.playerinfo.map PlayerInfo.seat = [(.Team_A, 0)] ∧
    ∀ p ∈ r.playerinfo, p.roleid ≠ e.roleInfo.roleid := by
  obtain ⟨tr, st, hrun, hact, hp⟩ := exists_run reference noTablesYet annMeetsOwner
    (fun _ st => (st.cache.GetEntity 7).any fun e : CClientEntity =>
      (st.cache.FindEntityRoom 111111).any fun r : RoomInfo =>
        decide (e.SessionID = "ann_111111") && (decide (st.cache.FindEntityRoom 5 = none) &&
          (decide (r.playerinfo.map PlayerInfo.seat = [(.Team_A, 0)]) &&
            decide (∀ p ∈ r.playerinfo, p.roleid ≠ e.roleInfo.roleid)))) (by decide +kernel)
  obtain ⟨e, he, hp⟩ := (Option.any_eq_true _ _).mp hp
  obtain ⟨r, hr, hp⟩ := (Option.any_eq_true _ _).mp hp
  simp only [Bool.and_eq_true, decide_eq_true_eq] at hp
  exact ⟨tr, st, e, r, hrun, hact, he, hp.1, hr, hp.2⟩

/-- She joins on a free seat. -/
theorem ann_joins : ∃ tr st, ServerRun reference noTablesYet tr st ∧
    actions tr = annMeetsOwner ∧
    Answered 7 (annJoins .HST_JoinTeam 111111 .Team_B 0) [] st.cache := by
  obtain ⟨tr, st, e, r, hrun, hact, he, hsid, hr, -, hseats, hnew⟩ := ann_meets_owner
  refine ⟨tr, st, hrun, hact, (joins_answered tr st 7 (annJoins .HST_JoinTeam 111111 .Team_B 0) []
    e hrun he (.inl rfl) ?_).mpr ⟨hsid, r, hr, ?_⟩⟩
  · intro r' hr'
    rw [show st.cache.FindEntityRoom 111111 = some r' from hr', Option.some_inj] at hr
    rw [hr]
    exact hnew
  · intro p hp heq
    have hmem := List.mem_map_of_mem (f := PlayerInfo.seat) hp
    rw [hseats, heq] at hmem
    exact absurd hmem (by decide)

/-- Her requests for the owner's seat and for rooms that are not there have none
of the outcomes. -/
theorem ann_unanswered : ∃ tr st e, ServerRun reference noTablesYet tr st ∧
    actions tr = annMeetsOwner ∧ st.cache.GetEntity 7 = some e ∧
    (∀ r, st.cache.FindEntityRoom 111111 = some r →
      ∀ p ∈ r.playerinfo, p.roleid ≠ e.roleInfo.roleid) ∧
    ¬Answered 7 (annJoins .HST_JoinTeam 111111 .Team_A 0) [] st.cache ∧
    st.cache.FindEntityRoom 5 = none ∧
    ¬Answered 7 (annJoins .HST_JoinTeam 5 .Team_A 0) [] st.cache ∧
    ¬Answered 7 (annJoins .HST_JoinRoom 5 .Team_A 0) [] st.cache := by
  obtain ⟨tr, st, e, r, hrun, hact, he, hsid, hr, hnone, hseats, hnew⟩ := ann_meets_owner
  have hadmits : ∀ msgtype k, msgtype = .HST_JoinTeam ∨ msgtype = .HST_JoinRoom →
      (∀ r, st.cache.FindEntityRoom k = some r →
        ∀ p ∈ r.playerinfo, p.roleid ≠ e.roleInfo.roleid) →
      Answered 7 (annJoins msgtype k .Team_A 0) [] st.cache →
      Admits (annJoins msgtype k .Team_A 0) e st.cache :=
    fun msgtype k hmsg hnew => (@answered_iff st.cache 7 (annJoins msgtype k .Team_A 0) [] e
      (fun k r hr => (rooms_recorded tr st hrun k r hr).1) he hmsg hnew).mp
  have hnew' : ∀ r', st.cache.FindEntityRoom 111111 = some r' →
      ∀ p ∈ r'.playerinfo, p.roleid ≠ e.roleInfo.roleid := by
    intro r' hr'
    rw [hr, Option.some_inj] at hr'
    rw [← hr']
    exact hnew
  have hvacuous : ∀ r', st.cache.FindEntityRoom 5 = some r' →
      ∀ p ∈ r'.playerinfo, p.roleid ≠ e.roleInfo.roleid := by
    rw [hnone]
    rintro r' ⟨⟩
  refine ⟨tr, st, e, hrun, hact, he, hnew', ?_, hnone, ?_, ?_⟩
  · refine mt (hadmits _ _ (.inl rfl) hnew') ?_
    rintro ⟨-, r', hr', hfree⟩
    rw [show st.cache.FindEntityRoom 111111 = some r' from hr', Option.some_inj] at hr
    have hmem : (TeamType.Team_A, (0 : Int)) ∈ r'.playerinfo.map PlayerInfo.seat := by
      rw [hr, hseats]
      exact List.mem_cons_self
    obtain ⟨p, hp, hseat⟩ := List.mem_map.mp hmem
    exact hfree p hp hseat
  · refine mt (hadmits _ _ (.inl rfl) hvacuous) ?_
    rintro ⟨-, r', hr', -⟩
    rw [show st.cache.FindEntityRoom 5 = some r' from hr'] at hnone
    cases hnone
  · refine mt (hadmits _ _ (.inr rfl) hvacuous) ?_
    rintro ⟨-, r', hr', -⟩
    rw [show st.cache.FindEntityRoom 5 = some r' from hr'] at hnone
    cases hnone

end Runs

end JiraGame.JoinOutcomes
