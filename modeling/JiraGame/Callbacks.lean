import JiraGame.LeavePaths
import JiraGame.Wiring

namespace JiraGame.Callbacks

open JiraGame.Scene JiraGame.Command JiraGame.Cache JiraGame.HallScene JiraGame.MainScene
open JiraGame.ServerState JiraGame.KeepAlive JiraGame.SentPackets JiraGame.RosterOrder
open JiraGame.LeavePaths

variable {DB : Type}

/-- The packet that tells those who stay who left, and who the owner is now. -/
def leaveNotice (p : PlayerInfo) (owner : Option PlayerInfo) : Packet :=
  { curscene? := some .CS_WaitRoom
    hallreturn? := some
      { msgtype? := some .HST_LeaveRoom
        friendlist := { roleid? := some p.roleid, isroomctl? := some p.isroomctl
                        team? := some p.team, teamid? := some p.teamid } :: owner.toList } }

/-- The packet that tells the other members who dropped out of the game. -/
def breakNotice (name : String) : Packet :=
  { curscene? := some .CS_MainScene
    gamemainreturn? := some
      { msgtype? := some .GMT_BreakLine, friendlist := [{ name? := some name }] } }

def aliveNotice : CurScene → Option Packet
  | .CS_WaitRoom =>
    some { curscene? := some .CS_WaitRoom, hallreturn? := some { msgtype? := some .HST_KeepAlive } }
  | .CS_MainScene =>
    some { curscene? := some .CS_MainScene
           gamemainreturn? := some { msgtype? := some .GMT_KeepAlive } }
  | _ => none

section Effects

variable (n : Nat) (s : SOCKET) (scene : CurScene) (e : CClientEntity) (c : CCache)

/-- The room that the fourth callback leaves in the hall. -/
def left : Option RoomInfo :=
  if n = 4 ∧ scene = .CS_WaitRoom then c.FindEntityRoom e.roleInfo.roomid else none

/-- The room whose members the eleventh callback tells in the game. -/
def told : Option RoomInfo :=
  if n = 11 ∧ scene = .CS_MainScene then c.FindEntityRoom e.roleInfo.roomid else none

/-- The members who stay, and the new owner if the leaver was the owner. -/
def staying (r : RoomInfo) : List PlayerInfo × Option PlayerInfo :=
  handOver e.roleInfo.isroomctl (others e.roleInfo.roleid r.playerinfo)

def alone (r : RoomInfo) : Bool := r.personcount = r.freepersoncount + 1

def heir : Option PlayerInfo :=
  (left n scene e c).bind fun r => if alone r then none else (staying e r).2

/-- The packets of the `n`-th callback, when it does not evict. -/
def sent : Outbox :=
  ((left n scene e c).elim [] fun r => if alone r then [] else
    (staying e r).1.map fun q => (q.socket, leaveNotice e.roleInfo (staying e r).2)) ++
  ((told n scene e c).elim [] fun r => (r.playerinfo.filter fun q => q.socket ≠ s).map
    fun q => (q.socket, breakNotice e.roleInfo.name)) ++
  (aliveNotice scene).toList.map fun p => (s, p)

def roomsAfter : Int → Option RoomInfo :=
  (left n scene e c).elim c.FindEntityRoom fun r =>
    Function.update c.FindEntityRoom e.roleInfo.roomid (if alone r then none else
      some { roomid? := some r.roomid, roomname? := some r.roomname
             personcount? := some r.personcount, freepersoncount? := some (r.freepersoncount + 1)
             playerinfo := (staying e r).1 })

/-- The client has one callback more, the broken mark from the fourth to the tenth, and
no room if it left one. The new owner has the owner flag. -/
def entitiesAfter (t : SOCKET) : Option CClientEntity :=
  if t = s then
    some { e with
      m_iSendMsgCount := n
      isBroken := if n < 4 then e.isBroken else decide (n ≤ 10)
      roleInfo := if (left n scene e c).isSome then
        { e.roleInfo with roomid? := some 0, roomstate? := some .RT_Idle } else e.roleInfo }
  else if (heir n scene e c).any fun q => q.socket = t then
    (c.GetEntity t).map fun f => { f with roleInfo := { f.roleInfo with isroomctl? := some true } }
  else c.GetEntity t

end Effects

/-- What the `n`-th callback since the last keep-alive message sends and leaves behind.
The thirty-first erases the entity. -/
structure Called (n : Nat) (s : SOCKET) (scene : CurScene) (ptr : Nat) (e : CClientEntity)
    (st st' : Process DB) (out : Outbox) : Prop where
  out : out = if n = 31 then [] else sent n s scene e st.cache
  room : ∀ k, st'.cache.FindEntityRoom k = roomsAfter n scene e st.cache k
  entity : ∀ t, st'.cache.GetEntity t =
    if n = 31 then (if t = s then none else st.cache.GetEntity t)
    else entitiesAfter n s scene e st.cache t
  info : ∀ p, st'.infos[p]? = if n = 31 ∧ p = ptr then none else st.infos[p]?

/-- The fourth callback makes a member the owner who has no entity. -/
def Orphaned (n : Nat) (scene : CurScene) (e : CClientEntity) (c : CCache) : Prop :=
  ∃ q, heir n scene e c = some q ∧ c.GetEntity q.socket = none

/-- The outcome of the `n`-th callback; one that makes such a member the owner does not
come back. -/
def NthCallback (n : Nat) (s : SOCKET) (scene : CurScene) (ptr : Nat) (e : CClientEntity)
    (st : Process DB) (r : Except Fault (Process DB × Outbox)) : Prop :=
  (Orphaned n scene e st.cache → r = .error .nullEntity) ∧
    (¬Orphaned n scene e st.cache → ∃ st' out, r = .ok (st', out) ∧ Called n s scene ptr e st st' out)

theorem told_iff {n : Nat} {s t : SOCKET} {scene : CurScene} {e : CClientEntity} {c : CCache} :
    (t, breakNotice e.roleInfo.name) ∈ sent n s scene e c ↔ n = 11 ∧ scene = .CS_MainScene ∧
      ∃ r, c.FindEntityRoom e.roleInfo.roomid = some r ∧ t ≠ s ∧ ∃ q ∈ r.playerinfo, q.socket = t := by
  have halive : ∀ p ∈ aliveNotice scene, p ≠ breakNotice e.roleInfo.name := by
    rintro p hp rfl
    cases scene <;> cases hp
  constructor
  · intro h
    obtain h | h := List.mem_append.mp h
    · obtain h | h := List.mem_append.mp h
      · -- a notice of a leave is no message of the game
        cases hleft : left n scene e c with
        | none =>
          rw [hleft] at h
          cases h
        | some r =>
          rw [hleft, Option.elim_some] at h
          split at h
          · cases h
          · obtain ⟨q, -, hq⟩ := List.mem_map.mp h
            cases hq
      · rw [told] at h
        split at h
        · rename_i hcase
          cases hr : c.FindEntityRoom e.roleInfo.roomid with
          | none =>
            rw [hr] at h
            cases h
          | some r =>
            rw [hr, Option.elim_some] at h
            obtain ⟨q, hq, he⟩ := List.mem_map.mp h
            cases he
            obtain ⟨hmem, hne⟩ := List.mem_filter.mp hq
            exact ⟨hcase.1, hcase.2, r, rfl, of_decide_eq_true hne, q, hmem, rfl⟩
        · cases h
    · obtain ⟨p, hp, he⟩ := List.mem_map.mp h
      cases he
      exact absurd rfl (halive _ (Option.mem_toList.mp hp))
  · rintro ⟨hn, hscene, r, hr, hts, q, hq, rfl⟩
    refine List.mem_append_left _ (List.mem_append_right _ ?_)
    rw [told, if_pos ⟨hn, hscene⟩, hr, Option.elim_some]
    exact List.mem_map.mpr ⟨q, List.mem_filter.mpr ⟨hq, decide_eq_true hts⟩, rfl⟩

section Views

variable {c : CCache} {s : SOCKET} {e : CClientEntity}

theorem GetEntity_writeTimed (f : CClientEntity → CClientEntity) (t : SOCKET) :
    (writeTimed s f c).GetEntity t = (c.GetEntity t).map fun e => if t = s then f e else e := by
  rw [writeTimed]
  cases he : c.GetEntity s with
  | none =>
    by_cases ht : t = s
    · rw [ht, he]
      rfl
    · simp [ht]
  | some e =>
    by_cases ht : t = s
    · subst ht
      rw [he]
      simp [CCache.writeEntity, CCache.GetEntity]
    · simp [CCache.writeEntity, CCache.GetEntity, Std.TreeMap.getElem?_insert, ht, Ne.symm ht]

theorem FindEntityRoom_writeTimed (f : CClientEntity → CClientEntity) :
    (writeTimed s f c).FindEntityRoom = c.FindEntityRoom := by
  rw [writeTimed]
  cases c.GetEntity s <;> rfl

theorem FindEntityRoom_writeRoleInfo (f : PlayerInfo → PlayerInfo) :
    (c.writeRoleInfo s f).FindEntityRoom = c.FindEntityRoom := by
  rw [CCache.writeRoleInfo]
  cases c.GetEntity s <;> rfl

theorem FindEntityRoom_remove (k : Int) :
    (c.EntityRoomRemoveMember k).FindEntityRoom = Function.update c.FindEntityRoom k none := by
  funext j
  by_cases hj : j = k
  · subst hj
    simp [CCache.EntityRoomRemoveMember, CCache.FindEntityRoom]
  · rw [Function.update_of_ne hj]
    simp [CCache.EntityRoomRemoveMember, CCache.FindEntityRoom, Std.TreeMap.getElem?_erase, Ne.symm hj]

theorem FindEntityRoom_rebuild (k : Int) (r : RoomInfo) :
    ((c.EntityRoomRemoveMember k).CreateRoom k r).FindEntityRoom =
      Function.update c.FindEntityRoom k (some r) := by
  have hnone : (c.EntityRoomRemoveMember k).FindEntityRoom k = none := by
    rw [FindEntityRoom_remove, Function.update_self]
  rw [CCache.CreateRoom_new hnone]
  funext j
  by_cases hj : j = k
  · subst hj
    simp [CCache.writeRoom, CCache.FindEntityRoom]
  · rw [Function.update_of_ne hj]
    simp [CCache.writeRoom, CCache.EntityRoomRemoveMember, CCache.FindEntityRoom,
      Std.TreeMap.getElem?_insert, Std.TreeMap.getElem?_erase, Ne.symm hj]

theorem GetEntity_rebuild (k : Int) (r : RoomInfo) :
    ((c.EntityRoomRemoveMember k).CreateRoom k r).GetEntity = c.GetEntity := by
  rw [CCache.CreateRoom]
  split <;> rfl

end Views

section Leave

variable {c : CCache} {s : SOCKET} {e : CClientEntity} {r : RoomInfo}

theorem needed_of_handOver {needed : Bool} {ps : List PlayerInfo} {q : PlayerInfo}
    (h : (handOver needed ps).2 = some q) : needed = true := by
  cases ps with
  | nil => cases h
  | cons p ps =>
    cases needed with
    | true => rfl
    | false => cases h

def settled (s : SOCKET) (owner : Option PlayerInfo) (c : CCache) (t : SOCKET) :
    Option CClientEntity :=
  (c.GetEntity t).map fun f =>
    if t = s then
      { f with roleInfo := { f.roleInfo with roomid? := some 0, roomstate? := some .RT_Idle } }
    else if owner.any fun q => q.socket = t then
      { f with roleInfo := { f.roleInfo with isroomctl? := some true } }
    else f

theorem leave_last (he : c.GetEntity s = some e)
    (hr : c.FindEntityRoom e.roleInfo.roomid = some r) (hlast : alone r = true) :
    ∃ c', KeepAlive.LeaveRoom s c = .ok (c', []) ∧
      c'.FindEntityRoom = Function.update c.FindEntityRoom e.roleInfo.roomid none ∧
      c'.GetEntity = settled s none c := by
  have hlast : lastLeaves r = true := hlast
  rw [KeepAlive.LeaveRoom, leaveOwnRoom]
  simp only [he, hr, hlast, if_true]
  refine ⟨_, rfl, ?_, ?_⟩
  · rw [FindEntityRoom_writeRoleInfo, FindEntityRoom_remove]
  · funext t
    rw [GetEntity_writeRoleInfo]
    rfl

theorem leave_others (he : c.GetEntity s = some e)
    (hr : c.FindEntityRoom e.roleInfo.roomid = some r) (hlast : alone r = false)
    (howner : ∀ q ∈ (staying e r).2, c.GetEntity q.socket ≠ none) :
    ∃ c', KeepAlive.LeaveRoom s c = .ok (c', (staying e r).1.map fun q =>
        (q.socket, leaveNotice e.roleInfo (staying e r).2)) ∧
      c'.FindEntityRoom = Function.update c.FindEntityRoom e.roleInfo.roomid
        (some (leftRoom r (staying e r).1)) ∧
      c'.GetEntity = settled s (staying e r).2 c := by
  have hlast : lastLeaves r = false := hlast
  rw [KeepAlive.LeaveRoom, leaveOwnRoom]
  simp only [he, hr, hlast, Bool.false_eq_true, if_false, copyOthers_entity]
  cases hq : (staying e r).2 with
  | none =>
    have hnone : (handOver e.roleInfo.isroomctl (others e.roleInfo.roleid r.playerinfo)).2 = none := hq
    simp only [hnone]
    refine ⟨_, rfl, ?_, ?_⟩
    · rw [FindEntityRoom_rebuild, FindEntityRoom_writeRoleInfo]
      rfl
    · funext t
      rw [GetEntity_rebuild, GetEntity_writeRoleInfo]
      rfl
  | some q =>
    have hsome : (handOver e.roleInfo.isroomctl (others e.roleInfo.roleid r.playerinfo)).2 = some q := hq
    have hctl := needed_of_handOver hq
    obtain ⟨f, hf⟩ := Option.ne_none_iff_exists'.mp (howner q hq)
    simp only [hsome, hf]
    refine ⟨_, rfl, ?_, ?_⟩
    · rw [FindEntityRoom_rebuild, FindEntityRoom_writeRoleInfo, FindEntityRoom_writeRoleInfo]
      rfl
    · funext t
      rw [GetEntity_rebuild, GetEntity_writeRoleInfo, GetEntity_writeRoleInfo, settled, Option.map_map]
      by_cases hts : t = s
      · -- the leaver has the flag already, should its heir be of the same socket
        have hcrown : e.roleInfo.set_isroomctl true = e.roleInfo := set_isroomctl_owner hctl
        subst hts
        by_cases htq : t = q.socket
        · rw [he]
          simp [htq, hcrown, asIdle, PlayerInfo.set_roomid, PlayerInfo.set_roomstate]
        · simp [htq, asIdle, PlayerInfo.set_roomid, PlayerInfo.set_roomstate, Function.comp_def]
      · by_cases htq : t = q.socket
        · simp [hts, ← htq, PlayerInfo.set_isroomctl, Function.comp_def]
        · simp [hts, htq, Ne.symm htq, Function.comp_def]

theorem leave_orphaned {q : PlayerInfo} (he : c.GetEntity s = some e)
    (hr : c.FindEntityRoom e.roleInfo.roomid = some r) (hlast : alone r = false)
    (hq : (staying e r).2 = some q) (hnone : c.GetEntity q.socket = none) :
    KeepAlive.LeaveRoom s c = .error .nullEntity := by
  have hlast : lastLeaves r = false := hlast
  have hsome : (handOver e.roleInfo.isroomctl (others e.roleInfo.roleid r.playerinfo)).2 = some q := hq
  rw [KeepAlive.LeaveRoom, leaveOwnRoom]
  simp only [he, hr, hlast, Bool.false_eq_true, if_false, copyOthers_entity, hsome, hnone]

end Leave

section Ticks

variable {c : CCache} {s : SOCKET} {e : CClientEntity} {scene : CurScene} {n : Nat}

theorem breakLine_eq (he : c.GetEntity s = some e) :
    breakLine s c = .ok ((c.FindEntityRoom e.roleInfo.roomid).elim [] fun r =>
      (r.playerinfo.filter fun q => q.socket ≠ s).map
        fun q => (q.socket, breakNotice e.roleInfo.name)) := by
  rw [breakLine]
  simp only [he]
  cases c.FindEntityRoom e.roleInfo.roomid with
  | none => rfl
  | some r =>
    dsimp only [Option.elim_some]
    rw [List.filter_map, List.map_map]
    rfl

theorem heartbeatNotice_eq (s : SOCKET) (scene : CurScene) :
    heartbeatNotice s scene = (aliveNotice scene).toList.map fun p => (s, p) := by
  cases scene <;> rfl

/-- The `n`-th callback since the last keep-alive message, when it does not evict:
the fourth leaves the room, and the eleventh tells the other players. -/
def numberedTick (n : Nat) (s : SOCKET) (scene : CurScene) (c : CCache) :
    Except Fault (CCache × Outbox) :=
  (if n = 4 ∧ scene = .CS_WaitRoom then KeepAlive.LeaveRoom s c else .ok (c, [])) >>= fun x =>
    (if n = 11 ∧ scene = .CS_MainScene then breakLine s x.1 else .ok []) >>= fun told =>
      .ok (endTick s scene (if n < 4 then x.1 else writeTimed s (fun e =>
        { e with isBroken := decide (n ≤ 10) }) x.1) (x.2 ++ told))

def counting (n : Nat) (f : CClientEntity) : CClientEntity :=
  { f with m_iSendMsgCount := f.m_iSendMsgCount + 1
           isBroken := if n < 4 then f.isBroken else decide (n ≤ 10) }

theorem GetEntity_end (n : Nat) (out : Outbox) (t : SOCKET) :
    (endTick s scene (if n < 4 then c else writeTimed s (fun e =>
      { e with isBroken := decide (n ≤ 10) }) c) out).1.GetEntity t =
      (c.GetEntity t).map fun f => if t = s then counting n f else f := by
  rw [endTick, GetEntity_writeTimed]
  by_cases hn : n < 4
  · rw [if_pos hn]
    simp only [counting, if_pos hn]
  · rw [if_neg hn, GetEntity_writeTimed, Option.map_map]
    congr 1
    funext f
    by_cases hts : t = s <;> simp [hts, counting, hn]

theorem FindEntityRoom_end (n : Nat) (out : Outbox) :
    (endTick s scene (if n < 4 then c else writeTimed s (fun e =>
      { e with isBroken := decide (n ≤ 10) }) c) out).1.FindEntityRoom = c.FindEntityRoom := by
  rw [endTick, FindEntityRoom_writeTimed]
  split
  · rfl
  · exact FindEntityRoom_writeTimed _

theorem ok_bind {α β : Type} (a : α) (f : α → Except Fault β) : (Except.ok a >>= f) = f a := rfl

theorem numberedTick_eq {c₁ : CCache} {o : Outbox} (he : c.GetEntity s = some e)
    (hleave : (if n = 4 ∧ scene = .CS_WaitRoom then KeepAlive.LeaveRoom s c else .ok (c, [])) =
      .ok (c₁, o)) :
    ∃ c', numberedTick n s scene c = .ok (c', o ++
        ((told n scene e c).elim [] fun r => (r.playerinfo.filter fun q => q.socket ≠ s).map
          fun q => (q.socket, breakNotice e.roleInfo.name)) ++
        (aliveNotice scene).toList.map fun p => (s, p)) ∧
      c'.FindEntityRoom = c₁.FindEntityRoom ∧
      ∀ t, c'.GetEntity t = (c₁.GetEntity t).map fun f => if t = s then counting n f else f := by
  have htold : (if n = 11 ∧ scene = .CS_MainScene then breakLine s c₁ else .ok []) =
      .ok ((told n scene e c).elim [] fun r => (r.playerinfo.filter fun q => q.socket ≠ s).map
          fun q => (q.socket, breakNotice e.roleInfo.name)) := by
    rw [told]
    by_cases h : n = 11 ∧ scene = .CS_MainScene
    · rw [if_neg (by omega)] at hleave
      cases hleave
      rw [if_pos h, if_pos h, breakLine_eq he]
    · rw [if_neg h, if_neg h]
      rfl
  refine ⟨(endTick s scene (if n < 4 then c₁ else writeTimed s (fun e =>
      { e with isBroken := decide (n ≤ 10) }) c₁) []).1, ?_, FindEntityRoom_end n [],
    fun t => GetEntity_end n [] t⟩
  rw [numberedTick, hleave, ok_bind, htold, ok_bind]
  simp only [endTick, heartbeatNotice_eq]

structure Does (n : Nat) (s : SOCKET) (scene : CurScene) (e : CClientEntity) (c c' : CCache)
    (out : Outbox) : Prop where
  out : out = sent n s scene e c
  room : c'.FindEntityRoom = roomsAfter n scene e c
  entity : c'.GetEntity = entitiesAfter n s scene e c

theorem numberedTick_stays (he : c.GetEntity s = some e) (hn : e.m_iSendMsgCount + 1 = n)
    (hleft : left n scene e c = none) :
    ∃ c' out, numberedTick n s scene c = .ok (c', out) ∧ Does n s scene e c c' out := by
  have hleave : (if n = 4 ∧ scene = .CS_WaitRoom then KeepAlive.LeaveRoom s c else .ok (c, [])) =
      .ok (c, []) := by
    rw [left] at hleft
    split
    · rename_i hfour
      rw [if_pos hfour] at hleft
      rw [KeepAlive.LeaveRoom, leaveOwnRoom]
      simp only [he, hleft]
    · rfl
  obtain ⟨c', htick, hroom, hget⟩ := numberedTick_eq he hleave
  refine ⟨c', _, htick, ?_, ?_, ?_⟩
  · rw [sent, hleft, Option.elim_none]
  · rw [hroom, roomsAfter, hleft, Option.elim_none]
  · funext t
    rw [hget, entitiesAfter, heir, hleft]
    by_cases hts : t = s
    · rw [hts, he]
      simp [counting, hn]
    · simp [hts]

theorem numberedTick_leaves {c₁ : CCache} {o : Outbox} {r : RoomInfo}
    (he : c.GetEntity s = some e) (hn : e.m_iSendMsgCount + 1 = n)
    (hleft : left n scene e c = some r) (hleave : KeepAlive.LeaveRoom s c = .ok (c₁, o))
    (ho : o = if alone r then [] else
      (staying e r).1.map fun q => (q.socket, leaveNotice e.roleInfo (staying e r).2))
    (hroom : c₁.FindEntityRoom = Function.update c.FindEntityRoom e.roleInfo.roomid
      (if alone r then none else some (leftRoom r (staying e r).1)))
    (hget : c₁.GetEntity = settled s (if alone r then none else (staying e r).2) c) :
    ∃ c' out, numberedTick n s scene c = .ok (c', out) ∧ Does n s scene e c c' out := by
  have hcall : (if n = 4 ∧ scene = .CS_WaitRoom then KeepAlive.LeaveRoom s c else .ok (c, [])) =
      .ok (c₁, o) := by
    rw [left] at hleft
    split at hleft
    · rename_i hfour
      rw [if_pos hfour]
      exact hleave
    · cases hleft
  obtain ⟨c', htick, hroom', hget'⟩ := numberedTick_eq he hcall
  refine ⟨c', _, htick, ?_, ?_, ?_⟩
  · rw [sent, hleft, Option.elim_some, ho]
  · rw [hroom', hroom, roomsAfter, hleft, Option.elim_some]
    rfl
  · funext t
    rw [hget', hget, settled, entitiesAfter, heir, hleft, Option.bind_some, Option.map_map]
    by_cases hts : t = s
    · rw [hts, he]
      simp [counting, hn]
    · by_cases hq : (if alone r then none else (staying e r).2).any fun q => q.socket = t
      · simp [hts, hq, Function.comp_def]
      · simp [hts, hq, Function.comp_def]

theorem numberedTick_does (he : c.GetEntity s = some e) (hn : e.m_iSendMsgCount + 1 = n)
    (hkept : ¬Orphaned n scene e c) :
    ∃ c' out, numberedTick n s scene c = .ok (c', out) ∧ Does n s scene e c c' out := by
  cases hleft : left n scene e c with
  | none => exact numberedTick_stays he hn hleft
  | some r =>
    have hr : c.FindEntityRoom e.roleInfo.roomid = some r := by
      rw [left] at hleft
      split at hleft
      · exact hleft
      · cases hleft
    cases hlast : alone r with
    | true =>
      obtain ⟨c₁, hleave, hroom, hget⟩ := leave_last he hr hlast
      refine numberedTick_leaves he hn hleft hleave ?_ ?_ ?_
      · rw [hlast]
        rfl
      · rw [hroom, hlast]
        rfl
      · rw [hget, hlast]
        rfl
    | false =>
      have howner : ∀ q ∈ (staying e r).2, c.GetEntity q.socket ≠ none := by
        intro q hq hnone
        refine hkept ⟨q, ?_, hnone⟩
        rw [heir, hleft, Option.bind_some, hlast]
        exact hq
      obtain ⟨c₁, hleave, hroom, hget⟩ := leave_others he hr hlast howner
      refine numberedTick_leaves he hn hleft hleave ?_ ?_ ?_
      · rw [hlast]
        rfl
      · rw [hroom, hlast]
        rfl
      · rw [hget, hlast]
        rfl

theorem numberedTick_orphaned (he : c.GetEntity s = some e) (h : Orphaned n scene e c) :
    numberedTick n s scene c = .error .nullEntity := by
  obtain ⟨q, hq, hnone⟩ := h
  obtain ⟨r, hleft, hq⟩ := Option.bind_eq_some_iff.mp hq
  split at hq
  · cases hq
  · rename_i hlast
    rw [left] at hleft
    split at hleft
    · rename_i hfour
      have hleave := leave_orphaned he hleft (by simpa using hlast) hq hnone
      rw [numberedTick, if_pos hfour, hleave]
      rfl
    · cases hleft

end Ticks

end JiraGame.Callbacks
