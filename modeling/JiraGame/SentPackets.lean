import JiraGame.Broadcasts
import JiraGame.ReplySizes

namespace JiraGame.SentPackets

open JiraGame.Scene JiraGame.Command JiraGame.DBServer JiraGame.Cache JiraGame.HallScene
open JiraGame.MainScene JiraGame.AccountScenes JiraGame.ServerState JiraGame.KeepAlive
open JiraGame.Server JiraGame.Refinement JiraGame.Broadcasts JiraGame.ReplySizes
open JiraGame.AccountStatements hiding text
open JiraGame.ProcessFrame JiraGame.Lib.Fails

/-- All packets are among the given ones. -/
def Among (ps : List Packet) (out : Outbox) : Prop := ∀ y ∈ out, y.2 ∈ ps

/-- All packets carry one of the given messages. -/
abbrev Carries {R : Type} (packet : R → Packet) (rs : List R) : Outbox → Prop :=
  Among (rs.map packet)

section Lists

variable {ps qs : List Packet} {o o' : Outbox}

theorem among_nil (ps : List Packet) : Among ps [] := fun _ hy => by cases hy

theorem among_map {α : Type} {p : Packet} (dest : α → SOCKET) (hp : p ∈ ps) (xs : List α) :
    Among ps (xs.map fun x => (dest x, p)) := by
  intro y hy
  obtain ⟨x, -, rfl⟩ := List.mem_map.mp hy
  exact hp

theorem among_one {p : Packet} (s : SOCKET) (hp : p ∈ ps) : Among ps [(s, p)] :=
  among_map (fun _ : Unit => s) hp [()]

theorem Among.append (h : Among ps o) (h' : Among qs o') : Among (ps ++ qs) (o ++ o') := by
  intro y hy
  obtain hy | hy := List.mem_append.mp hy
  · exact List.mem_append_left _ (h y hy)
  · exact List.mem_append_right _ (h' y hy)

theorem scanSeat_taken {team : TeamType} {teamid : Int} {ps : List PlayerInfo} (ret : HallReturn)
    (h : (ps.any fun p => p.seat = (team, teamid)) = true) :
    scanSeat team teamid ps ret = (false, {}) := by
  induction ps generalizing ret with
  | nil => cases h
  | cons p ps ih =>
    rw [scanSeat]
    split
    · rfl
    · rename_i hp
      simp only [List.any_cons, PlayerInfo.seat, Prod.mk.injEq, decide_eq_false hp,
        Bool.false_or] at h
      refine ih _ ?_
      simpa only [PlayerInfo.seat, Prod.mk.injEq] using h

theorem mapM_rooms {g : Int × RoomInfo → Except Fault RoomInfo}
    (hnil : ∀ x, x.2.playerinfo = [] → g x = .error .emptyRoster)
    (hcons : ∀ x p ps, x.2.playerinfo = p :: ps → g x = .ok (roomEntry (x.1, x.2, p)))
    {xs : List (Int × RoomInfo)} {rooms : List RoomInfo} (h : xs.mapM g = .ok rooms) :
    ∃ ys, xs.mapM (fun x => x.2.playerinfo.head?.map fun p => (x.1, x.2, p)) = some ys ∧
      rooms = ys.map roomEntry := by
  induction xs generalizing rooms with
  | nil =>
    cases h
    exact ⟨[], rfl, rfl⟩
  | cons x xs ih =>
    rw [List.mapM_cons] at h
    obtain ⟨room, hroom, h⟩ := of_bind_ok h
    obtain ⟨rest, hrest, h⟩ := of_bind_ok h
    cases h
    obtain ⟨ys, hys, rfl⟩ := ih hrest
    cases hp : x.2.playerinfo with
    | nil =>
      rw [hnil x hp] at hroom
      cases hroom
    | cons p ps =>
      rw [hcons x p ps hp] at hroom
      cases hroom
      exact ⟨(x.1, x.2, p) :: ys, by simp [List.mapM_cons, hp, hys], rfl⟩

end Lists

section Hall

variable {c c' : CCache} {out : Outbox} {s : SOCKET} {req : HallRequest} {rand : List Nat}

theorem CreateRoom_carries (h : CreateRoom s req rand c = .ok (c', out)) :
    Carries hallPacket ((created s req rand c).map (createReturn req.roomname)).toList out := by
  rw [CreateRoom] at h
  rw [created]
  split at h
  · cases h
    exact among_nil _
  · rename_i hname
    rw [if_neg hname]
    cases he : c.GetEntity s with
    | none => simp [he] at h
    | some e =>
      simp only [he] at h
      rw [Option.bind_some]
      split at h
      · cases h
        exact among_nil _
      · rename_i hroom
        rw [if_neg hroom]
        cases hg : GenrateOnlyRoomID c rand with
        | none => simp [hg] at h
        | some x =>
          simp only [hg] at h
          cases h
          exact among_one s List.mem_cons_self

theorem OnlineFriend_carries (h : OnlineFriend s req c = .ok (c', out)) : Carries hallPacket
    [{ msgtype? := some .HST_OnlineFriend, friendlist := (online req c).map onlineEntry }] out := by
  cases h
  refine among_one s ?_
  rw [online, List.map_map]
  exact List.mem_singleton.mpr rfl

theorem RequestTeam_carries (h : RequestTeam s req c = .ok (c', out)) : Carries hallPacket
    ((c.GetEntity s).map fun e =>
      { inviteinfo? := some { req.inviteinfo with requsername? := some e.roleInfo.name }
        msgtype? := some .HST_RequestTeam }).toList out := by
  rw [RequestTeam] at h
  cases he : c.GetEntity s with
  | none => simp [he] at h
  | some e =>
    simp only [he] at h
    cases h
    split
    · exact among_one _ List.mem_cons_self
    · exact among_nil _

theorem JoinTeam_carries (h : JoinTeam s req c = .ok (c', out)) :
    Carries hallPacket ((seated s req c).map (seatReturn s req)).toList out := by
  rw [JoinTeam] at h
  rw [seated]
  cases hr : c.FindEntityRoom req.inviteinfo.roomid with
  | none => simp [hr] at h
  | some r =>
    simp only [hr, scanSeat_fst] at h
    rw [Option.bind_some]
    cases hany : r.playerinfo.any fun p => p.seat = (req.inviteinfo.team, req.inviteinfo.teamid) with
    | true =>
      simp only [hany, Bool.not_true, Bool.false_eq_true, if_false, scanSeat_taken _ hany] at h
      cases h
      exact among_map id List.mem_cons_self _
    | false =>
      simp only [hany, Bool.not_false, if_true] at h
      cases he : c.GetEntity s with
      | none => simp [he] at h
      | some e =>
        have hfree : ∀ p ∈ r.playerinfo, p.seat ≠ (req.inviteinfo.team, req.inviteinfo.teamid) := by
          simpa using hany
        simp only [he, scanSeat_free _ hfree, List.nil_append] at h
        cases h
        exact among_map id List.mem_cons_self _

theorem GetRoomList_carries (h : GetRoomList s c = .ok (c', out)) : Carries hallPacket
    ((rooms c).map fun xs =>
      { msgtype? := some .HST_GetRoomList, hallinfo? := some ⟨xs.map roomEntry⟩ }).toList out := by
  rw [GetRoomList] at h
  obtain ⟨roominfo, hrooms, h⟩ := of_bind_ok h
  cases h
  obtain ⟨ys, hys, rfl⟩ := mapM_rooms (fun x hx => by simp [hx])
    (fun x p ps hx => by simp [hx, roomEntry]) hrooms
  rw [rooms, hys]
  exact among_one s List.mem_cons_self

theorem leaveOwnRoom_carries (h : leaveOwnRoom s c = .ok (c', out)) : Carries hallPacket
    ((ownLeave s c).map fun x => leaveReturn (leaverEntry x.1, x.2)).toList out := by
  rw [leaveOwnRoom] at h
  rw [ownLeave]
  cases he : c.GetEntity s with
  | none => simp [he] at h
  | some e =>
    simp only [he] at h
    rw [Option.bind_some]
    cases hr : c.FindEntityRoom e.roleInfo.roomid with
    | none =>
      simp only [hr] at h
      cases h
      exact among_nil _
    | some r =>
      simp only [hr] at h
      rw [Option.bind_some]
      split at h
      · cases h
        exact among_nil _
      · rename_i hlast
        rw [if_neg hlast]
        cases hq : (copyOthers e.roleInfo.roleid false e.roleInfo.isroomctl false r.playerinfo).2 with
        | none =>
          simp only [hq] at h
          cases h
          exact among_map PlayerInfo.socket List.mem_cons_self _
        | some q =>
          simp only [hq] at h
          cases hf : c.GetEntity q.socket with
          | none => simp [hf] at h
          | some f =>
            simp only [hf] at h
            cases h
            simp only [Option.all_some, hf, Option.isSome_some, if_true]
            exact among_map PlayerInfo.socket List.mem_cons_self _

theorem LeaveRoom_carries (h : HallScene.LeaveRoom s c = .ok (c', out)) : Carries hallPacket
    ({ msgtype? := some .HST_LeaveRoom } ::
      ((ownLeave s c).map fun x => leaveReturn (leaverEntry x.1, x.2)).toList) out := by
  obtain ⟨⟨c₁, o⟩, hown, h⟩ := of_bind_ok h
  cases h
  exact (among_one s (List.mem_singleton_self _)).append (leaveOwnRoom_carries hown)

theorem JoinRoom_carries (h : JoinRoom s req c = .ok (c', out)) : Carries hallPacket
    (((namedLeave s req c).map leaveReturn).toList ++
      ((named s req c).map joinReturn).toList) out := by
  unfold JoinRoom at h
  rw [namedLeave, named]
  cases hr : c.FindEntityRoom req.inviteinfo.roomid with
  | none =>
    simp only [hr] at h
    cases h
    exact among_nil _
  | some r =>
    obtain hidle | ⟨idle, hidle⟩ := Option.eq_none_or_eq_some (IdleTeam_ID r.playerinfo)
    · simp [hr, hidle] at h
    · cases he : c.GetEntity s with
      | none => simp [hr, hidle, he] at h
      | some e =>
        simp only [hr, hidle, he] at h
        simp only [Option.bind_some]
        cases hp : r.playerinfo.find? fun p => p.roleid = e.roleInfo.roleid with
        | some p =>
          simp only [hp] at h
          rw [leaveNamedRoom] at h
          split at h
          · cases h
            exact among_nil _
          · rename_i hlast
            cases h
            rw [Option.bind_some, if_neg hlast]
            exact among_map PlayerInfo.socket List.mem_cons_self _
        | none =>
          have hany : (r.playerinfo.any fun p => p.roleid = e.roleInfo.roleid) = false := by
            simpa using hp
          simp only [hp] at h
          simp only [hany, Bool.false_eq_true, if_false, hidle, Option.bind_some]
          cases idle with
          | nil =>
            cases h
            exact among_nil _
          | cons x more =>
            obtain ⟨first, poss⟩ := x
            cases poss with
            | nil => cases h
            | cons pos poss =>
              cases h
              exact among_map PlayerInfo.socket List.mem_cons_self _

theorem GameWaite_carries (h : GameWaite s c = .ok (c', out)) : Carries hallPacket
    ((waiting s c).map fun x =>
      { msgtype? := some .HST_GameWaite, friendlist := [waiteEntry x] }).toList out := by
  obtain ⟨e, r, he, hr, -⟩ := GameWaite_spec h
  simp only [GameWaite, he, hr] at h
  cases h
  rw [waiting, he, Option.bind_some, hr]
  exact among_map PlayerInfo.socket List.mem_cons_self _

theorem GameStart_carries (h : GameStart s c = .ok (c', out)) : Carries hallPacket
    ((starting s c).map fun ps =>
      { msgtype? := some .HST_GameStart, friendlist := ps }).toList out := by
  obtain ⟨e, r, all, he, hr, hall, -, rfl⟩ := GameStart_spec h
  simp only [starting, he, Option.bind_some, hr, hall]
  exact among_map PlayerInfo.socket List.mem_cons_self _

theorem hallLogic_carries (h : hallLogic s req rand c = .ok (c', out)) :
    Carries hallPacket (builtHall s req rand c) out := by
  rw [hallLogic] at h
  rw [builtHall]
  split at h
  · rename_i hs
    rw [if_pos hs]
    cases hm : req.msgtype <;> simp only [hm] at h ⊢
    case HST_CreateRoom => exact CreateRoom_carries h
    case HST_OnlineFriend => exact OnlineFriend_carries h
    case HST_RequestTeam => exact RequestTeam_carries h
    case HST_JoinTeam => exact JoinTeam_carries h
    case HST_JoinRoom => exact JoinRoom_carries h
    case HST_GetRoomList => exact GetRoomList_carries h
    case HST_LeaveRoom => exact LeaveRoom_carries h
    case HST_GameWaite => exact GameWaite_carries h
    case HST_GameStart => exact GameStart_carries h
    all_goals
      cases h
      exact among_nil _
  · cases h
    exact among_nil _

end Hall

section Game

variable {c c' : CCache} {out : Outbox} {s : SOCKET} {req : GameMainRequest}

theorem GetEntity_writeRoleInfo (f : PlayerInfo → PlayerInfo) (t : SOCKET) :
    (c.writeRoleInfo s f).GetEntity t = (c.GetEntity t).map fun e =>
      if t = s then { e with roleInfo := f e.roleInfo } else e := by
  rw [CCache.writeRoleInfo]
  cases he : c.GetEntity s with
  | none =>
    by_cases ht : t = s
    · rw [ht, he]
      rfl
    · simp [ht]
  | some e =>
    by_cases ht : t = s
    · subst ht
      rw [he]
      simp [CCache.writeEntity, CCache.GetEntity]
    · simp [CCache.writeEntity, CCache.GetEntity, ht, Std.TreeMap.getElem?_insert, Ne.symm ht]

theorem rsync_spec {e : CClientEntity} {r : RoomInfo} (msgtype : GameMainMsgType)
    (req : GameMainRequest) (he : c.GetEntity s = some e)
    (hr : c.FindEntityRoom e.roleInfo.roomid = some r) :
    ∃ ps c', synced s req c = some ps ∧ rsync msgtype s req c = .ok (c', r.playerinfo.map fun p =>
      (p.socket, mainPacket { msgtype? := some msgtype, friendlist := ps })) := by
  have hread : ∀ p : PlayerInfo,
      ((c.writeRoleInfo s (resync req.playerinfo)).GetEntity p.socket).map (·.roleInfo) =
        (c.GetEntity p.socket).map fun f =>
          if p.socket = s then resync req.playerinfo f.roleInfo else f.roleInfo := by
    intro p
    rw [GetEntity_writeRoleInfo, Option.map_map]
    congr 1
    funext f
    rw [Function.comp_apply]
    split <;> rfl
  rw [synced, rsync, he, Option.bind_some, hr]
  simp only [hr, hread]
  exact ⟨_, _, rfl, rfl⟩

theorem rsync_carries {msgtype : GameMainMsgType} (h : rsync msgtype s req c = .ok (c', out)) :
    Carries mainPacket ((synced s req c).map fun ps =>
      { msgtype? := some msgtype, friendlist := ps }).toList out := by
  cases he : c.GetEntity s with
  | none => simp [rsync, he] at h
  | some e =>
    cases hr : c.FindEntityRoom e.roleInfo.roomid with
    | none =>
      simp only [rsync, he, hr] at h
      cases h
      exact among_nil _
    | some r =>
      obtain ⟨ps, c₁, hsynced, hrsync⟩ := rsync_spec msgtype req he hr
      rw [hrsync] at h
      cases h
      rw [hsynced]
      exact among_map PlayerInfo.socket List.mem_cons_self _

theorem GameOver_carries (h : GameOver s c = .ok (c', out)) : out = [] := by
  rw [GameOver] at h
  split at h
  · cases h
  · dsimp only at h
    split at h
    · cases h
      rfl
    · obtain ⟨c₁, -, h⟩ := of_bind_ok h
      cases h
      rfl

theorem MainLogic_carries (h : MainLogic s req c = .ok (c', out)) :
    Carries mainPacket (builtMain s req c) out := by
  rw [MainLogic] at h
  rw [builtMain]
  split at h
  · rename_i hs
    rw [if_pos hs]
    cases hm : req.msgtype <;> simp only [hm] at h ⊢
    case GMT_RsyncAttr => exact rsync_carries h
    case GMT_RsyncStatus => exact rsync_carries h
    case GMT_GameOver =>
      rw [GameOver_carries h]
      exact among_nil _
    all_goals
      cases h
      exact among_nil _
  · cases h
    exact among_nil _

end Game

section Account

variable {DB : Type} {sqlite : Sqlite DB} {db db' : DB} {c c' : CCache} {out : Outbox} {s : SOCKET}

theorem LoginLogic_carries {req : LoginRequest} {rand : List Nat}
    (h : LoginLogic sqlite s req rand db c = .ok (db', c', out)) :
    Carries loginPacket ((loggedIn sqlite req rand db).map loginReply).toList out := by
  rw [LoginLogic_eq] at h
  rw [loggedIn]
  dsimp only at h ⊢
  cases hrow : firstRow (sqlite.exec db (Query.account req.username req.password).sql).2 with
  | none =>
    simp only [hrow] at h
    cases h
    exact among_one s List.mem_cons_self
  | some row =>
    simp only [hrow] at h
    cases hsid : sessionOf req.username rand with
    | none => simp [hsid] at h
    | some sid =>
      simp only [hsid] at h
      cases h
      refine among_one s ?_
      rw [Option.map_some]
      generalize (sqlite.exec (sqlite.exec (sqlite.exec db _).1 _).1
        (Query.loginRoles req.username).sql).2 = roles
      cases roles <;> exact List.mem_cons_self

theorem CreateLogic_carries {req : CreateRoleRequest}
    (h : CreateLogic sqlite s req db c = .ok (db', c', out)) :
    Carries createPacket ((roleCreated sqlite s req db c).map createReply).toList out := by
  rw [CreateLogic_eq] at h
  rw [roleCreated]
  dsimp only at h ⊢
  by_cases hs : c.CheckSessionValid s req.sessionid = true
  · rw [if_pos hs] at h ⊢
    generalize sqlite.exec (sqlite.exec db Query.createPlayers.sql).1
      (Query.session req.sessionid).sql = x at h ⊢
    cases hrow : firstRow x.2 with
    | none =>
      simp only [hrow] at h ⊢
      cases h
      exact among_one s List.mem_cons_self
    | some row =>
      simp only [hrow] at h ⊢
      by_cases hname : req.playerinfo.name = ""
      · rw [if_pos hname] at h ⊢
        cases h
        exact among_one s List.mem_cons_self
      · rw [if_neg hname] at h ⊢
        cases htext : row.column_text 1 with
        | none => simp [htext] at h
        | some PlayerName =>
          simp only [htext, Option.map_some] at h ⊢
          generalize sqlite.exec x.1
            (Query.owned req.playerinfo.roletype PlayerName).sql = y at h ⊢
          cases howned : firstRow y.2 with
          | some _ =>
            simp only [howned] at h
            cases h
            simp only [Option.isNone_some, Bool.false_and, Bool.false_eq_true, if_false]
            exact among_one s List.mem_cons_self
          | none =>
            simp only [howned, Option.isNone_none, Bool.true_and] at h ⊢
            split at h
            · rename_i hdone
              cases h
              rw [if_pos hdone]
              refine among_one s ?_
              generalize (sqlite.exec _ (Query.roles PlayerName).sql).2 = roles
              cases roles <;> exact List.mem_cons_self
            · rename_i hdone
              cases h
              rw [if_neg hdone]
              exact among_one s List.mem_cons_self
  · rw [if_neg hs] at h ⊢
    cases h
    exact among_one s List.mem_cons_self

end Account

section Timer

variable {DB : Type} {st st' : Process DB} {c c' : CCache} {out : Outbox} {s : SOCKET}

theorem breakLine_among (h : breakLine s c = .ok out) :
    Among ((dropped s c).map fun name => mainPacket (dropReturn name)).toList out := by
  rw [breakLine] at h
  rw [dropped]
  cases he : c.GetEntity s with
  | none => simp [he] at h
  | some e =>
    simp only [he] at h
    rw [Option.bind_some]
    cases hr : c.FindEntityRoom e.roleInfo.roomid with
    | none =>
      simp only [hr] at h
      cases h
      exact among_nil _
    | some r =>
      simp only [hr] at h
      cases h
      exact among_map id List.mem_cons_self _

theorem leave_among (h : KeepAlive.LeaveRoom s c = .ok (c', out)) : Among
    ((ownLeave s c).map fun x => hallPacket (leaveReturn (leaverEntry x.1, x.2))).toList out := by
  intro y hy
  have hmem := leaveOwnRoom_carries h y hy
  cases hx : ownLeave s c with
  | none =>
    rw [hx] at hmem
    cases hmem
  | some x =>
    rw [hx] at hmem
    exact hmem

theorem countedTick_among {scene : CurScene} {e : CClientEntity}
    (h : countedTick s scene e c = .ok (c', out)) : Among
      ((if leaveBand e && (!e.isBroken && scene = .CS_WaitRoom) then
          ((ownLeave s c).map fun x => hallPacket (leaveReturn (leaverEntry x.1, x.2))).toList
        else []) ++
        (if !leaveBand e && breakBand e && (e.isBroken && scene = .CS_MainScene) then
          ((dropped s c).map fun name => mainPacket (dropReturn name)).toList
        else []) ++ (heartbeatNotice s scene).map Prod.snd) out := by
  have hnotice : Among ((heartbeatNotice s scene).map Prod.snd) (heartbeatNotice s scene) :=
    fun y hy => List.mem_map_of_mem hy
  rw [countedTick] at h
  cases hl : leaveBand e with
  | true =>
    simp only [hl, if_true] at h
    simp only [Bool.true_and, Bool.not_true, Bool.false_and, Bool.false_eq_true, if_false,
      List.append_nil]
    split at h
    · rename_i hb
      obtain ⟨⟨c₁, o⟩, hleave, h⟩ := of_bind_ok h
      cases h
      rw [if_pos hb]
      exact (leave_among hleave).append hnotice
    · cases h
      exact (among_nil _).append hnotice
  | false =>
    simp only [hl, Bool.false_eq_true, if_false] at h
    simp only [Bool.false_and, Bool.not_false, Bool.true_and, Bool.false_eq_true, if_false,
      List.nil_append]
    split at h
    · rename_i hband
      split at h
      · rename_i hb
        obtain ⟨o, hline, h⟩ := of_bind_ok h
        cases h
        rw [hband, Bool.true_and, if_pos hb]
        exact (breakLine_among hline).append hnotice
      · cases h
        exact (among_nil _).append hnotice
    · cases h
      exact (among_nil _).append hnotice

theorem TimerFunc_among {ptr : Nat} (h : TimerFunc (some ptr) st = .ok (st', out)) :
    Among (builtTick ptr st) out := by
  obtain ⟨info, hi, ⟨he, rfl, rfl⟩ | ⟨e, he, ⟨hlate, rfl, rfl⟩ | ⟨hearly, c, ht, rfl⟩⟩⟩ :=
    TimerFunc_spec h
  · exact among_nil _
  · exact among_nil _
  · simp only [builtTick, hi, he, if_neg hearly]
    exact countedTick_among ht

end Timer

section Steps

variable {DB : Type} {sqlite : Sqlite DB} {st st' : Process DB} {out : Outbox} {a : Action}

theorem map_toList {α β γ : Type} {f : α → β} {g : β → γ} {w : α → γ} (h : ∀ x, g (f x) = w x)
    (o : Option α) : (o.map f).toList.map g = (o.map w).toList := by
  cases o with
  | none => rfl
  | some x => simp [h]

theorem ProcessMsgLogic_among {s : SOCKET} {m : UnPacket} {rand : List Nat}
    (hr : m.curscene ≠ .CS_Register) (hs : m.curscene ≠ .CS_SelectRole)
    (h : ProcessMsgLogic sqlite s m rand st = .ok (st', out)) :
    Among (builtScene s sqlite m rand st) out := by
  rw [ProcessMsgLogic] at h
  rw [builtScene]
  cases hm : m.curscene <;> simp only [hm] at h ⊢
  case CS_KeepAlive =>
    rw [Start] at h
    split at h
    · cases h
      exact among_nil _
    · obtain ⟨st₁, -, h⟩ := of_bind_ok h
      dsimp only at h
      split at h
      · cases h
        exact among_nil _
      · cases h
        exact among_nil _
  case CS_Login =>
    obtain ⟨x, hx, h⟩ := of_bind_ok h
    cases h
    have hc := LoginLogic_carries hx
    rw [Carries, map_toList fun _ => rfl] at hc
    exact hc
  case CS_CreateRole =>
    obtain ⟨x, hx, h⟩ := of_bind_ok h
    cases h
    have hc := CreateLogic_carries hx
    rw [Carries, map_toList fun _ => rfl] at hc
    exact hc
  case CS_Register => exact absurd hm hr
  case CS_SelectRole => exact absurd hm hs
  case CS_WaitRoom =>
    obtain ⟨x, hx, h⟩ := of_bind_ok h
    cases h
    exact hallLogic_carries hx
  case CS_MainScene =>
    obtain ⟨x, hx, h⟩ := of_bind_ok h
    cases h
    exact MainLogic_carries hx
  all_goals
    cases h
    exact among_nil _

theorem RegisterLogic_packets {s : SOCKET} {req : RegisterRequest} {db db' : DB} {c c' : CCache}
    (h : RegisterLogic sqlite s req db c = .ok (db', c', out)) :
    ∀ y ∈ out, ∃ t, y.2 = registerPacket t := by
  rw [RegisterLogic_eq] at h
  dsimp only at h
  split at h
  · cases h
    exact fun y hy => ⟨_, congrArg Prod.snd (List.mem_singleton.mp hy)⟩
  · cases h
    exact fun y hy => ⟨_, congrArg Prod.snd (List.mem_singleton.mp hy)⟩

theorem SelectLogic_packets {s : SOCKET} {req : SelectRoleRequest} {db db' : DB} {c c' : CCache}
    (h : SelectLogic sqlite s req db c = .ok (db', c', out)) : ∀ y ∈ out, ∃ r,
      y.2 = selectPacket r ∧ c.CheckSessionValid s req.sessionid = true ∧ r.userid?.isSome =
        (firstRow (sqlite.exec db (Query.role req.sessionid req.roletype).sql).2).isSome := by
  rw [SelectLogic_eq] at h
  split at h
  · rename_i hs
    dsimp only at h
    split at h
    · rename_i hrow
      cases h
      rw [hrow]
      exact fun y hy => ⟨_, congrArg Prod.snd (List.mem_singleton.mp hy), hs, rfl⟩
    · rename_i row hrow
      split at h
      · cases h
      · cases h
        rw [hrow]
        exact fun y hy => ⟨_, congrArg Prod.snd (List.mem_singleton.mp hy), hs, rfl⟩
  · cases h
    intro y hy
    cases hy

theorem handled_read {s : SOCKET} {m : UnPacket} {rand : List Nat}
    (h : (readable s st && (st.cache.GetEntity s).isSome) = true) :
    handled sqlite st (.packet s m rand) = ProcessMsgLogic sqlite s m rand st := by
  obtain ⟨hread, he⟩ := Bool.and_eq_true_iff.mp h
  obtain ⟨e, he⟩ := Option.isSome_iff_exists.mp he
  rw [handled, receive, if_pos hread, he]

theorem handled_unread {s : SOCKET} {m : UnPacket} {rand : List Nat}
    (h : ¬(readable s st && (st.cache.GetEntity s).isSome) = true) :
    handled sqlite st (.packet s m rand) = .ok (st, []) := by
  rw [handled, receive]
  split
  · rename_i hread
    rw [hread, Bool.true_and] at h
    rw [Option.not_isSome_iff_eq_none.mp h]
  · rfl

theorem handled_packet {s : SOCKET} {m : UnPacket} {rand : List Nat} {y : SOCKET × Packet}
    (h : handled sqlite st (.packet s m rand) = .ok (st', out)) (hy : y ∈ out) :
    (readable s st && (st.cache.GetEntity s).isSome) = true ∧
      ProcessMsgLogic sqlite s m rand st = .ok (st', out) := by
  by_cases hread : (readable s st && (st.cache.GetEntity s).isSome) = true
  · rw [handled_read hread] at h
    exact ⟨hread, h⟩
  · rw [handled_unread hread] at h
    cases h
    cases hy

/-- What is sent was copied, or it is a reply to a registration or to the choice of a role. -/
theorem handled_copied (h : handled sqlite st a = .ok (st', out)) : ∀ y ∈ out,
    y.2 ∈ built sqlite st a ∨ (∃ t, y.2 = registerPacket t) ∨
      ∃ s m rand r, a = .packet s m rand ∧ m.curscene = .CS_SelectRole ∧ y.2 = selectPacket r ∧
        readable s st = true ∧ (st.cache.GetEntity s).isSome = true ∧
        st.cache.CheckSessionValid s m.selectrolerequest.sessionid = true ∧
        r.userid?.isSome = (firstRow (sqlite.exec st.db (Query.role
          m.selectrolerequest.sessionid m.selectrolerequest.roletype).sql).2).isSome := by
  intro y hy
  cases a with
  | accept s junk =>
    obtain ⟨st₁, -, h⟩ := of_map_ok h
    cases h
    cases hy
  | close s =>
    simp only [handled, step] at h
    split at h <;> cases h <;> cases hy
  | packet s m rand =>
    obtain ⟨hread, h⟩ := handled_packet h hy
    rw [built, if_pos hread]
    by_cases hr : m.curscene = .CS_Register
    · simp only [ProcessMsgLogic, hr] at h
      split at h
      · cases h
        cases hy
      · obtain ⟨x, hx, h⟩ := of_bind_ok h
        cases h
        exact .inr (.inl (RegisterLogic_packets hx y hy))
    · by_cases hs : m.curscene = .CS_SelectRole
      · simp only [ProcessMsgLogic, hs] at h
        obtain ⟨x, hx, h⟩ := of_bind_ok h
        cases h
        obtain ⟨r, hpacket, hvalid, huser⟩ := SelectLogic_packets hx y hy
        obtain ⟨hread, he⟩ := Bool.and_eq_true_iff.mp hread
        exact .inr (.inr ⟨s, m, rand, r, rfl, hs, hpacket, hread, he, hvalid, huser⟩)
      · exact .inl (ProcessMsgLogic_among hr hs h y hy)
  | poll j now =>
    rw [handled] at h
    have hspec := poll_spec h
    cases hd : dueArg j now st with
    | none =>
      simp only [hd] at hspec
      rw [hspec.2] at hy
      cases hy
    | some ptr =>
      simp only [hd] at hspec
      obtain ⟨st₁, ht, -⟩ := hspec
      refine .inl ?_
      rw [built, hd, Option.toList_some, List.flatMap_singleton]
      exact TimerFunc_among ht y hy

end Steps

end JiraGame.SentPackets
