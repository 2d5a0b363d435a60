import JiraGame.NullSafety
import JiraGame.ReplySizes
import JiraGame.RoomId
import JiraGame.SeatElimination

namespace JiraGame.BufferBounds

open JiraGame.Scene JiraGame.Command JiraGame.DBServer JiraGame.Utilitys JiraGame.Cache
open JiraGame.HallScene JiraGame.MainScene JiraGame.AccountScenes JiraGame.ServerState
open JiraGame.KeepAlive JiraGame.Server JiraGame.Refinement JiraGame.Runs JiraGame.RoomId
open JiraGame.SeatElimination JiraGame.NullSafety JiraGame.Replies JiraGame.ReplySizes
open JiraGame.AccountStatements hiding text
open JiraGame.Encoding

variable {DB : Type}

section Bounds

variable (s : SOCKET)

/-- Some six outputs of `rand()` are an id that no room has. -/
def Draws (c : CCache) (rand : List Nat) : Prop :=
  ∃ k, 6 * k + 6 ≤ rand.length ∧ c.CheckEntityRoomIsOnly (draw (rand.drop (6 * k))) = true

/-- The room name is repeated, with the id and the creator's entry. -/
def CreateRoomFits (req : HallRequest) (rand : List Nat) (c : CCache) : Prop :=
  ∀ e, c.GetEntity s = some e → e.roleInfo.roomid = 0 → 0 < req.roomname.length → Draws c rand →
    text req.roomname + number (if c.CheckEntityRoomIsOnly (draw rand) then draw rand else 0) + flag +
      framed (number e.roleInfo.roleid + text e.roleInfo.name + number e.roleInfo.roletype +
        2 * flag) ≤ 8187

def OnlineFriendFits (req : HallRequest) (c : CCache) : Prop :=
  flag + ((c.GetEntitys.filter fun x => !x.2.isBroken && x.2.roleInfo.roleid ≠ req.userid).map
    fun x => onlineSize x.2.roleInfo).sum ≤ 8187

def RequestTeamFits (i : InviteInfo) (c : CCache) : Prop :=
  ∀ e, c.GetEntity s = some e →
    flag + framed (i.roomid?.elim 0 number + i.requserid?.elim 0 number + text e.roleInfo.name +
      i.revuserid?.elim 0 number + (i.team?.elim 0 fun _ => flag) + i.teamid?.elim 0 number +
      (Lib.ProtoWire.writeFields i.unknown).length) ≤ 8187

def JoinTeamFits (i : InviteInfo) (c : CCache) : Prop :=
  ∀ r e, c.FindEntityRoom i.roomid = some r → c.GetEntity s = some e →
    (∀ p ∈ r.playerinfo, p.seat ≠ (i.team, i.teamid)) →
    flag + number r.roomid + text r.roomname + (r.playerinfo.map friendSize).sum +
      framed (handle s + number e.roleInfo.roleid + text e.roleInfo.name +
        number e.roleInfo.roletype + number i.teamid + 3 * flag) ≤ 8187

/-- The first member with another role id, behind an entry of the leaver that has the
owner flag. -/
def heirBehind (roleid : Int) (ps : List PlayerInfo) : Option PlayerInfo :=
  (ps.dropWhile fun p => !(p.roleid = roleid && p.isroomctl)).find? fun q => q.roleid ≠ roleid

/-- A member leaves with its whole entry; the new member is the last of the roster. -/
structure JoinRoomFits (i : InviteInfo) (c : CCache) : Prop where
  leave : ∀ r e p, c.FindEntityRoom i.roomid = some r → c.GetEntity s = some e →
    (r.playerinfo.find? fun q => q.roleid = e.roleInfo.roleid) = some p → lastLeaves r = false →
    flag + framed (infoSize p) + (heirBehind e.roleInfo.roleid r.playerinfo).elim 0 heirSize ≤ 8187
  join : ∀ r e, c.FindEntityRoom i.roomid = some r → c.GetEntity s = some e →
    (∀ p ∈ r.playerinfo, p.roleid ≠ e.roleInfo.roleid) →
    (∃ q ∈ grid, q ∉ r.playerinfo.map place) →
    flag + number r.roomid + text r.roomname + (r.playerinfo.map fun p => framed (infoSize p)).sum +
      framed (handle s + number e.roleInfo.roleid + text e.roleInfo.name +
        number e.roleInfo.roletype + number r.roomid + 4 * flag) ≤ 8187

def GetRoomListFits (c : CCache) : Prop :=
  (∀ x ∈ c.GetEntityRooms, x.2.playerinfo ≠ []) →
    flag + framed (c.GetEntityRooms.map roomSize).sum ≤ 8187

/-- Only with a new owner may the notice of a leave get long. -/
def LeaveRoomFits (c : CCache) : Prop :=
  ∀ e r q, c.GetEntity s = some e → c.FindEntityRoom e.roleInfo.roomid = some r →
    lastLeaves r = false → e.roleInfo.isroomctl = true →
    (r.playerinfo.find? fun p => p.roleid ≠ e.roleInfo.roleid) = some q →
    (c.GetEntity q.socket).isSome = true →
    flag + framed (number e.roleInfo.roleid + number e.roleInfo.teamid + 2 * flag) +
      heirSize q ≤ 8187

def GameStartFits (c : CCache) : Prop :=
  ∀ e r, c.GetEntity s = some e → c.FindEntityRoom e.roleInfo.roomid = some r →
    (∀ p ∈ r.playerinfo, p.roleid ≠ e.roleInfo.roleid →
      (c.GetEntity p.socket).any fun f => f.roleInfo.gamewaite) →
    flag + (r.playerinfo.map fun p => framed (infoSize p)).sum ≤ 8187

/-- The flag that `GameWaite` sets takes few bytes. -/
def HallFits (req : HallRequest) (rand : List Nat) (c : CCache) : Prop :=
  c.CheckSessionValid s req.sessionid = true →
    match req.msgtype with
    | .HST_CreateRoom => CreateRoomFits s req rand c
    | .HST_OnlineFriend => OnlineFriendFits req c
    | .HST_RequestTeam => RequestTeamFits s req.inviteinfo c
    | .HST_JoinTeam => JoinTeamFits s req.inviteinfo c
    | .HST_JoinRoom => JoinRoomFits s req.inviteinfo c
    | .HST_GetRoomList => GetRoomListFits c
    | .HST_LeaveRoom => LeaveRoomFits s c
    | .HST_GameStart => GameStartFits s c
    | _ => True

/-- The role info that `friendlist` shows of a member: the client's own keeps three
fields and takes all others from the request. -/
def syncedSize (payload : PlayerInfo) (p : PlayerInfo) (f : CClientEntity) : Nat :=
  framed (if p.socket = s then
    handle f.roleInfo.socket + number f.roleInfo.roleid + number f.roleInfo.roomid + attrSize payload
  else infoSize f.roleInfo)

def RsyncFits (payload : PlayerInfo) (c : CCache) : Prop :=
  ∀ e r, c.GetEntity s = some e → c.FindEntityRoom e.roleInfo.roomid = some r →
    flag + (r.playerinfo.map fun p => (c.GetEntity p.socket).elim 0 (syncedSize s payload p)).sum
      ≤ 8187

def MainFits (req : GameMainRequest) (c : CCache) : Prop :=
  c.CheckSessionValid s req.sessionid = true →
    match req.msgtype with
    | .GMT_RsyncAttr | .GMT_RsyncStatus => RsyncFits s req.playerinfo c
    | _ => True

def answered (sqlite : Sqlite DB) (db : DB) (sql : Sql) : List Row :=
  ((sqlite.exec db sql).2.map SqlResult.rows).getD []

/-- The session id and the roles of an account that the database knows. -/
def LoginFits (sqlite : Sqlite DB) (req : LoginRequest) (rand : List Nat) (db : DB) : Prop :=
  let x := sqlite.exec db (Query.account req.username req.password).sql
  let sid := req.username ++ "_" ++ GenrateRandomID (rand.take 6)
  let y := sqlite.exec x.1 (Query.setSession req.username sid).sql
  (firstRow x.2).isSome = true → 6 ≤ rand.length →
    flag + text sid + ((answered sqlite y.1 (Query.loginRoles req.username).sql).map
      (roleSize true)).sum ≤ 8187

/-- The roles of the account, with the one that is inserted. -/
def CreateRoleFits (sqlite : Sqlite DB) (req : CreateRoleRequest) (db : DB) (c : CCache) : Prop :=
  let w := sqlite.exec db Query.createPlayers.sql
  let x := sqlite.exec w.1 (Query.session req.sessionid).sql
  c.CheckSessionValid s req.sessionid = true → req.playerinfo.name ≠ "" →
    ∀ row PlayerName, firstRow x.2 = some row → row.column_text 1 = some PlayerName →
      let y := sqlite.exec x.1 (Query.owned req.playerinfo.roletype PlayerName).sql
      let z := sqlite.exec y.1
        (Query.insertRole (row.column_int 0) req.playerinfo.roletype req.playerinfo.name).sql
      firstRow y.2 = none → (z.2.map SqlResult.done).getD false = true →
        flag + ((answered sqlite z.1 (Query.roles PlayerName).sql).map (roleSize false)).sum ≤ 8187

def SceneFits (sqlite : Sqlite DB) (m : UnPacket) (rand : List Nat) (st : Process DB) : Prop :=
  match m.curscene with
  | .CS_Login => LoginFits sqlite m.loginrequest rand st.db
  | .CS_CreateRole => CreateRoleFits s sqlite m.createrolerequest st.db st.cache
  | .CS_WaitRoom => HallFits s m.hallrequest rand st.cache
  | .CS_MainScene => MainFits s m.gamemainrequest st.cache
  | _ => True

/-- The leave of a silent client in the hall, and the notice of one in the game. -/
structure TickFits (info : CKeepAliveInfo) (c : CCache) : Prop where
  leave : ∀ e, c.GetEntity info.clientSocket = some e → leaveBand e = true → e.isBroken = false →
    info.RecMessage.keepalive.curscene = .CS_WaitRoom → LeaveRoomFits info.clientSocket c
  breakLine : ∀ e r, c.GetEntity info.clientSocket = some e → breakBand e = true →
    e.isBroken = true → info.RecMessage.keepalive.curscene = .CS_MainScene →
    c.FindEntityRoom e.roleInfo.roomid = some r → flag + framed (text e.roleInfo.name) ≤ 8187

/-- What a step sends fits, as sums over the request and over what is stored. -/
def Within (sqlite : Sqlite DB) (st : Process DB) : Action → Prop
  | .packet s m rand =>
    readable s st = true → (st.cache.GetEntity s).isSome = true → SceneFits s sqlite m rand st
  | .poll j now => ∀ ptr info, dueArg j now st = some ptr → st.infos[ptr]? = some info →
      TickFits info st.cache
  | _ => True

end Bounds

section Hall

variable {s : SOCKET} {req : HallRequest} {rand : List Nat} {c : CCache}

theorem forall_mem_map {α β : Type} {f : α → β} {P : β → Prop} {o : Option α} :
    (∀ x ∈ (o.map f).toList, P x) ↔ ∀ y, o = some y → P (f y) := by
  cases o <;> simp

/-- The outputs suffice when some six of them are a free id. -/
theorem isSome_GenrateOnlyRoomID : (GenrateOnlyRoomID c rand).isSome = true ↔ Draws c rand := by
  induction rand using GenrateOnlyRoomID.induct c with
  | case1 r₁ r₂ r₃ r₄ r₅ r₆ rest _id hfresh =>
    rw [GenrateOnlyRoomID, if_pos hfresh]
    exact iff_of_true rfl ⟨0, by simp only [List.length_cons]; omega, hfresh⟩
  | case2 r₁ r₂ r₃ r₄ r₅ r₆ rest _id hused ih =>
    rw [GenrateOnlyRoomID, if_neg hused, Option.isSome_map, ih]
    constructor
    · rintro ⟨k, hk, hfree⟩
      exact ⟨k + 1, by simp only [List.length_cons]; omega, hfree⟩
    · rintro ⟨k, hk, hfree⟩
      cases k with
      | zero => exact absurd hfree hused
      | succ k => exact ⟨k, by simp only [List.length_cons] at hk; omega, hfree⟩
  | case3 rand hshort =>
    have hlength : rand.length < 6 := by
      by_contra hlong
      obtain _ | ⟨r₁, _ | ⟨r₂, _ | ⟨r₃, _ | ⟨r₄, _ | ⟨r₅, _ | ⟨r₆, rest⟩⟩⟩⟩⟩⟩ := rand
      · simp at hlong
      · simp at hlong
      · simp at hlong
      · simp at hlong
      · simp at hlong
      · simp at hlong
      · exact hshort r₁ r₂ r₃ r₄ r₅ r₆ rest rfl
    refine iff_of_false ?_ ?_
    · unfold GenrateOnlyRoomID
      split
      · exact (hshort _ _ _ _ _ _ _ rfl).elim
      · decide
    · rintro ⟨k, hk, -⟩
      omega

theorem createRoom_fits_iff : (∀ x, created s req rand c = some x →
    hallReturn.size (createReturn req.roomname x) ≤ 8187) ↔ CreateRoomFits s req rand c := by
  simp only [size_createReturn]
  constructor
  · intro h e he hroom hname hdraws
    obtain ⟨⟨id, rest⟩, hid⟩ :=
      Option.isSome_iff_exists.mp (isSome_GenrateOnlyRoomID.mpr hdraws)
    have hcreated : created s req rand c = some (id, e.roleInfo) := by
      rw [created, if_neg (by omega), he, Option.bind_some, if_neg (by simp [hroom]), hid,
        Option.map_some]
    rw [← (GenrateOnlyRoomID_spec hid).2]
    exact h _ hcreated
  · intro h x hx
    rw [created] at hx
    split at hx
    · cases hx
    · rename_i hname
      obtain ⟨e, he, hx⟩ := Option.bind_eq_some_iff.mp hx
      split at hx
      · cases hx
      · rename_i hroom
        obtain ⟨⟨id, rest⟩, hid, rfl⟩ := Option.map_eq_some_iff.mp hx
        have hdraws : Draws c rand := isSome_GenrateOnlyRoomID.mp (by rw [hid]; rfl)
        have hle := h e he (not_not.mp hroom) (by omega) hdraws
        rwa [← (GenrateOnlyRoomID_spec hid).2] at hle

theorem onlineFriend_fits_iff :
    hallReturn.size { msgtype? := some .HST_OnlineFriend, friendlist := (online req c).map onlineEntry }
      ≤ 8187 ↔ OnlineFriendFits req c := by
  have hentry : (fun q => framed (infoSize q)) ∘ onlineEntry = onlineSize := by
    funext p
    rw [Function.comp_apply, size_onlineEntry, onlineSize]
  rw [size_hallReturn, OnlineFriendFits, online]
  simp only [Option.elim_none, Option.elim_some, records, List.map_map, ← Function.comp_assoc, hentry,
    Nat.zero_add, Nat.add_zero]
  rfl

theorem requestTeam_fits_iff : (∀ e, c.GetEntity s = some e →
    hallReturn.size { inviteinfo? := some { req.inviteinfo with requsername? := some e.roleInfo.name }
                      msgtype? := some .HST_RequestTeam } ≤ 8187) ↔
      RequestTeamFits s req.inviteinfo c := by
  refine forall₂_congr fun e _ => ?_
  rw [size_hallReturn]
  simp [records, inviteSize]

theorem joinTeam_fits_iff : (∀ x, seated s req c = some x →
    hallReturn.size (seatReturn s req x) ≤ 8187) ↔ JoinTeamFits s req.inviteinfo c := by
  constructor
  · intro h r e hr he hfree
    have hseat : ¬(r.playerinfo.any fun p => p.seat = (req.inviteinfo.team, req.inviteinfo.teamid)) := by
      simpa using hfree
    have hx : seated s req c = some (r, some e.roleInfo) := by
      rw [seated, hr, Option.bind_some, if_neg hseat, he, Option.map_some]
    have hle := h _ hx
    rwa [size_seatReturn] at hle
  · intro h x hx
    obtain ⟨r, hr, hx⟩ := Option.bind_eq_some_iff.mp hx
    split at hx
    · cases hx
      rw [seatReturn, size_hallReturn]
      simp [records]
    · rename_i hseat
      obtain ⟨e, he, rfl⟩ := Option.map_eq_some_iff.mp hx
      rw [size_seatReturn]
      exact h r e hr he (by simpa using hseat)

theorem copyOthers_crowned (roleid : Int) (ps : List PlayerInfo) :
    (copyOthers roleid true true false ps).2 =
      (ps.find? fun q => q.roleid ≠ roleid).map (·.set_isroomctl true) := by
  induction ps with
  | nil => rfl
  | cons p ps ih =>
    by_cases hp : p.roleid = roleid
    · rw [copyOthers, if_pos hp, Bool.true_or, ih]
      simp [hp]
    · rw [copyOthers, if_neg hp, if_pos (by decide)]
      simp [hp]

theorem copyOthers_behind (roleid : Int) (ps : List PlayerInfo) :
    (copyOthers roleid true false false ps).2 =
      (heirBehind roleid ps).map (·.set_isroomctl true) := by
  induction ps with
  | nil => rfl
  | cons p ps ih =>
    rw [heirBehind] at ih ⊢
    by_cases hp : p.roleid = roleid
    · cases hctl : p.isroomctl with
      | true =>
        rw [copyOthers, if_pos hp, hctl, Bool.and_self, Bool.or_true, copyOthers_crowned]
        simp [hp, hctl]
      | false =>
        rw [copyOthers, if_pos hp, hctl, Bool.and_false, Bool.or_false, ih]
        simp [hctl]
    · rw [copyOthers, if_neg hp, if_neg (by decide)]
      simpa [hp] using ih

theorem records_heir (q : Option PlayerInfo) :
    records (q.map (·.set_isroomctl true)).toList = q.elim 0 heirSize := by
  cases q <;> simp [records, size_crowned]

theorem namedLeave_fits_iff : (∀ x, namedLeave s req c = some x →
    hallReturn.size (leaveReturn x) ≤ 8187) ↔
    ∀ r e p, c.FindEntityRoom req.inviteinfo.roomid = some r → c.GetEntity s = some e →
      (r.playerinfo.find? fun q => q.roleid = e.roleInfo.roleid) = some p → lastLeaves r = false →
      flag + framed (infoSize p) + (heirBehind e.roleInfo.roleid r.playerinfo).elim 0 heirSize
        ≤ 8187 := by
  have hsize : ∀ (p : PlayerInfo) (q : Option PlayerInfo),
      hallReturn.size (leaveReturn (p, q.map (·.set_isroomctl true))) =
        flag + framed (infoSize p) + q.elim 0 heirSize := by
    intro p q
    rw [size_leaveReturn, ← records_heir]
    simp only [records, List.map_cons, List.sum_cons, Nat.add_assoc]
  constructor
  · intro h r e p hr he hp hlast
    rw [← hsize, ← copyOthers_behind]
    refine h _ ?_
    rw [namedLeave, hr, Option.bind_some, he, Option.bind_some, hp, Option.bind_some, if_neg (by simp [hlast])]
  · intro h x hx
    obtain ⟨r, hr, hx⟩ := Option.bind_eq_some_iff.mp hx
    obtain ⟨e, he, hx⟩ := Option.bind_eq_some_iff.mp hx
    obtain ⟨p, hp, hx⟩ := Option.bind_eq_some_iff.mp hx
    split at hx
    · cases hx
    · rename_i hlast
      cases hx
      rw [copyOthers_behind, hsize]
      exact h r e p hr he hp (by simpa using hlast)

theorem first_seat {ps : List PlayerInfo} {t pos : Int} {js : List Int} {more : List (Int × List Int)}
    (h : HallScene.IdleTeam_ID ps = some ((t, pos :: js) :: more)) :
    pos ∈ [0, 1, 2] ∧ ∃ q ∈ grid, q ∉ ps.map place := by
  rw [SeatGrid.IdleTeam_ID_eq, idleSeats_eq] at h
  have hidle := Option.some.inj h
  have hmem : (t, pos :: js) ∈ idlePlaces (ps.map place) := by
    rw [hidle]
    exact List.mem_cons_self
  obtain ⟨-, -, hjs⟩ := mem_idlePlaces.mp hmem
  refine ⟨(List.mem_filter.mp (hjs ▸ List.mem_cons_self)).1, ?_⟩
  by_contra hfull
  push Not at hfull
  rw [idlePlaces_eq_nil_iff.mpr hfull] at hidle
  cases hidle

theorem exists_first_seat {ps : List PlayerInfo} (h : ∃ q ∈ grid, q ∉ ps.map place) :
    ∃ t pos js more, HallScene.IdleTeam_ID ps = some ((t, pos :: js) :: more) := by
  obtain ⟨q, hq, hfree⟩ := h
  rw [SeatGrid.IdleTeam_ID_eq]
  cases hidle : SeatGrid.idleSeats ps with
  | nil =>
    rw [idleSeats_eq, idlePlaces_eq_nil_iff] at hidle
    exact absurd (hidle q hq) hfree
  | cons x more =>
    obtain ⟨t, js⟩ := x
    cases js with
    | nil => exact absurd hidle (SeatGrid.idleSeats_cons_ne ps t more)
    | cons pos js => exact ⟨t, pos, js, more, rfl⟩

theorem number_seat {pos : Int} (h : pos ∈ [0, 1, 2]) : number pos = flag := by
  simp only [List.mem_cons, List.not_mem_nil, or_false] at h
  rcases h with rfl | rfl | rfl <;> decide

theorem size_newMember (p : PlayerInfo) (team : TeamType) {pos : Int} (h : number pos = flag)
    (roomid : Int) : infoSize ((memberEntry s p team pos).set_roomid roomid) = handle s +
      number p.roleid + text p.name + number p.roletype + number roomid + 4 * flag := by
  have hentry := size_memberEntry (s := s) p team pos
  have hset : infoSize ((memberEntry s p team pos).set_roomid roomid) =
      infoSize (memberEntry s p team pos) + number roomid := by
    rw [infoSize, infoSize, attrSize, attrSize]
    simp [memberEntry, PlayerInfo.set_roomid, PlayerInfo.set_isroomctl, PlayerInfo.set_socket,
      PlayerInfo.set_roleid, PlayerInfo.set_name, PlayerInfo.set_roletype, PlayerInfo.set_roomstate,
      PlayerInfo.set_team, PlayerInfo.set_teamid]
    omega
  rw [hset, hentry, h]
  omega

theorem named_fits_iff : (∀ x, named s req c = some x → hallReturn.size (joinReturn x) ≤ 8187) ↔
    ∀ r e, c.FindEntityRoom req.inviteinfo.roomid = some r → c.GetEntity s = some e →
      (∀ p ∈ r.playerinfo, p.roleid ≠ e.roleInfo.roleid) →
      (∃ q ∈ grid, q ∉ r.playerinfo.map place) →
      flag + number r.roomid + text r.roomname +
        (r.playerinfo.map fun p => framed (infoSize p)).sum +
        framed (handle s + number e.roleInfo.roleid + text e.roleInfo.name +
          number e.roleInfo.roletype + number r.roomid + 4 * flag) ≤ 8187 := by
  have hsize : ∀ (r : RoomInfo) (p : PlayerInfo), hallReturn.size (joinReturn (r, p)) =
      flag + number r.roomid + text r.roomname +
        (r.playerinfo.map fun p => framed (infoSize p)).sum + framed (infoSize p) := by
    intro r p
    rw [size_joinReturn, records]
    simp only [List.map_append, List.map_singleton, List.sum_append, List.sum_singleton]
    omega
  constructor
  · intro h r e hr he hnew hfree
    have hno : ¬(r.playerinfo.any fun p => p.roleid = e.roleInfo.roleid) := by
      simpa using hnew
    obtain ⟨t, pos, js, more, hidle⟩ := exists_first_seat hfree
    have hle := h (r, (memberEntry s e.roleInfo (teamOfKey t) pos).set_roomid r.roomid) (by
      rw [named, hr, Option.bind_some, he, Option.bind_some, if_neg hno, hidle]
      rfl)
    rwa [hsize, size_newMember _ _ (number_seat (first_seat hidle).1)] at hle
  · intro h x hx
    obtain ⟨r, hr, hx⟩ := Option.bind_eq_some_iff.mp hx
    obtain ⟨e, he, hx⟩ := Option.bind_eq_some_iff.mp hx
    split at hx
    · cases hx
    · rename_i hnew
      obtain ⟨idle, hidle, hx⟩ := Option.bind_eq_some_iff.mp hx
      split at hx
      · cases hx
        obtain ⟨hpos, hfree⟩ := first_seat hidle
        rw [hsize, size_newMember _ _ (number_seat hpos)]
        exact h r e hr he (by simpa using hnew) hfree
      · cases hx

theorem joinRoom_fits_iff : (∀ m ∈ ((namedLeave s req c).map leaveReturn).toList ++
      ((named s req c).map joinReturn).toList, hallReturn.size m ≤ 8187) ↔
    JoinRoomFits s req.inviteinfo c := by
  rw [List.forall_mem_append, forall_mem_map, forall_mem_map, namedLeave_fits_iff, named_fits_iff]
  exact ⟨fun h => ⟨h.1, h.2⟩, fun h => ⟨h.leave, h.join⟩⟩

def stateOf (x : Int × RoomInfo) : Option (Int × RoomInfo × PlayerInfo) :=
  x.2.playerinfo.head?.map fun p => (x.1, x.2, p)

theorem isSome_mapM_stateOf (l : List (Int × RoomInfo)) :
    (l.mapM stateOf).isSome = true ↔ ∀ x ∈ l, x.2.playerinfo ≠ [] := by
  induction l with
  | nil => exact iff_of_true rfl fun _ hx => by cases hx
  | cons x l ih =>
    rw [List.mapM_cons, List.forall_mem_cons, ← ih, stateOf]
    cases x.2.playerinfo with
    | nil => exact iff_of_false Bool.false_ne_true fun h => h.1 rfl
    | cons p ps =>
      cases l.mapM stateOf with
      | none => exact iff_of_false Bool.false_ne_true fun h => Bool.false_ne_true h.2
      | some ys => exact iff_of_true rfl ⟨List.cons_ne_nil p ps, rfl⟩

theorem map_of_mapM_stateOf {l : List (Int × RoomInfo)} {xs : List (Int × RoomInfo × PlayerInfo)}
    (h : l.mapM stateOf = some xs) : xs.map (fun y => (y.1, y.2.1)) = l := by
  induction l generalizing xs with
  | nil =>
    cases h
    rfl
  | cons x l ih =>
    rw [List.mapM_cons] at h
    obtain ⟨y, hy, h⟩ := Option.bind_eq_some_iff.mp h
    obtain ⟨ys, hys, h⟩ := Option.bind_eq_some_iff.mp h
    obtain ⟨p, -, rfl⟩ := Option.map_eq_some_iff.mp hy
    cases h
    rw [List.map_cons, ih hys]

theorem getRoomList_fits_iff : (∀ xs, rooms c = some xs → hallReturn.size
      { msgtype? := some .HST_GetRoomList, hallinfo? := some ⟨xs.map roomEntry⟩ } ≤ 8187) ↔
    GetRoomListFits c := by
  have hsize : ∀ xs, rooms c = some xs → hallReturn.size
      { msgtype? := some .HST_GetRoomList, hallinfo? := some ⟨xs.map roomEntry⟩ } =
        flag + framed (c.GetEntityRooms.map roomSize).sum := by
    intro xs hxs
    have hroom : (fun r => framed (roomInfo.size r)) ∘ roomEntry =
        roomSize ∘ fun y => (y.1, y.2.1) := funext size_roomEntry
    rw [size_hallReturn, ← map_of_mapM_stateOf hxs, List.map_map, ← hroom]
    simp [size_hallInfo, records]
    omega
  constructor
  · intro h hall
    obtain ⟨xs, hxs⟩ := Option.isSome_iff_exists.mp ((isSome_mapM_stateOf _).mpr hall)
    rw [← hsize xs hxs]
    exact h xs hxs
  · intro h xs hxs
    rw [hsize xs hxs]
    exact h ((isSome_mapM_stateOf _).mp (Option.isSome_iff_exists.mpr ⟨xs, hxs⟩))

theorem short_leave (i j : Int) : flag + framed (number i + number j + 2 * flag) ≤ 8187 := by
  have hi := number_le i
  have hj := number_le j
  rw [flag, framed_short (by omega)]
  omega

theorem ownLeave_fits_iff : (∀ x, ownLeave s c = some x →
    hallReturn.size (leaveReturn (leaverEntry x.1, x.2)) ≤ 8187) ↔ LeaveRoomFits s c := by
  simp only [size_ownLeave]
  constructor
  · intro h e r q he hr hlast hctl hq hsome
    have howner : (copyOthers e.roleInfo.roleid false e.roleInfo.isroomctl false r.playerinfo).2 =
        some (q.set_isroomctl true) := by
      rw [copyOthers_owner, if_pos hctl, hq, Option.map_some]
    have hle := h (e.roleInfo, some (q.set_isroomctl true)) (by
      rw [ownLeave, he, Option.bind_some, hr, Option.bind_some, if_neg (by simp [hlast])]
      dsimp only
      rw [howner]
      exact if_pos hsome)
    simpa [records, size_crowned] using hle
  · intro h x hx
    obtain ⟨e, he, hx⟩ := Option.bind_eq_some_iff.mp hx
    obtain ⟨r, hr, hx⟩ := Option.bind_eq_some_iff.mp hx
    split at hx
    · cases hx
    · rename_i hlast
      dsimp only at hx
      split at hx
      · rename_i hall
        cases hx
        rw [copyOthers_owner] at hall ⊢
        split
        · rename_i hctl
          rw [if_pos hctl] at hall
          cases hq : r.playerinfo.find? fun q => q.roleid ≠ e.roleInfo.roleid with
          | none => exact short_leave e.roleInfo.roleid e.roleInfo.teamid
          | some q =>
            rw [hq] at hall
            have hle := h e r q he hr (by simpa using hlast) hctl hq hall
            simpa [records, size_crowned] using hle
        · exact short_leave e.roleInfo.roleid e.roleInfo.teamid
      · cases hx

theorem gameWaite_fits (x : Bool × Option PlayerInfo) : hallReturn.size
    { msgtype? := some .HST_GameWaite, friendlist := [waiteEntry x] } ≤ 8187 := by
  have hshort : infoSize (waiteEntry x) ≤ 17 := by
    rw [size_waiteEntry, flag]
    cases x.2 with
    | none => decide
    | some p =>
      have hle := number_le p.teamid
      rw [Option.elim_some]
      omega
  rw [size_hallReturn]
  simp only [records, Option.elim_none, Option.elim_some, List.map_singleton, List.sum_singleton]
  rw [framed_short (by omega), flag]
  omega

theorem allPlayerWaite_iff (roleid : Int) (ps : List PlayerInfo) :
    allPlayerWaite c roleid ps = .ok true ↔ ∀ p ∈ ps, p.roleid ≠ roleid →
      ((c.GetEntity p.socket).any fun f => f.roleInfo.gamewaite) = true := by
  induction ps with
  | nil => exact iff_of_true rfl fun _ hp => by cases hp
  | cons p ps ih =>
    rw [allPlayerWaite, List.forall_mem_cons]
    split
    · rename_i hp
      rw [ih]
      exact ⟨fun h => ⟨fun hne => absurd hp hne, h⟩, fun h => h.2⟩
    · rename_i hp
      cases he : c.GetEntity p.socket with
      | none => exact iff_of_false (by simp) fun h => by simpa using h.1 hp
      | some e =>
        dsimp only
        split
        · rename_i hwait
          rw [ih]
          exact ⟨fun h => ⟨fun _ => hwait, h⟩, fun h => h.2⟩
        · rename_i hwait
          exact iff_of_false (by simp) fun h => hwait (h.1 hp)

theorem gameStart_fits_iff : (∀ ps, starting s c = some ps → hallReturn.size
    { msgtype? := some .HST_GameStart, friendlist := ps } ≤ 8187) ↔ GameStartFits s c := by
  have hsize : ∀ ps, hallReturn.size { msgtype? := some .HST_GameStart, friendlist := ps } =
      flag + (ps.map fun p => framed (infoSize p)).sum := by
    intro ps
    rw [size_hallReturn]
    simp [records]
  simp only [hsize]
  constructor
  · intro h e r he hr hall
    refine h r.playerinfo ?_
    rw [starting, he, Option.bind_some, hr, Option.bind_some]
    simp only [(allPlayerWaite_iff _ _).mpr hall, if_true]
  · intro h ps hps
    obtain ⟨e, he, hps⟩ := Option.bind_eq_some_iff.mp hps
    obtain ⟨r, hr, hps⟩ := Option.bind_eq_some_iff.mp hps
    split at hps
    · rename_i all hwaite
      cases hps
      cases all with
      | true => exact h e r he hr ((allPlayerWaite_iff _ _).mp hwaite)
      | false => exact Nat.le_of_ble_eq_true rfl
    · cases hps

theorem hall_fits_iff :
    (∀ m ∈ builtHall s req rand c, hallReturn.size m ≤ 8187) ↔ HallFits s req rand c := by
  rw [builtHall, HallFits]
  split
  · rename_i hvalid
    rw [forall_prop_of_true hvalid]
    cases req.msgtype with
    | HST_CreateRoom => exact forall_mem_map.trans createRoom_fits_iff
    | HST_OnlineFriend => exact List.forall_mem_singleton.trans onlineFriend_fits_iff
    | HST_RequestTeam => exact forall_mem_map.trans requestTeam_fits_iff
    | HST_JoinTeam => exact forall_mem_map.trans joinTeam_fits_iff
    | HST_JoinRoom => exact joinRoom_fits_iff
    | HST_GetRoomList => exact forall_mem_map.trans getRoomList_fits_iff
    | HST_LeaveRoom =>
      have hempty : hallReturn.size { msgtype? := some .HST_LeaveRoom } ≤ 8187 := by
        rw [size_hallReturn]
        decide
      exact List.forall_mem_cons.trans
        ((and_iff_right hempty).trans (forall_mem_map.trans ownLeave_fits_iff))
    | HST_GameWaite => exact iff_true_intro (forall_mem_map.mpr fun x _ => gameWaite_fits x)
    | HST_GameStart => exact forall_mem_map.trans gameStart_fits_iff
    | HST_AutoMatch | HST_WaitTimeout | HST_CreateRoomFail | HST_KeepAlive =>
      exact iff_true_intro fun _ hm => by cases hm
  · rename_i hvalid
    exact iff_of_true (fun _ hm => by cases hm) fun h => absurd h hvalid

end Hall

section Scenes

variable {s : SOCKET} {c : CCache}

theorem size_resync (payload p : PlayerInfo) : infoSize (resync payload p) =
    handle p.socket + number p.roleid + number p.roomid + attrSize payload := rfl

theorem rsync_fits_iff {req : GameMainRequest} (t : GameMainMsgType) :
    (∀ ps, synced s req c = some ps →
      gameMainReturn.size { msgtype? := some t, friendlist := ps } ≤ 8187) ↔
      RsyncFits s req.playerinfo c := by
  have hsize : ∀ ps, gameMainReturn.size { msgtype? := some t, friendlist := ps } =
      flag + (ps.map fun p => framed (infoSize p)).sum := by
    intro ps
    rw [size_gameMainReturn]
    simp [records]
  have hlist : ∀ l : List PlayerInfo, ((l.filterMap fun p => (c.GetEntity p.socket).map fun f =>
      if p.socket = s then resync req.playerinfo f.roleInfo else f.roleInfo).map
        fun p => framed (infoSize p)).sum =
      (l.map fun p => (c.GetEntity p.socket).elim 0 (syncedSize s req.playerinfo p)).sum := by
    intro l
    induction l with
    | nil => rfl
    | cons p l ih =>
      rw [List.map_cons, List.sum_cons, ← ih, List.filterMap_cons]
      cases c.GetEntity p.socket with
      | none => exact (Nat.zero_add _).symm
      | some f =>
        rw [Option.map_some, Option.elim_some, syncedSize, ← size_resync, ← apply_ite infoSize]
        rfl
  simp only [hsize]
  constructor
  · intro h e r he hr
    rw [← hlist]
    refine h _ ?_
    rw [synced, he, Option.bind_some, hr, Option.map_some]
  · intro h ps hps
    obtain ⟨e, he, hps⟩ := Option.bind_eq_some_iff.mp hps
    obtain ⟨r, hr, rfl⟩ := Option.map_eq_some_iff.mp hps
    rw [hlist]
    exact h e r he hr

theorem main_fits_iff {req : GameMainRequest} :
    (∀ m ∈ builtMain s req c, gameMainReturn.size m ≤ 8187) ↔ MainFits s req c := by
  rw [builtMain, MainFits]
  split
  · rename_i hvalid
    rw [forall_prop_of_true hvalid]
    cases req.msgtype with
    | GMT_RsyncAttr | GMT_RsyncStatus => exact forall_mem_map.trans (rsync_fits_iff _)
    | GMT_KeepAlive | GMT_GameOver | GMT_BreakLine => exact iff_true_intro fun _ hm => by cases hm
  · rename_i hvalid
    exact iff_of_true (fun _ hm => by cases hm) fun h => absurd h hvalid

theorem size_loginReply (x : Option (String × List Row)) : loginReturn.size (loginReply x) =
    flag + x.elim 0 fun y => text y.1 + (y.2.map (roleSize true)).sum := by
  rw [size_loginReturn]
  cases x with
  | none => simp [loginReply, records]
  | some y =>
    have hrole : (fun q => framed (infoSize q)) ∘ listedRole true = roleSize true :=
      funext (size_listedRole true)
    simp [loginReply, records, hrole]
    omega

theorem size_createReply (x : Option (List Row)) : createRoleReturn.size (createReply x) =
    flag + x.elim 0 fun rows => (rows.map (roleSize false)).sum := by
  rw [size_createRoleReturn]
  cases x with
  | none => simp [createReply, records]
  | some rows =>
    have hrole : (fun q => framed (infoSize q)) ∘ listedRole false = roleSize false :=
      funext (size_listedRole false)
    simp [createReply, records, hrole]

variable {sqlite : Sqlite DB} {rand : List Nat} {db : DB} {st : Process DB}

theorem sessionOf_eq (username : String) (rand : List Nat) : sessionOf username rand =
    if 6 ≤ rand.length then some (username ++ "_" ++ GenrateRandomID (rand.take 6)) else none := by
  match rand with
  | r₁ :: r₂ :: r₃ :: r₄ :: r₅ :: r₆ :: rest => rw [if_pos (by simp only [List.length_cons]; omega)]; rfl
  | [] | [_] | [_, _] | [_, _, _] | [_, _, _, _] | [_, _, _, _, _] => rfl

theorem login_fits_iff {req : LoginRequest} : (∀ x, loggedIn sqlite req rand db = some x →
    loginReturn.size (loginReply x) ≤ 8187) ↔ LoginFits sqlite req rand db := by
  simp only [size_loginReply]
  rw [LoginFits, loggedIn]
  dsimp only
  cases firstRow (sqlite.exec db (Query.account req.username req.password).sql).2 with
  | none =>
    refine iff_of_true (fun x hx => ?_) fun h => absurd h Bool.false_ne_true
    cases hx
    decide
  | some row =>
    dsimp only
    rw [sessionOf_eq, Option.isSome_some, forall_prop_of_true rfl]
    split
    · rename_i hlength
      rw [forall_prop_of_true hlength]
      simp only [Option.map_some, Option.some.injEq, forall_eq', Option.elim_some, Nat.add_assoc]
      rfl
    · rename_i hshort
      exact iff_of_true (fun x hx => by cases hx) fun h => absurd h hshort

theorem createRole_fits_iff {req : CreateRoleRequest} :
    (∀ x, roleCreated sqlite s req db c = some x → createRoleReturn.size (createReply x) ≤ 8187) ↔
      CreateRoleFits s sqlite req db c := by
  simp only [size_createReply]
  have hnone : flag + (none : Option (List Row)).elim 0
      (fun rows => (rows.map (roleSize false)).sum) ≤ 8187 := by decide
  constructor
  · intro h hvalid hname row PlayerName hrow htext y z hy hz
    refine h (some _) ?_
    rw [roleCreated, if_pos hvalid]
    simp only [hrow, if_neg hname, htext, Option.map_some]
    exact congrArg some (if_pos (by rw [hy, hz]; rfl))
  · intro h x hx
    rw [roleCreated] at hx
    split at hx
    · rename_i hvalid
      dsimp only at hx
      split at hx
      · cases hx
        exact hnone
      · rename_i row hrow
        split at hx
        · cases hx
          exact hnone
        · rename_i hname
          cases htext : row.column_text 1 with
          | none =>
            rw [htext] at hx
            cases hx
          | some PlayerName =>
            rw [htext, Option.map_some] at hx
            obtain rfl := Option.some.inj hx
            split
            · rename_i hok
              obtain ⟨hy, hz⟩ := Bool.and_eq_true_iff.mp hok
              exact h hvalid hname row PlayerName hrow htext (Option.isNone_iff_eq_none.mp hy) hz
            · exact hnone
    · cases hx
      exact hnone

theorem scene_fits_iff {m : UnPacket} : (∀ p ∈ builtScene s sqlite m rand st, ByteSize p ≤ MSGSIZE) ↔
    SceneFits s sqlite m rand st := by
  rw [builtScene, SceneFits]
  cases m.curscene with
  | CS_Login =>
    refine (forall_mem_map.trans (forall₂_congr fun x _ => ?_)).trans login_fits_iff
    rw [size_loginPacket, framed_le_iff]
  | CS_CreateRole =>
    refine (forall_mem_map.trans (forall₂_congr fun x _ => ?_)).trans createRole_fits_iff
    rw [size_createPacket, framed_le_iff]
  | CS_WaitRoom =>
    refine (List.forall_mem_map.trans (forall₂_congr fun r _ => ?_)).trans hall_fits_iff
    rw [size_hallPacket, framed_le_iff]
  | CS_MainScene =>
    refine (List.forall_mem_map.trans (forall₂_congr fun r _ => ?_)).trans main_fits_iff
    rw [size_mainPacket, framed_le_iff]
  | CS_None | CS_Register | CS_SelectRole | CS_KeepAlive | CS_BreakLineRecon =>
    exact iff_true_intro fun _ hp => by cases hp

theorem notice_fits (scene : CurScene) :
    ∀ p ∈ (heartbeatNotice s scene).map Prod.snd, ByteSize p ≤ MSGSIZE := by
  cases scene with
  | CS_WaitRoom =>
    refine List.forall_mem_singleton.mpr ?_
    rw [size_hallPacket, size_hallReturn]
    decide
  | CS_MainScene =>
    refine List.forall_mem_singleton.mpr ?_
    rw [size_mainPacket, size_gameMainReturn]
    decide
  | CS_None | CS_Login | CS_Register | CS_CreateRole | CS_SelectRole | CS_KeepAlive
  | CS_BreakLineRecon => exact fun _ hp => by cases hp

theorem forall_mem_ite {α : Type} {b : Bool} {l : List α} {P : α → Prop} :
    (∀ x ∈ if b then l else [], P x) ↔ (b = true → ∀ x ∈ l, P x) := by
  cases b <;> simp

theorem leave_fits_iff : (∀ p ∈ ((ownLeave s c).map fun x =>
      hallPacket (leaveReturn (leaverEntry x.1, x.2))).toList, ByteSize p ≤ MSGSIZE) ↔
    LeaveRoomFits s c := by
  refine (forall_mem_map.trans (forall₂_congr fun x _ => ?_)).trans ownLeave_fits_iff
  rw [size_hallPacket, framed_le_iff]

theorem drop_fits_iff {e : CClientEntity} (he : c.GetEntity s = some e) :
    (∀ p ∈ ((dropped s c).map fun name => mainPacket (dropReturn name)).toList,
      ByteSize p ≤ MSGSIZE) ↔
    ∀ r, c.FindEntityRoom e.roleInfo.roomid = some r →
      flag + framed (text e.roleInfo.name) ≤ 8187 := by
  have hname : ∀ name, dropped s c = some name ↔
      (∃ r, c.FindEntityRoom e.roleInfo.roomid = some r) ∧ e.roleInfo.name = name := by
    intro name
    rw [dropped, he, Option.bind_some, Option.map_eq_some_iff]
    exact ⟨fun ⟨r, hr, hn⟩ => ⟨⟨r, hr⟩, hn⟩, fun ⟨⟨r, hr⟩, hn⟩ => ⟨r, hr, hn⟩⟩
  refine forall_mem_map.trans ⟨fun h r hr => ?_, fun h name hn => ?_⟩
  · have hle := h _ ((hname _).mpr ⟨⟨r, hr⟩, rfl⟩)
    rwa [size_mainPacket, framed_le_iff, size_dropReturn] at hle
  · obtain ⟨⟨r, hr⟩, rfl⟩ := (hname name).mp hn
    rw [size_mainPacket, framed_le_iff, size_dropReturn]
    exact h r hr

theorem tick_fits_iff {ptr : Nat} : (∀ p ∈ builtTick ptr st, ByteSize p ≤ MSGSIZE) ↔
    ∀ info, st.infos[ptr]? = some info → TickFits info st.cache := by
  rw [builtTick]
  cases st.infos[ptr]? with
  | none => exact iff_of_true (fun _ hp => by cases hp) fun _ h => by cases h
  | some info =>
    dsimp only
    simp only [Option.some.injEq, forall_eq']
    cases he : st.cache.GetEntity info.clientSocket with
    | none =>
      refine iff_of_true (fun _ hp => by cases hp) ⟨fun e h => ?_, fun e r h => ?_⟩
      · rw [he] at h
        cases h
      · rw [he] at h
        cases h
    | some e =>
      dsimp only
      split
      · rename_i hlast
        refine iff_of_true (fun _ hp => by cases hp) ⟨fun f hf hband => ?_, fun f r hf hband => ?_⟩
        · obtain rfl := Option.some.inj (he.symm.trans hf)
          simp only [leaveBand, Bool.and_eq_true, decide_eq_true_eq] at hband
          omega
        · obtain rfl := Option.some.inj (he.symm.trans hf)
          simp only [breakBand, Bool.and_eq_true, decide_eq_true_eq] at hband
          omega
      · rw [List.forall_mem_append, List.forall_mem_append, and_iff_left (notice_fits _),
          forall_mem_ite, forall_mem_ite, leave_fits_iff, drop_fits_iff he]
        have hbands : breakBand e = true → leaveBand e = false := by
          simp only [breakBand, leaveBand, Bool.and_eq_true, decide_eq_true_eq, Bool.and_eq_false_iff,
            decide_eq_false_iff_not]
          omega
        simp only [Bool.and_eq_true, Bool.not_eq_true', decide_eq_true_eq]
        constructor
        · rintro ⟨hleave, hdrop⟩
          refine ⟨fun f hf hband hbroken hscene => ?_, fun f r hf hband hbroken hscene hr => ?_⟩
          · obtain rfl := Option.some.inj (he.symm.trans hf)
            exact hleave ⟨hband, hbroken, hscene⟩
          · obtain rfl := Option.some.inj (he.symm.trans hf)
            exact hdrop ⟨⟨hbands hband, hband⟩, hbroken, hscene⟩ r hr
        · rintro ⟨hleave, hdrop⟩
          constructor
          · rintro ⟨hband, hbroken, hscene⟩
            exact hleave e he hband hbroken hscene
          · rintro ⟨⟨-, hband⟩, hbroken, hscene⟩ r hr
            exact hdrop e r he hband hbroken hscene hr

theorem built_fits_iff (a : Action) :
    (∀ p ∈ built sqlite st a, ByteSize p ≤ MSGSIZE) ↔ Within sqlite st a := by
  cases a with
  | accept | close => exact iff_true_intro fun _ hp => by cases hp
  | packet s m rand =>
    rw [built, Within]
    split
    · rename_i h
      obtain ⟨hread, hsome⟩ := Bool.and_eq_true_iff.mp h
      rw [forall_prop_of_true hread, forall_prop_of_true hsome]
      exact scene_fits_iff
    · rename_i h
      refine iff_of_true (fun _ hp => by cases hp) fun hread hsome => absurd ?_ h
      exact Bool.and_eq_true_iff.mpr ⟨hread, hsome⟩
  | poll j now =>
    rw [built, Within]
    cases dueArg j now st with
    | none => exact iff_of_true (fun _ hp => by cases hp) fun _ _ h => by cases h
    | some ptr =>
      rw [Option.toList_some, List.flatMap_singleton, tick_fits_iff]
      exact ⟨fun h ptr' info hptr => Option.some.inj hptr ▸ h info, fun h info => h ptr info rfl⟩

end Scenes

end JiraGame.BufferBounds
