import JiraGame.Delivery
import JiraGame.Initialization
import JiraGame.Ranges
import JiraGame.Replicas
import JiraGame.RoomId

namespace JiraGame.RoundTrips

open JiraGame.Scene JiraGame.Command JiraGame.DBServer JiraGame.Utilitys JiraGame.Cache
open JiraGame.HallScene JiraGame.MainScene JiraGame.AccountScenes JiraGame.ServerState
open JiraGame.KeepAlive JiraGame.Server JiraGame.RoomTable JiraGame.Refinement
open JiraGame.RoomChanges JiraGame.RoomId JiraGame.SeatGrid
open JiraGame.AccountStatements hiding text
open JiraGame.Encoding JiraGame.Broadcasts JiraGame.Replies JiraGame.ReplySizes
open JiraGame.SentPackets
open JiraGame.Ranges JiraGame.Delivery JiraGame.Replicas JiraGame.Listeners JiraGame.Runs
open JiraGame.Lib.History JiraGame.Lib.Fails JiraGame.Lib.ProtoMessage

section Options

variable {α : Type} {P : α → Prop} {a : α} {o : Option α}

theorem of_some (h : P a) : ∀ b ∈ some a, P b := by
  rintro b ⟨⟩
  exact h

theorem of_none : ∀ b ∈ (none : Option α), P b := fun _ hb => by cases hb

theorem of_getD (h : ∀ b ∈ o, P b) (ha : P a) : P (o.getD a) := by
  cases o with
  | none => exact ha
  | some b => exact h b rfl

end Options

theorem isInt32_zero : Value.IsInt32 0 := ⟨by decide, by decide⟩

theorem isInt32_getD {o : Option Int} (h : ∀ i ∈ o, Value.IsInt32 i) : Value.IsInt32 (o.getD 0) :=
  of_getD h isInt32_zero

theorem isInt32_string2Int (str : String) : Value.IsInt32 (string2Int str) := by
  rw [string2Int, Value.IsInt32]
  split <;> omega

section Entries

variable {s : SOCKET} {p q : PlayerInfo}

theorem inRange_memberEntry {team : TeamType} {teamid : Int} (hs : s < 2 ^ 32)
    (hp : PlayerInfo.InRange p) (ht : Value.IsInt32 teamid) :
    PlayerInfo.InRange (memberEntry s p team teamid) :=
  { inRange_playerInfo with
    socket := of_some hs
    roleid := of_some (isInt32_getD hp.roleid)
    roletype := of_some (isInt32_getD hp.roletype)
    teamid := of_some ht }

theorem inRange_entryOf {via : JoinPath} {r : RoomInfo} {team : TeamType} {teamid : Int}
    (hs : s < 2 ^ 32) (hp : PlayerInfo.InRange p) (ht : Value.IsInt32 teamid)
    (hr : Value.IsInt32 r.roomid) : PlayerInfo.InRange (entryOf via s p r team teamid) := by
  cases via with
  | joinTeam => exact inRange_memberEntry hs hp ht
  | joinRoom =>
    have hentry : PlayerInfo.InRange (memberEntry s p team teamid) := inRange_memberEntry hs hp ht
    exact { hentry with roomid := of_some hr }

theorem inRange_ownerEntry (hs : s < 2 ^ 32) (hp : PlayerInfo.InRange p) :
    PlayerInfo.InRange (ownerEntry s p) :=
  { inRange_playerInfo with
    socket := of_some hs
    roleid := of_some (isInt32_getD hp.roleid)
    roletype := of_some (isInt32_getD hp.roletype)
    teamid := of_some isInt32_zero }

theorem inRange_resync (hq : PlayerInfo.InRange q) (hp : PlayerInfo.InRange p) :
    PlayerInfo.InRange (resync q p) :=
  { hq with
    roomid := of_some (isInt32_getD hp.roomid)
    socket := of_some (of_getD hp.socket (by decide))
    roleid := of_some (isInt32_getD hp.roleid) }

theorem inRange_selected {t : Int} {row : Option (Int × String)} (ht : Value.IsInt32 t)
    (hrow : ∀ x ∈ row, Value.IsInt32 x.1) (hp : PlayerInfo.InRange p) :
    PlayerInfo.InRange (selected t row p) := by
  cases row with
  | none => exact { hp with roletype := of_some ht }
  | some x =>
    exact { hp with roletype := of_some ht, roleid := of_some (hrow x rfl) }

theorem inRange_copyOthers {roleid : Int} {fromRoster isCaptain leader : Bool}
    {ps : List PlayerInfo} (h : ∀ p ∈ ps, PlayerInfo.InRange p) :
    ∀ q ∈ (copyOthers roleid fromRoster isCaptain leader ps).1, PlayerInfo.InRange q :=
  forall_copyOthers (fun _ hp => { hp with }) h

theorem inRange_stay {via : LeavePath} {ps : List PlayerInfo}
    (h : ∀ q ∈ ps, PlayerInfo.InRange q) : ∀ q ∈ (stay via p ps).1, PlayerInfo.InRange q := by
  cases via <;> exact inRange_copyOthers h

end Entries

section Lobbies

/-- A room after at most `n` requests: each moves the counter by one. -/
structure Counted (n : Nat) (k : Int) (r : RoomInfo) : Prop where
  key : Value.IsInt32 k
  roomid : r.roomid = k
  personcount : r.personcount = 6
  low : 5 - (n : Int) ≤ r.freepersoncount
  high : r.freepersoncount ≤ 5 + n
  playerinfo : ∀ p ∈ r.playerinfo, PlayerInfo.InRange p

def Held (s : SOCKET) (p : PlayerInfo) : Prop := s < 2 ^ 32 ∧ PlayerInfo.InRange p

structure Ranged (n : Nat) (l : Lobby) : Prop where
  room : ∀ k r, l.room k = some r → Counted n k r
  role : ∀ s p, l.role s = some p → Held s p

theorem Ranged.keyed {n : Nat} {l : Lobby} (h : Ranged n l) : Keyed l :=
  fun k r hr => (h.room k r hr).roomid

/-- The numbers that an event brings along; those of `JoinRoom` are from the grid. -/
def Fitting : Event → Prop
  | .enter s => s < 2 ^ 32
  | .select _ t row => Value.IsInt32 t ∧ ∀ x ∈ row, Value.IsInt32 x.1
  | .sync _ payload => PlayerInfo.InRange payload
  | .create _ id _ => Value.IsInt32 id
  | .join _ _ _ teamid via => via = .joinTeam → Value.IsInt32 teamid
  | _ => True

variable {l : Lobby} {n : Nat} {ev : Event}

theorem ranged_empty : Ranged 0 emptyLobby where
  room := fun _ _ hr => by cases hr
  role := fun _ _ hp => by cases hp

theorem held_modify {s : SOCKET} {f : PlayerInfo → PlayerInfo}
    (h : ∀ t p, l.role t = some p → Held t p)
    (hf : ∀ p, PlayerInfo.InRange p → PlayerInfo.InRange (f p)) :
    ∀ t p, (l.modify s f).role t = some p → Held t p :=
  (Lobby.roles_modify_iff h).mpr fun p hp => ⟨(h s p hp).1, hf p (h s p hp).2⟩

theorem held_promote (h : ∀ t p, l.role t = some p → Held t p) (o : Option PlayerInfo) :
    ∀ t p, (l.promote o).role t = some p → Held t p := by
  cases o with
  | none => exact h
  | some q => exact held_modify h fun p hp => { hp with }

theorem inRange_asIdle {p : PlayerInfo} (hp : PlayerInfo.InRange p) :
    PlayerInfo.InRange (asIdle p) :=
  { hp with roomid := of_some isInt32_zero }

theorem isInt32_grid {j : Int} (h : j ∈ [0, 1, 2]) : Value.IsInt32 j := by
  simp only [List.mem_cons, List.not_mem_nil, or_false] at h
  rw [Value.IsInt32]
  omega

theorem isInt32_teamid {s : SOCKET} {k : Int} {team : TeamType} {teamid : Int} {via : JoinPath}
    (hfit : Fitting (.join s k team teamid via)) (hgrid : via = .joinRoom → teamid ∈ [0, 1, 2]) :
    Value.IsInt32 teamid := by
  cases via with
  | joinTeam => exact hfit rfl
  | joinRoom => exact isInt32_grid (hgrid rfl)

theorem held_apply (h : Ranged n l) (hen : l.Enabled ev) (hfit : Fitting ev) :
    ∀ s p, (l.apply ev).role s = some p → Held s p := by
  cases ev with
  | quiet | start s => exact h.role
  | enter s =>
    refine (Lobby.roles_setRole_iff h.role (some {})).mpr ?_
    rintro p ⟨⟩
    exact ⟨hfit, inRange_playerInfo⟩
  | evict s => exact (Lobby.roles_setRole_iff h.role none).mpr fun p hp => by cases hp
  | select s t row => exact held_modify h.role fun p hp => inRange_selected hfit.1 hfit.2 hp
  | wait s => exact held_modify h.role fun p hp => { hp with }
  | sync s payload => exact held_modify h.role fun p hp => inRange_resync hfit hp
  | create s id roomname =>
    obtain ⟨p, hp, -⟩ := hen
    have howner : ∀ p, PlayerInfo.InRange p → PlayerInfo.InRange (asOwner id p) := fun p hp =>
      { hp with roomid := of_some hfit, teamid := of_some isInt32_zero }
    simp only [Lobby.apply, hp]
    split
    · exact held_modify h.role howner
    · exact held_modify h.role howner
  | join s k team teamid via =>
    obtain ⟨p, r, hp, hr, -, hgrid⟩ := hen
    have hmember : ∀ p, PlayerInfo.InRange p →
        PlayerInfo.InRange (asMember r.roomid team teamid p) := fun p hp =>
      { hp with
        roomid := of_some (h.keyed k r hr ▸ (h.room k r hr).key)
        teamid := of_some (isInt32_teamid hfit hgrid) }
    simp only [Lobby.apply, hp, hr]
    exact held_modify h.role hmember
  | leave s k via =>
    obtain ⟨p, r, hp, hr, -⟩ := hen
    simp only [Lobby.apply, hp, hr]
    split
    · exact held_modify h.role fun p hp => inRange_asIdle hp
    · exact held_modify (held_promote h.role _) fun p hp => inRange_asIdle hp
  | gameOver s k =>
    intro t p hp
    cases hr : l.room k with
    | none =>
      simp only [Lobby.apply, hr] at hp
      exact h.role t p hp
    | some r =>
      simp only [Lobby.apply, hr] at hp
      split at hp
      · obtain ⟨q, hq, rfl⟩ := Option.map_eq_some_iff.mp hp
        obtain ⟨hs, hq⟩ := h.role t q hq
        exact ⟨hs, { hq with roomid := of_some isInt32_zero }⟩
      · exact h.role t p hp

theorem counted_apply (h : Ranged n l) (hen : l.Enabled ev) (hfit : Fitting ev) :
    ∀ k r, (l.apply ev).room k = some r → Counted (n + 1) k r := by
  intro k r' hr'
  cases room_change h.keyed hen hr' with
  | kept _ hr =>
    have hc := h.room k r' hr
    have hlow := hc.low
    have hhigh := hc.high
    exact { hc with low := by omega, high := by omega }
  | created s roomname p hp _ _ heq =>
    subst heq
    have hfree : (newRoom s k roomname p).freepersoncount = 5 := rfl
    obtain ⟨hs, hp⟩ := h.role s p hp
    refine ⟨hfit, rfl, rfl, by omega, by omega, ?_⟩
    exact List.forall_mem_singleton.mpr (inRange_ownerEntry hs hp)
  | joined s team teamid via p r hp hr _ hgrid heq =>
    subst heq
    obtain ⟨hs, hp⟩ := h.role s p hp
    obtain ⟨hkey, hid, hcount, hlow, hhigh, hall⟩ := h.room k r hr
    have hfree : (joined r (entryOf via s p r team teamid)).freepersoncount =
        r.freepersoncount - 1 := rfl
    refine ⟨hkey, hid, hcount, by omega, by omega, ?_⟩
    refine List.forall_mem_append.mpr ⟨hall, List.forall_mem_singleton.mpr ?_⟩
    exact inRange_entryOf hs hp (isInt32_teamid hfit hgrid) (hid ▸ hkey)
  | left s via p r _ hr _ heq =>
    subst heq
    obtain ⟨hkey, hid, hcount, hlow, hhigh, hall⟩ := h.room k r hr
    have hfree : (leftRoom r (stay via p r.playerinfo).1).freepersoncount =
        r.freepersoncount + 1 := rfl
    exact ⟨hkey, hid, hcount, by omega, by omega, inRange_stay hall⟩

theorem ranged_apply (h : Ranged n l) (hen : l.Enabled ev) (hfit : Fitting ev) :
    Ranged (n + 1) (l.apply ev) :=
  ⟨counted_apply h hen hfit, held_apply h hen hfit⟩

end Lobbies

section Requests

variable {m : UnPacket}

theorem inRange_invite {req : HallRequest} (h : HallRequest.InRange req) :
    InviteInfo.InRange req.inviteinfo :=
  of_getD h.inviteinfo inRange_inviteInfo

theorem inRange_hallrequest (h : UnPacket.InRange m) : HallRequest.InRange m.hallrequest := by
  refine of_getD h.hallrequest ?_
  constructor <;> exact of_none

theorem inRange_selectrolerequest (h : UnPacket.InRange m) :
    Value.IsInt32 m.selectrolerequest.roletype := by
  have hreq : ∀ i ∈ m.selectrolerequest.roletype?, Value.IsInt32 i := by
    refine of_getD (P := fun r : SelectRoleRequest => ∀ i ∈ r.roletype?, Value.IsInt32 i)
      h.selectrolerequest of_none
  exact isInt32_getD hreq

theorem inRange_gamemainrequest (h : UnPacket.InRange m) :
    PlayerInfo.InRange m.gamemainrequest.playerinfo := by
  have hreq : ∀ p ∈ m.gamemainrequest.playerinfo?, PlayerInfo.InRange p := by
    refine of_getD (P := fun r : GameMainRequest => ∀ p ∈ r.playerinfo?, PlayerInfo.InRange p)
      h.gamemainrequest of_none
  exact of_getD hreq inRange_playerInfo

end Requests

def IntColumns {DB : Type} (sqlite : Sqlite DB) : Prop :=
  ∀ db sql, ∀ x ∈ (sqlite.exec db sql).2, ∀ row ∈ x.rows, ∀ j, Value.IsInt32 (row.column_int j)

/-- A handle is a SOCKET of 32 bits, and a message holds numbers of its field types. -/
def Sized : Action → Prop
  | .accept s _ => s < 2 ^ 32
  | .packet _ m _ => UnPacket.InRange m
  | _ => True

section Events

variable {DB : Type} {sqlite : Sqlite DB} {st : Process DB} {c : CCache} {s : SOCKET}
  {rand : List Nat}

theorem isInt32_firstRow (hint : IntColumns sqlite) {db : DB} {sql : Sql} {row : Row}
    (h : firstRow (sqlite.exec db sql).2 = some row) (j : Nat) : Value.IsInt32 (row.column_int j) := by
  cases hx : (sqlite.exec db sql).2 with
  | none =>
    rw [hx] at h
    cases h
  | some x =>
    rw [hx] at h
    exact hint db sql x hx row (List.mem_of_mem_head? h) j

theorem isInt32_roomID {id : Int} {rest : List Nat}
    (h : GenrateOnlyRoomID c rand = some (id, rest)) : Value.IsInt32 id := by
  obtain ⟨-, rfl⟩ := GenrateOnlyRoomID_spec h
  split
  · exact isInt32_string2Int _
  · exact isInt32_zero

theorem fitting_leave (via : LeavePath) : Fitting (leaveEvent s via c) := by
  rw [leaveEvent]
  repeat' split
  all_goals exact trivial

theorem fitting_hall {req : HallRequest} (h : HallRequest.InRange req) :
    Fitting (hallEvent s req rand c) := by
  rw [hallEvent]
  split
  · exact trivial
  · split
    · split
      · rw [createEvent]
        split
        · exact trivial
        · split
          · rename_i hid
            exact isInt32_roomID hid
          · exact trivial
      · rw [joinTeamEvent]
        repeat' split
        all_goals first | exact trivial | exact fun _ => isInt32_getD (inRange_invite h).teamid
      · rw [joinRoomEvent]
        repeat' split
        all_goals first | exact trivial | exact fun hvia => by cases hvia
      · exact fitting_leave _
      all_goals exact trivial
    · exact trivial

theorem fitting_main {req : GameMainRequest} (h : PlayerInfo.InRange req.playerinfo) :
    Fitting (mainEvent s req c) := by
  rw [mainEvent]
  repeat' split
  all_goals first | exact trivial | exact h

theorem fitting_select (hint : IntColumns sqlite) {req : SelectRoleRequest} {db : DB}
    (h : Value.IsInt32 req.roletype) : Fitting (selectEvent sqlite s req db c) := by
  rw [selectEvent]
  split
  · split
    · exact ⟨h, of_none⟩
    · rename_i row hrow
      split
      · exact ⟨h, of_some (isInt32_firstRow hint hrow 0)⟩
      · exact trivial
  · exact trivial

theorem fitting_event (hint : IntColumns sqlite) {a : Action} (ha : Sized a) :
    Fitting (event sqlite st a) := by
  cases a with
  | accept s junk =>
    rw [event]
    repeat' split
    all_goals first | exact trivial | exact ha
  | close s => exact trivial
  | packet s m rand =>
    rw [event]
    split
    · split
      · exact trivial
      · rw [packetEvent]
        split
        · exact fitting_select hint (inRange_selectrolerequest ha)
        · exact fitting_hall (inRange_hallrequest ha)
        · exact fitting_main (inRange_gamemainrequest ha)
        · exact trivial
    · exact trivial
  | poll j now =>
    rw [event]
    split
    · rw [tickEvent]
      repeat' split
      all_goals first | exact trivial | exact fitting_leave _
    · exact trivial

variable {db : DB} {tr : List (Process DB × Action)}

/-- What the lobby holds after a run is in the ranges of the wire types. -/
theorem ranged (hint : IntColumns sqlite) (h : ServerRun sqlite db tr st)
    (hsized : ∀ x ∈ tr, Sized x.2) : Ranged tr.length (lobby st.cache) := by
  refine Run.always (I := fun tr st => Ranged tr.length (lobby st.cache))
    (C := fun _ a => Sized a) ?_ ?_ h hsized
  · rw [lobby_start]
    exact ranged_empty
  · rintro tr st a st' - hi ha ⟨out, hstep⟩
    obtain ⟨hen, happ⟩ := step_refines hstep
    rw [happ]
    exact ranged_apply hi hen (fitting_event hint ha)

end Events

section Hall

variable {c : CCache} {s : SOCKET} {n : Nat} {req : HallRequest}

theorem inRange_hallReturn : HallReturn.InRange {} where
  hallinfo := of_none
  roomid := of_none
  friendlist := fun _ hp => by cases hp
  inviteinfo := of_none

theorem held_entity (h : Ranged n (lobby c)) {e : CClientEntity} (he : c.GetEntity s = some e) :
    Held s e.roleInfo := h.role s e.roleInfo (role_of_entity c he)

theorem isInt32_roomid (h : Ranged n (lobby c)) {k : Int} {r : RoomInfo}
    (hr : c.FindEntityRoom k = some r) : Value.IsInt32 r.roomid := by
  rw [h.keyed k r hr]
  exact (h.room k r hr).key

theorem inRange_leaveReturn {p : PlayerInfo} {o : Option PlayerInfo}
    (hp : PlayerInfo.InRange p) (ho : ∀ q ∈ o, PlayerInfo.InRange q) :
    HallReturn.InRange (leaveReturn (p, o)) :=
  { inRange_hallReturn with
    friendlist := List.forall_mem_cons.mpr ⟨hp, fun q hq => ho q (Option.mem_toList.mp hq)⟩ }

theorem inRange_leaverEntry {p : PlayerInfo} (hp : PlayerInfo.InRange p) :
    PlayerInfo.InRange (leaverEntry p) :=
  { inRange_playerInfo with
    roleid := of_some (isInt32_getD hp.roleid)
    teamid := of_some (isInt32_getD hp.teamid) }

theorem inRange_friendOf {p : PlayerInfo} (hp : PlayerInfo.InRange p) :
    PlayerInfo.InRange (friendOf p) :=
  { inRange_playerInfo with
    roleid := of_some (isInt32_getD hp.roleid)
    roletype := of_some (isInt32_getD hp.roletype)
    teamid := of_some (isInt32_getD hp.teamid) }

theorem inRange_created (h : Ranged n (lobby c)) {rand : List Nat} {x : Int × PlayerInfo}
    (hx : created s req rand c = some x) :
    HallReturn.InRange (createReturn req.roomname x) := by
  rw [created] at hx
  split at hx
  · cases hx
  · obtain ⟨e, he, hx⟩ := Option.bind_eq_some_iff.mp hx
    split at hx
    · cases hx
    · obtain ⟨⟨id, rest⟩, hid, rfl⟩ := Option.map_eq_some_iff.mp hx
      have hp := (held_entity h he).2
      have hentry : PlayerInfo.InRange (creatorEntry e.roleInfo) :=
        { inRange_playerInfo with
          roleid := of_some (isInt32_getD hp.roleid)
          roletype := of_some (isInt32_getD hp.roletype) }
      exact { inRange_hallReturn with
        roomid := of_some (isInt32_roomID hid)
        friendlist := List.forall_mem_singleton.mpr hentry }

theorem inRange_online (h : Ranged n (lobby c)) :
    ∀ p ∈ online req c, PlayerInfo.InRange (onlineEntry p) := by
  intro p hp
  obtain ⟨⟨t, e⟩, hmem, rfl⟩ := List.mem_map.mp hp
  have he : c.GetEntity t = some e :=
    Std.TreeMap.mem_toList_iff_getElem?_eq_some.mp (List.mem_of_mem_filter hmem)
  exact { inRange_playerInfo with roleid := of_some (isInt32_getD (held_entity h he).2.roleid) }

theorem inRange_seated (h : Ranged n (lobby c)) (hreq : HallRequest.InRange req)
    {x : RoomInfo × Option PlayerInfo} (hx : seated s req c = some x) :
    HallReturn.InRange (seatReturn s req x) := by
  rw [seated] at hx
  obtain ⟨r, hr, hx⟩ := Option.bind_eq_some_iff.mp hx
  split at hx
  · cases hx
    exact inRange_hallReturn
  · obtain ⟨e, he, rfl⟩ := Option.map_eq_some_iff.mp hx
    obtain ⟨hs, hp⟩ := held_entity h he
    have hteam := isInt32_getD (inRange_invite hreq).teamid
    refine { inRange_hallReturn with
      roomid := of_some (isInt32_roomid h hr)
      friendlist := List.forall_mem_append.mpr ⟨?_, ?_⟩ }
    · exact List.forall_mem_map.mpr fun p hp => inRange_friendOf ((h.room _ r hr).playerinfo p hp)
    · exact List.forall_mem_singleton.mpr (inRange_memberEntry hs hp hteam)

theorem inRange_ownLeave (h : Ranged n (lobby c)) {x : PlayerInfo × Option PlayerInfo}
    (hx : ownLeave s c = some x) : HallReturn.InRange (leaveReturn (leaverEntry x.1, x.2)) := by
  rw [ownLeave] at hx
  obtain ⟨e, he, hx⟩ := Option.bind_eq_some_iff.mp hx
  obtain ⟨r, hr, hx⟩ := Option.bind_eq_some_iff.mp hx
  split at hx
  · cases hx
  · dsimp only at hx
    split at hx
    · cases hx
      refine inRange_leaveReturn (inRange_leaverEntry (held_entity h he).2) fun q hq => ?_
      exact inRange_copyOthers (h.room _ r hr).playerinfo q (copyOthers_owner_mem _ _ _ hq)
    · cases hx

theorem inRange_namedLeave (h : Ranged n (lobby c)) {x : PlayerInfo × Option PlayerInfo}
    (hx : namedLeave s req c = some x) : HallReturn.InRange (leaveReturn x) := by
  rw [namedLeave] at hx
  obtain ⟨r, hr, hx⟩ := Option.bind_eq_some_iff.mp hx
  obtain ⟨e, he, hx⟩ := Option.bind_eq_some_iff.mp hx
  obtain ⟨p, hp, hx⟩ := Option.bind_eq_some_iff.mp hx
  have hall := (h.room _ r hr).playerinfo
  split at hx
  · cases hx
  · cases hx
    refine inRange_leaveReturn (hall p (List.mem_of_find?_eq_some hp)) fun q hq => ?_
    exact inRange_copyOthers hall q (copyOthers_owner_mem _ _ _ hq)

theorem inRange_named (h : Ranged n (lobby c)) {x : RoomInfo × PlayerInfo}
    (hx : named s req c = some x) : HallReturn.InRange (joinReturn x) := by
  rw [named] at hx
  obtain ⟨r, hr, hx⟩ := Option.bind_eq_some_iff.mp hx
  obtain ⟨e, he, hx⟩ := Option.bind_eq_some_iff.mp hx
  obtain ⟨hs, hp⟩ := held_entity h he
  split at hx
  · cases hx
  · rw [IdleTeam_ID_eq, Option.bind_some] at hx
    split at hx
    · rename_i first pos js more hidle
      cases hx
      have hpos := isInt32_grid (first_idle _ _ _ _ _ hidle).1
      have hentry : PlayerInfo.InRange (entryOf .joinRoom s e.roleInfo r (teamOfKey first) pos) :=
        inRange_entryOf hs hp hpos (isInt32_roomid h hr)
      exact { inRange_hallReturn with
        roomid := of_some (isInt32_roomid h hr)
        friendlist := List.forall_mem_append.mpr
          ⟨(h.room _ r hr).playerinfo, List.forall_mem_singleton.mpr hentry⟩ }
    · cases hx

theorem inRange_starting (h : Ranged n (lobby c)) {ps : List PlayerInfo}
    (hx : starting s c = some ps) : ∀ p ∈ ps, PlayerInfo.InRange p := by
  rw [starting] at hx
  obtain ⟨e, he, hx⟩ := Option.bind_eq_some_iff.mp hx
  obtain ⟨r, hr, hx⟩ := Option.bind_eq_some_iff.mp hx
  split at hx
  · cases hx
    split
    · exact (h.room _ r hr).playerinfo
    · intro p hp
      cases hp
  · cases hx

theorem inRange_waiting (h : Ranged n (lobby c)) {x : Bool × Option PlayerInfo}
    (hx : waiting s c = some x) : PlayerInfo.InRange (waiteEntry x) := by
  rw [waiting] at hx
  obtain ⟨e, he, hx⟩ := Option.bind_eq_some_iff.mp hx
  obtain ⟨r, hr, rfl⟩ := Option.map_eq_some_iff.mp hx
  cases hp : r.playerinfo.find? fun p => p.roleid = e.roleInfo.roleid with
  | none => exact { inRange_playerInfo with }
  | some p =>
    have hq := (h.room _ r hr).playerinfo p (List.mem_of_find?_eq_some hp)
    exact { inRange_playerInfo with teamid := of_some (isInt32_getD hq.teamid) }

theorem mem_rooms {xs : List (Int × RoomInfo × PlayerInfo)} (h : rooms c = some xs) :
    ∀ x ∈ xs, c.FindEntityRoom x.1 = some x.2.1 := by
  have hmapM : ∀ (rs : List (Int × RoomInfo)) (xs : List (Int × RoomInfo × PlayerInfo)),
      (rs.mapM fun x => x.2.playerinfo.head?.map fun p => (x.1, x.2, p)) = some xs →
        ∀ x ∈ xs, (x.1, x.2.1) ∈ rs := by
    intro rs
    induction rs with
    | nil =>
      rintro xs ⟨⟩ x hx
      cases hx
    | cons r rs ih =>
      intro xs hxs x hx
      rw [List.mapM_cons] at hxs
      obtain ⟨y, hy, hxs⟩ := Option.bind_eq_some_iff.mp hxs
      obtain ⟨ys, hys, hxs⟩ := Option.bind_eq_some_iff.mp hxs
      cases hxs
      obtain ⟨p, -, rfl⟩ := Option.map_eq_some_iff.mp hy
      obtain rfl | hx := List.mem_cons.mp hx
      · exact List.mem_cons_self
      · exact List.mem_cons_of_mem _ (ih ys hys x hx)
  intro x hx
  exact Std.TreeMap.mem_toList_iff_getElem?_eq_some.mp (hmapM _ xs h x hx)

theorem inRange_rooms (h : Ranged n (lobby c)) (hn : n < 2 ^ 31 - 6)
    {xs : List (Int × RoomInfo × PlayerInfo)} (hx : rooms c = some xs) :
    ∀ r ∈ xs.map roomEntry, RoomInfo.InRange r := by
  refine List.forall_mem_map.mpr fun x hmem => ?_
  obtain ⟨hkey, -, hcount, hlow, hhigh, -⟩ := h.room _ _ (mem_rooms hx x hmem)
  have hstate : PlayerInfo.InRange (({} : PlayerInfo).set_roomstate x.2.2.roomstate) :=
    { inRange_playerInfo with }
  refine { roomid := of_some hkey, personcount := of_some ?_, freepersoncount := of_some ?_
           playerinfo := List.forall_mem_singleton.mpr hstate }
  · rw [hcount]
    exact ⟨by decide, by decide⟩
  · rw [Value.IsInt32]
    omega

theorem forall_toList {α β : Type} {P : β → Prop} {f : α → β} {o : Option α}
    (h : ∀ x, o = some x → P (f x)) : ∀ r ∈ (o.map f).toList, P r := by
  intro r hr
  obtain ⟨x, hx, rfl⟩ := Option.map_eq_some_iff.mp (Option.mem_toList.mp hr)
  exact h x hx

theorem inRange_builtHall (h : Ranged n (lobby c)) (hn : n < 2 ^ 31 - 6)
    (hreq : HallRequest.InRange req) (rand : List Nat) :
    ∀ r ∈ builtHall s req rand c, HallReturn.InRange r := by
  rw [builtHall]
  split
  · cases hm : req.msgtype with
    | HST_CreateRoom => exact forall_toList fun x hx => inRange_created h hx
    | HST_OnlineFriend =>
      exact List.forall_mem_singleton.mpr { inRange_hallReturn with
        friendlist := List.forall_mem_map.mpr (inRange_online h) }
    | HST_RequestTeam =>
      have hinvite := inRange_invite hreq
      exact forall_toList fun e _ => { inRange_hallReturn with
        inviteinfo := of_some { hinvite with } }
    | HST_JoinTeam => exact forall_toList fun x hx => inRange_seated h hreq hx
    | HST_JoinRoom =>
      refine List.forall_mem_append.mpr ⟨?_, ?_⟩
      · exact forall_toList fun x hx => inRange_namedLeave h hx
      · exact forall_toList fun x hx => inRange_named h hx
    | HST_GetRoomList =>
      exact forall_toList fun xs hx => { inRange_hallReturn with
        hallinfo := of_some (inRange_rooms h hn hx) }
    | HST_LeaveRoom =>
      refine List.forall_mem_cons.mpr ⟨{ inRange_hallReturn with }, ?_⟩
      exact forall_toList fun x hx => inRange_ownLeave h hx
    | HST_GameWaite =>
      exact forall_toList fun x hx => { inRange_hallReturn with
        friendlist := List.forall_mem_singleton.mpr (inRange_waiting h hx) }
    | HST_GameStart =>
      exact forall_toList fun ps hx => { inRange_hallReturn with
        friendlist := inRange_starting h hx }
    | HST_AutoMatch | HST_WaitTimeout | HST_CreateRoomFail | HST_KeepAlive =>
      intro r hr
      cases hr
  · intro r hr
    cases hr

end Hall

section Packets

variable {DB : Type} {sqlite : Sqlite DB} {st : Process DB} {c : CCache} {s : SOCKET} {n : Nat}

theorem inRange_packet : Packet.InRange {} where
  loginreturn := of_none
  createrolereturn := of_none
  selectrolereturn := of_none
  hallreturn := of_none
  gamemainreturn := of_none

theorem inRange_hallPacket {r : HallReturn} (h : HallReturn.InRange r) :
    Packet.InRange (hallPacket r) :=
  { inRange_packet with hallreturn := of_some h }

theorem inRange_mainPacket {r : GameMainReturn} (h : ∀ p ∈ r.friendlist, PlayerInfo.InRange p) :
    Packet.InRange (mainPacket r) :=
  { inRange_packet with gamemainreturn := of_some h }

theorem inRange_listedRole (withUser : Bool) (row : Row) :
    PlayerInfo.InRange (listedRole withUser row) := by
  unfold listedRole
  repeat' split
  all_goals constructor <;> first
    | exact of_none | exact of_some (isInt32_string2Int _) | rfl

theorem inRange_login (x : Option (String × List Row)) :
    Packet.InRange (loginPacket (loginReply x)) := by
  have hroles : ∀ p ∈ (loginReply x).playerinfo, PlayerInfo.InRange p := by
    cases x with
    | none => exact fun p hp => by cases hp
    | some x => exact List.forall_mem_map.mpr fun row _ => inRange_listedRole true row
  exact { inRange_packet with loginreturn := of_some hroles }

theorem inRange_create (x : Option (List Row)) :
    Packet.InRange (createPacket (createReply x)) := by
  have hroles : ∀ p ∈ (createReply x).playerinfo, PlayerInfo.InRange p := by
    cases x with
    | none => exact fun p hp => by cases hp
    | some rows => exact List.forall_mem_map.mpr fun row _ => inRange_listedRole false row
  exact { inRange_packet with createrolereturn := of_some hroles }

theorem inRange_synced (h : Ranged n (lobby c)) {req : GameMainRequest}
    (hreq : PlayerInfo.InRange req.playerinfo) {ps : List PlayerInfo}
    (hx : synced s req c = some ps) : ∀ p ∈ ps, PlayerInfo.InRange p := by
  rw [synced] at hx
  obtain ⟨e, he, hx⟩ := Option.bind_eq_some_iff.mp hx
  obtain ⟨r, hr, rfl⟩ := Option.map_eq_some_iff.mp hx
  intro q hq
  obtain ⟨p, hp, hq⟩ := List.mem_filterMap.mp hq
  obtain ⟨f, hf, rfl⟩ := Option.map_eq_some_iff.mp hq
  have hheld := (held_entity h hf).2
  split
  · exact inRange_resync hreq hheld
  · exact hheld

theorem inRange_builtMain (h : Ranged n (lobby c)) {req : GameMainRequest}
    (hreq : PlayerInfo.InRange req.playerinfo) :
    ∀ r ∈ builtMain s req c, Packet.InRange (mainPacket r) := by
  rw [builtMain]
  split
  · split
    · exact forall_toList fun ps hx => inRange_mainPacket (inRange_synced h hreq hx)
    · exact forall_toList fun ps hx => inRange_mainPacket (inRange_synced h hreq hx)
    · intro r hr
      cases hr
  · intro r hr
    cases hr

theorem inRange_heartbeat (scene : CurScene) :
    ∀ p ∈ (heartbeatNotice s scene).map Prod.snd, Packet.InRange p := by
  have hmain : Packet.InRange (mainPacket { msgtype? := some .GMT_KeepAlive }) :=
    inRange_mainPacket fun p hp => by cases hp
  cases scene with
  | CS_WaitRoom =>
    exact List.forall_mem_singleton.mpr (inRange_hallPacket { inRange_hallReturn with })
  | CS_MainScene => exact List.forall_mem_singleton.mpr hmain
  | _ => exact fun p hp => by cases hp

theorem inRange_builtTick (h : Ranged n (lobby st.cache)) (ptr : Nat) :
    ∀ p ∈ builtTick ptr st, Packet.InRange p := by
  rw [builtTick]
  split
  · intro p hp
    cases hp
  · dsimp only
    split
    · intro p hp
      cases hp
    · split
      · intro p hp
        cases hp
      · refine List.forall_mem_append.mpr ⟨List.forall_mem_append.mpr ⟨?_, ?_⟩, ?_⟩
        · split
          · exact forall_toList fun x hx => inRange_hallPacket (inRange_ownLeave h hx)
          · intro p hp
            cases hp
        · split
          · refine forall_toList fun name _ => inRange_mainPacket ?_
            exact List.forall_mem_singleton.mpr { inRange_playerInfo with }
          · intro p hp
            cases hp
        · exact inRange_heartbeat _

theorem inRange_built (h : Ranged n (lobby st.cache)) (hn : n < 2 ^ 31 - 6) {a : Action}
    (ha : ∀ s m rand, a = .packet s m rand → UnPacket.InRange m) :
    ∀ p ∈ built sqlite st a, Packet.InRange p := by
  cases a with
  | accept s junk =>
    intro p hp
    cases hp
  | close s =>
    intro p hp
    cases hp
  | poll j now =>
    intro p hp
    obtain ⟨ptr, -, hp⟩ := List.mem_flatMap.mp hp
    exact inRange_builtTick h ptr p hp
  | packet s m rand =>
    have ha := ha s m rand rfl
    rw [built]
    split
    · rw [builtScene]
      split
      · exact forall_toList fun x _ => inRange_login x
      · exact forall_toList fun x _ => inRange_create x
      · have hreq := inRange_hallrequest ha
        exact List.forall_mem_map.mpr fun r hr =>
          inRange_hallPacket (inRange_builtHall h hn hreq rand r hr)
      · exact List.forall_mem_map.mpr (inRange_builtMain h (inRange_gamemainrequest ha))
      · intro p hp
        cases hp
    · intro p hp
      cases hp

theorem inRange_select (hint : IntColumns sqlite) {req : SelectRoleRequest} {db db' : DB}
    {c' : CCache} {out : Outbox} (h : SelectLogic sqlite s req db c = .ok (db', c', out)) :
    ∀ y ∈ out, Packet.InRange y.2 := by
  have hreply : ∀ r : SelectRoleReturn, (∀ i ∈ r.userid?, Value.IsInt32 i) →
      Packet.InRange (selectPacket r) := fun r hr =>
    { inRange_packet with selectrolereturn := of_some hr }
  rw [SelectLogic_eq] at h
  split at h
  · dsimp only at h
    split at h
    · cases h
      exact List.forall_mem_singleton.mpr (hreply {} of_none)
    · rename_i row hrow
      split at h
      · cases h
      · cases h
        have huser := isInt32_firstRow hint hrow 0
        exact List.forall_mem_singleton.mpr (hreply { userid? := _ } (of_some huser))
  · cases h
    intro y hy
    cases hy

theorem inRange_handled (hint : IntColumns sqlite) (h : Ranged n (lobby st.cache))
    (hn : n < 2 ^ 31 - 6) {a : Action} (ha : ∀ s m rand, a = .packet s m rand → UnPacket.InRange m)
    {st' : Process DB} {out : Outbox} (hout : handled sqlite st a = .ok (st', out)) :
    ∀ y ∈ out, Packet.InRange y.2 := by
  intro y hy
  obtain hbuilt | ⟨t, ht⟩ | ⟨s, m, rand, r, rfl, hm, -⟩ := handled_copied hout y hy
  · exact inRange_built h hn ha y.2 hbuilt
  · rw [ht]
    exact { inRange_packet with }
  · obtain ⟨-, hlogic⟩ := handled_packet hout hy
    simp only [ProcessMsgLogic, hm] at hlogic
    obtain ⟨x, hx, hlogic⟩ := of_bind_ok hlogic
    cases hlogic
    exact inRange_select hint hx y hy

end Packets

section Wire

variable {DB : Type} {sqlite : Sqlite DB} {db : DB} {st st' : Process DB} {out : Outbox}
  {tr : List (Process DB × Input)}

/-- The system gives out handles of 32 bits. -/
def OpensSockets (tr : List (Process DB × Input)) : Prop :=
  ∀ x ∈ tr, ∀ s junk, x.2 = .accept s junk → s < 2 ^ 32

theorem sized_input {i : Input} (h : ∀ s junk, i = .accept s junk → s < 2 ^ 32) :
    Sized (i.action wire) := by
  cases i with
  | accept s junk => exact h s junk rfl
  | close s => exact trivial
  | recv s chunk rand => exact inRange_parse chunk.bytes
  | poll j now => exact trivial

def roomBytes : Chunk where
  bytes := [8, 5, 90, 8, 16, 1, 26, 4, 114, 111, 111, 109]
  ne := by decide
  le := by decide

def listBytes : Chunk where
  bytes := [8, 5, 90, 2, 16, 2]
  ne := by decide
  le := by decide

def roomList : Packet := hallPacket
  { msgtype? := some .HST_GetRoomList
    hallinfo? := some ⟨[{ roomid? := some 111111, roomname? := some "room", personcount? := some 6
                          freepersoncount? := some 5
                          playerinfo := [{ roomstate? := some .RT_JoinRoom }] }]⟩ }

def opening : List Input := [.accept 7 0, .recv 7 roomBytes (List.replicate 6 0)]

def listsRoom (st : Process Unit) : Bool :=
  (inputStep wire noTables st (.recv 7 listBytes [])).toOption.any
    fun x : Process Unit × Outbox => decide (x.2 = [(7, roomList)])

end Wire

end JiraGame.RoundTrips
