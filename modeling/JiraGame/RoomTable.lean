import JiraGame.MainScene
import JiraGame.AccountScenes
import Mathlib.Logic.Function.Basic

namespace JiraGame.RoomTable

open JiraGame.Scene JiraGame.Cache JiraGame.HallScene JiraGame.MainScene JiraGame.AccountScenes

/-- The rooms and the role infos of the connected clients, as functions. -/
@[ext] structure Lobby where
  room : Int → Option RoomInfo
  role : SOCKET → Option PlayerInfo

def emptyLobby : Lobby where
  room := fun _ => none
  role := fun _ => none

inductive JoinPath
  | joinTeam | joinRoom
deriving DecidableEq

inductive LeavePath
  | leaveRoom | joinRoom | keepAlive
deriving DecidableEq

/-- What handling a packet or a timer turn does to rooms and role infos. -/
inductive Event
  | quiet
  | enter (s : SOCKET)
  | evict (s : SOCKET)
  | select (s : SOCKET) (roletype : Int) (row : Option (Int × String))
  | wait (s : SOCKET)
  | start (s : SOCKET)
  | sync (s : SOCKET) (payload : PlayerInfo)
  | create (s : SOCKET) (id : Int) (roomname : String)
  | join (s : SOCKET) (k : Int) (team : TeamType) (teamid : Int) (via : JoinPath)
  | leave (s : SOCKET) (k : Int) (via : LeavePath)
  | gameOver (s : SOCKET) (k : Int)
deriving DecidableEq

/-- The entry a join appends for the client with role info `p`. -/
def entryOf (via : JoinPath) (s : SOCKET) (p : PlayerInfo) (r : RoomInfo) (team : TeamType)
    (teamid : Int) : PlayerInfo :=
  match via with
  | .joinTeam => memberEntry s p team teamid
  | .joinRoom => (memberEntry s p team teamid).set_roomid r.roomid

def joined (r : RoomInfo) (entry : PlayerInfo) : RoomInfo :=
  (r.set_freepersoncount (r.freepersoncount - 1)).add_playerinfo entry

/-- The roster that stays when the client with role info `p` leaves, and the
member that becomes owner. -/
def stay (via : LeavePath) (p : PlayerInfo) (ps : List PlayerInfo) :
    List PlayerInfo × Option PlayerInfo :=
  match via with
  | .joinRoom => copyOthers p.roleid true false false ps
  | _ => copyOthers p.roleid false p.isroomctl false ps

/-- The key under which a leave rebuilds the room it found under `k`. -/
def leaveKey (via : LeavePath) (k : Int) (r : RoomInfo) : Int :=
  match via with
  | .joinRoom => r.roomid
  | _ => k

namespace Lobby

def setRoom (l : Lobby) (k : Int) (o : Option RoomInfo) : Lobby :=
  { l with room := Function.update l.room k o }

def setRole (l : Lobby) (s : SOCKET) (o : Option PlayerInfo) : Lobby :=
  { l with role := Function.update l.role s o }

def modify (l : Lobby) (s : SOCKET) (f : PlayerInfo → PlayerInfo) : Lobby :=
  l.setRole s ((l.role s).map f)

def promote (l : Lobby) : Option PlayerInfo → Lobby
  | some q => l.modify q.socket (·.set_isroomctl true)
  | none => l

def apply (l : Lobby) : Event → Lobby
  | .quiet => l
  | .start _ => l
  | .enter s => l.setRole s (some {})
  | .evict s => l.setRole s none
  | .select s roletype row => l.modify s (selected roletype row)
  | .wait s => l.modify s fun p => p.set_gamewaite (!p.gamewaite)
  | .sync s payload => l.modify s (resync payload)
  | .create s id roomname =>
    match l.role s with
    | none => l
    | some p =>
      (if l.room id = none then l.setRoom id (some (newRoom s id roomname p)) else l).modify s
        (asOwner id)
  | .join s k team teamid via =>
    match l.room k, l.role s with
    | some r, some p =>
      (l.setRoom k (some (joined r (entryOf via s p r team teamid)))).modify s
        (asMember r.roomid team teamid)
    | _, _ => l
  | .leave s k via =>
    match l.room k, l.role s with
    | some r, some p =>
      if lastLeaves r then (l.setRoom (leaveKey via k r) none).modify s asIdle
      else
        ((l.promote (stay via p r.playerinfo).2).modify s asIdle).setRoom (leaveKey via k r)
          (some (leftRoom r (stay via p r.playerinfo).1))
    | _, _ => l
  | .gameOver _ k =>
    match l.room k with
    | none => l
    | some r =>
      { room := Function.update l.room k none
        role := fun t =>
          if t ∈ r.playerinfo.map PlayerInfo.socket then (l.role t).map (·.set_roomid 0)
          else l.role t }

/-- What the handlers have checked, or rely on, when an event happens. -/
def Enabled (l : Lobby) : Event → Prop
  | .quiet => True
  | .enter s => l.role s = none
  | .evict s => l.role s ≠ none
  | .select s _ _ => l.role s ≠ none
  | .wait s | .start s | .sync s _ => ∃ p r, l.role s = some p ∧ l.room p.roomid = some r
  | .create s id roomname =>
    ∃ p, l.role s = some p ∧ p.roomid = 0 ∧ roomname ≠ "" ∧ (id ≠ 0 → l.room id = none)
  | .join s k team teamid via =>
    ∃ p r, l.role s = some p ∧ l.room k = some r ∧ (∀ q ∈ r.playerinfo, q.seat ≠ (team, teamid)) ∧
      (via = .joinRoom → teamid ∈ [0, 1, 2])
  | .leave s k via =>
    ∃ p r, l.role s = some p ∧ l.room k = some r ∧
      (via = .joinRoom → ∃ q ∈ r.playerinfo, q.roleid = p.roleid) ∧
      (via ≠ .joinRoom → p.roomid = k)
  | .gameOver s k =>
    ∃ p, l.role s = some p ∧ p.roomid = k ∧
      ∀ r, l.room k = some r → ∀ q ∈ r.playerinfo, l.role q.socket ≠ none

@[simp] theorem room_setRoom (l : Lobby) (k j : Int) (o : Option RoomInfo) :
    (l.setRoom k o).room j = if j = k then o else l.room j := by
  simp [setRoom, Function.update_apply]

@[simp] theorem role_setRoom (l : Lobby) (k : Int) (o : Option RoomInfo) :
    (l.setRoom k o).role = l.role := rfl

@[simp] theorem room_setRole (l : Lobby) (s : SOCKET) (o : Option PlayerInfo) :
    (l.setRole s o).room = l.room := rfl

@[simp] theorem role_setRole (l : Lobby) (s t : SOCKET) (o : Option PlayerInfo) :
    (l.setRole s o).role t = if t = s then o else l.role t := by
  simp [setRole, Function.update_apply]

@[simp] theorem room_modify (l : Lobby) (s : SOCKET) (f : PlayerInfo → PlayerInfo) :
    (l.modify s f).room = l.room := rfl

@[simp] theorem role_modify (l : Lobby) (s t : SOCKET) (f : PlayerInfo → PlayerInfo) :
    (l.modify s f).role t = if t = s then (l.role s).map f else l.role t := by
  simp [modify]

@[simp] theorem room_promote (l : Lobby) (o : Option PlayerInfo) : (l.promote o).room = l.room := by
  cases o <;> rfl

theorem roles_setRole_iff {l : Lobby} {s : SOCKET} {P : SOCKET → PlayerInfo → Prop}
    (h : ∀ t p, l.role t = some p → P t p) (o : Option PlayerInfo) :
    (∀ t p, (l.setRole s o).role t = some p → P t p) ↔ ∀ p, o = some p → P s p := by
  refine ⟨?_, ?_⟩
  · intro hall p hp
    apply hall s p
    rw [role_setRole, if_pos rfl, hp]
  · intro ho t p hp
    rw [role_setRole] at hp
    split at hp
    · rename_i ht
      rw [ht]
      exact ho p hp
    · exact h t p hp

theorem roles_modify_iff {l : Lobby} {s : SOCKET} {f : PlayerInfo → PlayerInfo}
    {P : SOCKET → PlayerInfo → Prop} (h : ∀ t p, l.role t = some p → P t p) :
    (∀ t p, (l.modify s f).role t = some p → P t p) ↔ ∀ p, l.role s = some p → P s (f p) := by
  rw [modify, roles_setRole_iff h]
  refine ⟨?_, ?_⟩
  · intro hf p hp
    apply hf
    rw [hp, Option.map_some]
  · intro hf p hp
    obtain ⟨q, hq, rfl⟩ := Option.map_eq_some_iff.mp hp
    exact hf q hq

section Readings

variable {β : Type} (g : Option PlayerInfo → β) (l : Lobby) (s : SOCKET) {f : PlayerInfo → PlayerInfo}

theorem read_setRole (o : Option PlayerInfo) : (fun t => g ((l.setRole s o).role t)) =
    Function.update (fun t => g (l.role t)) s (g o) := by
  funext t
  by_cases ht : t = s
  · subst ht
    simp
  · rw [Function.update_of_ne ht]
    simp [ht]

theorem read_modify_same (hf : ∀ o, g (o.map f) = g o) :
    (fun t => g ((l.modify s f).role t)) = fun t => g (l.role t) := by
  rw [modify, read_setRole, hf, Function.update_eq_self]

end Readings

end Lobby

def lobby (c : CCache) : Lobby where
  room := c.FindEntityRoom
  role := fun s => (c.GetEntity s).map (·.roleInfo)

variable (c : CCache)

theorem room_lobby (k : Int) : (lobby c).room k = c.FindEntityRoom k := rfl

theorem role_lobby (s : SOCKET) : (lobby c).role s = (c.GetEntity s).map (·.roleInfo) := rfl

theorem role_of_entity {s : SOCKET} {e : CClientEntity} (h : c.GetEntity s = some e) :
    (lobby c).role s = some e.roleInfo := by
  rw [role_lobby, h]
  rfl

theorem lobby_writeRoom (k : Int) (r : RoomInfo) :
    lobby (c.writeRoom k r) = (lobby c).setRoom k (some r) := by
  apply Lobby.ext
  · funext j
    by_cases h : j = k
    · simp [lobby, CCache.writeRoom, CCache.FindEntityRoom, h]
    · simp [lobby, CCache.writeRoom, CCache.FindEntityRoom, Std.TreeMap.getElem?_insert, h, Ne.symm h]
  · rfl

theorem lobby_removeRoom (k : Int) :
    lobby (c.EntityRoomRemoveMember k) = (lobby c).setRoom k none := by
  apply Lobby.ext
  · funext j
    by_cases h : j = k
    · simp [lobby, CCache.EntityRoomRemoveMember, CCache.FindEntityRoom, h]
    · simp [lobby, CCache.EntityRoomRemoveMember, CCache.FindEntityRoom,
        Std.TreeMap.getElem?_erase, h, Ne.symm h]
  · rfl

theorem lobby_createRoom (id : Int) (r : RoomInfo) :
    lobby (c.CreateRoom id r) =
      if (lobby c).room id = none then (lobby c).setRoom id (some r) else lobby c := by
  by_cases h : c.FindEntityRoom id = none
  · rw [CCache.CreateRoom_new h, room_lobby, if_pos h, lobby_writeRoom]
  · rw [CCache.CreateRoom_used h, room_lobby, if_neg h]

theorem lobby_writeEntity (s : SOCKET) (e : CClientEntity) :
    lobby (c.writeEntity s e) = (lobby c).setRole s (some e.roleInfo) := by
  apply Lobby.ext
  · rfl
  · funext t
    by_cases h : t = s
    · simp [lobby, CCache.writeEntity, CCache.GetEntity, Std.TreeMap.getElem?_insert, h]
    · simp [lobby, CCache.writeEntity, CCache.GetEntity, Std.TreeMap.getElem?_insert, h, Ne.symm h]

theorem lobby_eraseEntity (s : SOCKET) : lobby (c.EraseEntity s) = (lobby c).setRole s none := by
  apply Lobby.ext
  · rfl
  · funext t
    by_cases h : t = s
    · simp [lobby, CCache.EraseEntity, CCache.GetEntity, Std.TreeMap.getElem?_erase, h]
    · simp [lobby, CCache.EraseEntity, CCache.GetEntity, Std.TreeMap.getElem?_erase, h, Ne.symm h]

theorem lobby_writeEntity_same {s : SOCKET} {e e' : CClientEntity} (h : c.GetEntity s = some e)
    (he : e'.roleInfo = e.roleInfo) : lobby (c.writeEntity s e') = lobby c := by
  rw [lobby_writeEntity, he]
  apply Lobby.ext
  · rfl
  · funext t
    by_cases ht : t = s
    · simp [ht, role_of_entity c h]
    · simp [ht]

theorem lobby_writeRoleInfo (s : SOCKET) (f : PlayerInfo → PlayerInfo) :
    lobby (c.writeRoleInfo s f) = (lobby c).modify s f := by
  rw [CCache.writeRoleInfo]
  cases h : c.GetEntity s with
  | some e =>
    rw [lobby_writeEntity, Lobby.modify, role_of_entity c h]
    rfl
  | none =>
    have hr : (lobby c).role s = none := by rw [role_lobby, h]; rfl
    apply Lobby.ext
    · rfl
    · funext t
      by_cases ht : t = s
      · simp [ht, hr]
      · simp [ht]

theorem lobby_addMember (k : Int) (p : PlayerInfo) :
    lobby (c.EntityRoomAddMember k p) =
      match (lobby c).room k with
      | some r => (lobby c).setRoom k (some (r.add_playerinfo p))
      | none => lobby c := by
  rw [CCache.EntityRoomAddMember]
  rw [room_lobby]
  cases c.FindEntityRoom k with
  | some r => exact lobby_writeRoom c k _
  | none => rfl

end JiraGame.RoomTable
