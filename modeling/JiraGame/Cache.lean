import JiraGame.Command
import JiraGame.Utilitys
import Std.Data.TreeMap
import Std.Data.TreeMap.Lemmas

namespace JiraGame.Cache

open JiraGame.Scene JiraGame.Command

/-- Why handling an event does not come back. The first three are uses of a
NULL lookup result or of the first entry of an empty roster. -/
inductive Fault
  | nullEntity
  | nullRoom
  | emptyRoster
  | danglingInfo
  | nullText
  | outOfBounds
  | unfinished
deriving DecidableEq

/-- The address and the buffers of a connection are left to the transport.
`addr` is the address of the object, which its timer loops hold. -/
structure CClientEntity where
  addr : Nat
  sockClient : SOCKET
  SessionID : String := ""
  isBroken : Bool := false
  m_ThreadPower : Bool := false
  m_HasThread : Bool := false
  m_iDeltaTime : Nat := 0
  m_pTimeFuncArg : Option Nat := none
  m_iSendMsgCount : Int
  roleInfo : PlayerInfo := {}
deriving DecidableEq

structure CCache where
  m_mEntityRoom : Std.TreeMap Int RoomInfo := ∅
  m_mCClientEntity : Std.TreeMap SOCKET CClientEntity := ∅

namespace CCache

def CheckEntityRoomIsOnly (c : CCache) (_id : Int) : Bool := !c.m_mEntityRoom.contains _id

def GetEntity (c : CCache) (socket : SOCKET) : Option CClientEntity := c.m_mCClientEntity[socket]?

def CheckSessionValid (c : CCache) (socket : SOCKET) (sessionID : String) : Bool :=
  match c.GetEntity socket with
  | some e => e.SessionID = sessionID
  | none => false

def EraseEntity (c : CCache) (socket : SOCKET) : CCache :=
  { c with m_mCClientEntity := c.m_mCClientEntity.erase socket }

def SetEntity (c : CCache) (socket : SOCKET) (e : CClientEntity) : CCache :=
  if c.m_mCClientEntity.contains socket then c
  else { c with m_mCClientEntity := c.m_mCClientEntity.insert socket e }

def GetEntitys (c : CCache) : List (SOCKET × CClientEntity) := c.m_mCClientEntity.toList

def CreateRoom (c : CCache) (id : Int) (roomInfo : RoomInfo) : CCache :=
  if c.m_mEntityRoom.contains id then c
  else { c with m_mEntityRoom := c.m_mEntityRoom.insert id roomInfo }

def FindEntityRoom (c : CCache) (roomID : Int) : Option RoomInfo := c.m_mEntityRoom[roomID]?

def GetEntityRooms (c : CCache) : List (Int × RoomInfo) := c.m_mEntityRoom.toList

/-- 0 stands for "no such user", as NULL does in the source. -/
def GetEntitySocket (c : CCache) (userID : Int) : SOCKET :=
  match c.GetEntitys.find? (fun x => x.2.roleInfo.roleid = userID) with
  | some x => x.2.sockClient
  | none => 0

/-- A write through the pointer that `FindEntityRoom` returned. -/
def writeRoom (c : CCache) (roomID : Int) (roomInfo : RoomInfo) : CCache :=
  { c with m_mEntityRoom := c.m_mEntityRoom.insert roomID roomInfo }

def writeEntity (c : CCache) (socket : SOCKET) (e : CClientEntity) : CCache :=
  { c with m_mCClientEntity := c.m_mCClientEntity.insert socket e }

def writeRoleInfo (c : CCache) (socket : SOCKET) (f : PlayerInfo → PlayerInfo) : CCache :=
  match c.GetEntity socket with
  | some e => c.writeEntity socket { e with roleInfo := f e.roleInfo }
  | none => c

def EntityRoomAddMember (c : CCache) (roomID : Int) (pPlayerInfo : PlayerInfo) : CCache :=
  match c.FindEntityRoom roomID with
  | some r => c.writeRoom roomID (r.add_playerinfo pPlayerInfo)
  | none => c

def EntityRoomRemoveMember (c : CCache) (roomID : Int) : CCache :=
  { c with m_mEntityRoom := c.m_mEntityRoom.erase roomID }

theorem isOnly_iff {c : CCache} {id : Int} :
    c.CheckEntityRoomIsOnly id = true ↔ c.FindEntityRoom id = none := by
  rw [CheckEntityRoomIsOnly, FindEntityRoom, Bool.not_eq_true',
    ← Std.TreeMap.isSome_getElem?_eq_contains, Option.isSome_eq_false_iff, Option.isNone_iff_eq_none]

theorem CreateRoom_new {c : CCache} {id : Int} (h : c.FindEntityRoom id = none) (r : RoomInfo) :
    c.CreateRoom id r = c.writeRoom id r := by
  have hnew : c.m_mEntityRoom.contains id = false := by
    rw [← Bool.not_eq_true']
    exact isOnly_iff.mpr h
  rw [CreateRoom, hnew, if_neg Bool.false_ne_true, writeRoom]

theorem CreateRoom_used {c : CCache} {id : Int} (h : c.FindEntityRoom id ≠ none) (r : RoomInfo) :
    c.CreateRoom id r = c := by
  have hused : c.m_mEntityRoom.contains id = true := by
    rw [← Bool.not_eq_false, ← Bool.not_eq_true']
    exact fun honly => h (isOnly_iff.mp honly)
  rw [CreateRoom, if_pos hused]

theorem SetEntity_new {c : CCache} {s : SOCKET} (h : c.GetEntity s = none) (e : CClientEntity) :
    c.SetEntity s e = c.writeEntity s e := by
  have hnew : ¬ c.m_mCClientEntity.contains s = true := by
    rw [← Std.TreeMap.isSome_getElem?_eq_contains, Option.not_isSome_iff_eq_none]
    exact h
  rw [SetEntity, if_neg hnew, writeEntity]

end CCache

end JiraGame.Cache
