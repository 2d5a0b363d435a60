import JiraGame.Lib.ProtoWire
import Mathlib.Data.List.Basic

namespace JiraGame.Scene

open JiraGame.Lib.ProtoWire

/-- A socket handle. The project builds for Win32 only, where SOCKET and the
int32 of a message convert into each other without loss. -/
abbrev SOCKET := Nat

inductive TeamType
  | Team_A | Team_B
deriving DecidableEq

def TeamType.toInt : TeamType → Int
  | .Team_A => 1
  | .Team_B => 2

inductive RoomType
  | RT_Idle | RT_JoinRoom | RT_Wait | RT_OK
deriving DecidableEq

inductive PlayerStatus
  | PS_None | PS_Idle | PS_Run | PS_Q | PS_W | PS_E | PS_R | PS_Death | PS_CDing
deriving DecidableEq

structure Position3D where
  x? : Option String := none
  y? : Option String := none
  z? : Option String := none
  unknown : List Field := []
deriving DecidableEq

/-- Every field keeps its has-bit; floats are their 32 bits, since the server
only copies them. What the schema does not know is kept, too, and copied along:
only the three messages that leave the server again have room for it. -/
structure PlayerInfo where
  socket? : Option SOCKET := none
  isroomctl? : Option Bool := none
  roleid? : Option Int := none
  roletype? : Option Int := none
  name? : Option String := none
  level? : Option Int := none
  hp? : Option UInt32 := none
  mp? : Option UInt32 := none
  attack? : Option UInt32 := none
  movespeed? : Option UInt32 := none
  team? : Option TeamType := none
  roomstate? : Option RoomType := none
  roomid? : Option Int := none
  teamid? : Option Int := none
  gamewaite? : Option Bool := none
  pos? : Option Position3D := none
  rot? : Option Position3D := none
  scale? : Option Position3D := none
  playerstatus? : Option PlayerStatus := none
  unknown : List Field := []
deriving DecidableEq

namespace PlayerInfo

def socket (p : PlayerInfo) : SOCKET := p.socket?.getD 0
def isroomctl (p : PlayerInfo) : Bool := p.isroomctl?.getD false
def roleid (p : PlayerInfo) : Int := p.roleid?.getD 0
def roletype (p : PlayerInfo) : Int := p.roletype?.getD 0
def name (p : PlayerInfo) : String := p.name?.getD ""
def team (p : PlayerInfo) : TeamType := p.team?.getD .Team_A
def roomstate (p : PlayerInfo) : RoomType := p.roomstate?.getD .RT_Idle
def roomid (p : PlayerInfo) : Int := p.roomid?.getD 0
def teamid (p : PlayerInfo) : Int := p.teamid?.getD 0
def gamewaite (p : PlayerInfo) : Bool := p.gamewaite?.getD false

def set_socket (p : PlayerInfo) (v : SOCKET) : PlayerInfo := { p with socket? := some v }
def set_isroomctl (p : PlayerInfo) (v : Bool) : PlayerInfo := { p with isroomctl? := some v }
def set_roleid (p : PlayerInfo) (v : Int) : PlayerInfo := { p with roleid? := some v }
def set_roletype (p : PlayerInfo) (v : Int) : PlayerInfo := { p with roletype? := some v }
def set_name (p : PlayerInfo) (v : String) : PlayerInfo := { p with name? := some v }
def set_team (p : PlayerInfo) (v : TeamType) : PlayerInfo := { p with team? := some v }
def set_roomstate (p : PlayerInfo) (v : RoomType) : PlayerInfo := { p with roomstate? := some v }
def set_roomid (p : PlayerInfo) (v : Int) : PlayerInfo := { p with roomid? := some v }
def set_teamid (p : PlayerInfo) (v : Int) : PlayerInfo := { p with teamid? := some v }
def set_gamewaite (p : PlayerInfo) (v : Bool) : PlayerInfo := { p with gamewaite? := some v }

def seat (p : PlayerInfo) : TeamType × Int := (p.team, p.teamid)

end PlayerInfo

/-- The counters are int32 in the schema. They move by one for each request and
never leave the int32 range before a room has had 2^31 requests, so they are
plain integers here. -/
structure RoomInfo where
  roomid? : Option Int := none
  roomname? : Option String := none
  personcount? : Option Int := none
  freepersoncount? : Option Int := none
  playerinfo : List PlayerInfo := []
deriving DecidableEq

namespace RoomInfo

def roomid (r : RoomInfo) : Int := r.roomid?.getD 0
def roomname (r : RoomInfo) : String := r.roomname?.getD ""
def personcount (r : RoomInfo) : Int := r.personcount?.getD 0
def freepersoncount (r : RoomInfo) : Int := r.freepersoncount?.getD 0

def set_freepersoncount (r : RoomInfo) (v : Int) : RoomInfo := { r with freepersoncount? := some v }
def add_playerinfo (r : RoomInfo) (p : PlayerInfo) : RoomInfo :=
  { r with playerinfo := r.playerinfo ++ [p] }

end RoomInfo

structure HallInfo where
  roominfo : List RoomInfo := []
deriving DecidableEq

structure InviteInfo where
  roomid? : Option Int := none
  requserid? : Option Int := none
  requsername? : Option String := none
  revuserid? : Option Int := none
  team? : Option TeamType := none
  teamid? : Option Int := none
  unknown : List Field := []
deriving DecidableEq

namespace InviteInfo

def roomid (i : InviteInfo) : Int := i.roomid?.getD 0
def revuserid (i : InviteInfo) : Int := i.revuserid?.getD 0
def team (i : InviteInfo) : TeamType := i.team?.getD .Team_A
def teamid (i : InviteInfo) : Int := i.teamid?.getD 0

end InviteInfo

end JiraGame.Scene
