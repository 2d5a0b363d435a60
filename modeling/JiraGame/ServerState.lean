import JiraGame.AccountScenes

namespace JiraGame.ServerState

open JiraGame.Scene JiraGame.Command JiraGame.Cache

/-- The argument of a timer callback; of the stored message only the reported
scene is read. -/
structure CKeepAliveInfo where
  clientSocket : SOCKET
  RecMessage : UnPacket

/-- One run of `SetTimerMutexThread` on the entity at address `self`, which was
accepted on `sockClient`. -/
structure TimerLoop where
  self : Nat
  sockClient : SOCKET
  running : Bool := true

/-- The state of the process. `erased` holds the entities that were evicted
but not freed, `infos` the keep-alive records that are still allocated, and
`nextAddr` the next address to be allocated. `g_CliSocketArr` is the array up to
`g_iTotalConn`, and `preTime` the static of the timer loop. -/
structure Process (DB : Type) where
  cache : CCache := {}
  erased : List CClientEntity := []
  m_CObCServers : Std.TreeMap SOCKET (Option SOCKET) := ∅
  keepAliveInfoMap : Std.TreeMap SOCKET Nat := ∅
  infos : Std.TreeMap Nat CKeepAliveInfo := ∅
  nextAddr : Nat := 0
  loops : List TimerLoop := []
  preTime : Option Nat := none
  g_CliSocketArr : List SOCKET := []
  db : DB

variable {DB : Type}

def StopTimerMutex (e : CClientEntity) : CClientEntity :=
  { e with m_ThreadPower := true, m_iSendMsgCount := 0 }

/-- Store the callback argument in the entity and start a loop for it. -/
def SetTimerMutex (s : SOCKET) (e : CClientEntity) (deltaTime : Nat) (arg : Nat) (st : Process DB) :
    Process DB :=
  { st with
    cache := st.cache.writeEntity s { e with m_pTimeFuncArg := some arg, m_iDeltaTime := deltaTime,
                                             m_HasThread := true, m_ThreadPower := false }
    loops := st.loops ++ [{ self := e.addr, sockClient := s }] }

end JiraGame.ServerState
