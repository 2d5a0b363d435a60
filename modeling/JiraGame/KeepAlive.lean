import JiraGame.MainScene
import JiraGame.ServerState

namespace JiraGame.KeepAlive

open JiraGame.Scene JiraGame.Command JiraGame.Cache JiraGame.HallScene JiraGame.MainScene
open JiraGame.ServerState

variable {DB : Type}

/-- Overwrite the message of the record that the map points to. -/
def storeMessage (s : SOCKET) (m : UnPacket) (st : Process DB) : Except Fault (Process DB) :=
  match st.keepAliveInfoMap[s]? with
  | none => .ok st
  | some ptr =>
    match st.infos[ptr]? with
    | none => .error .danglingInfo
    | some info => .ok { st with infos := st.infos.insert ptr { info with RecMessage := m } }

/-- The two scenes whose reports overwrite a stored message. -/
def storeReport (s : SOCKET) (m : UnPacket) (st : Process DB) : Except Fault (Process DB) :=
  if m.keepalive.curscene = .CS_WaitRoom then storeMessage s m st
  else if m.keepalive.curscene = .CS_MainScene then storeMessage s m st
  else .ok st

def Start (s : SOCKET) (m : UnPacket) (st : Process DB) : Except Fault (Process DB × Outbox) :=
  match st.cache.GetEntity s with
  | none => .ok (st, [])
  | some e => do
    let st ← storeReport s m st
    let e := { e with m_iSendMsgCount := 0, isBroken := false }
    if e.m_HasThread then .ok ({ st with cache := st.cache.writeEntity s e }, [])
    else
      let ptr := st.nextAddr
      let st := { st with infos := st.infos.insert ptr { clientSocket := s, RecMessage := m },
                          keepAliveInfoMap := st.keepAliveInfoMap.insert s ptr,
                          nextAddr := ptr + 1 }
      .ok (SetTimerMutex s e 1 ptr st, [])

def LeaveRoom (s : SOCKET) (c : CCache) : Except Fault (CCache × Outbox) := leaveOwnRoom s c

/-- The notice to the other members that a player dropped out of the game. -/
def breakLine (s : SOCKET) (c : CCache) : Except Fault Outbox :=
  match c.GetEntity s with
  | none => .error .nullEntity
  | some e =>
    match c.FindEntityRoom e.roleInfo.roomid with
    | none => .ok []
    | some r =>
      let friend := ({} : PlayerInfo).set_name e.roleInfo.name
      let ret : GameMainReturn := { msgtype? := some .GMT_BreakLine, friendlist := [friend] }
      .ok (((r.playerinfo.map PlayerInfo.socket).filter (· ≠ s)).map fun t => (t, mainPacket ret))

def heartbeatNotice (s : SOCKET) (scene : CurScene) : Outbox :=
  match scene with
  | .CS_WaitRoom => [(s, hallPacket { msgtype? := some .HST_KeepAlive })]
  | .CS_MainScene => [(s, mainPacket { msgtype? := some .GMT_KeepAlive })]
  | _ => []

def leaveBand (e : CClientEntity) : Bool := 3 ≤ e.m_iSendMsgCount && e.m_iSendMsgCount < 10

def breakBand (e : CClientEntity) : Bool := 10 ≤ e.m_iSendMsgCount && e.m_iSendMsgCount < 30

/-- A write through the entity pointer that a tick holds. -/
def writeTimed (s : SOCKET) (f : CClientEntity → CClientEntity) (c : CCache) : CCache :=
  match c.GetEntity s with
  | some e => c.writeEntity s (f e)
  | none => c

/-- The end of a tick that does not evict: the notice and the count. -/
def endTick (s : SOCKET) (scene : CurScene) (c : CCache) (out : Outbox) : CCache × Outbox :=
  (writeTimed s (fun e => { e with m_iSendMsgCount := e.m_iSendMsgCount + 1 }) c,
    out ++ heartbeatNotice s scene)

/-- The first two bands of `TimerFunc` and the ticks before them. -/
def countedTick (s : SOCKET) (scene : CurScene) (e : CClientEntity) (c : CCache) :
    Except Fault (CCache × Outbox) := do
  if leaveBand e then
    let (c, out) ← if !e.isBroken && scene = .CS_WaitRoom then LeaveRoom s c else .ok (c, [])
    .ok (endTick s scene (writeTimed s (fun e => { e with isBroken := true }) c) out)
  else if breakBand e then
    let out ← if e.isBroken && scene = .CS_MainScene then breakLine s c else .ok []
    .ok (endTick s scene (writeTimed s (fun e => { e with isBroken := false }) c) out)
  else .ok (endTick s scene c [])

/-- The eviction of an entity; the object stays allocated for its loops, and
the map of the records keeps its pointer. -/
def evict (s : SOCKET) (ptr : Nat) (e : CClientEntity) (st : Process DB) : Process DB :=
  { st with cache := st.cache.EraseEntity s
            m_CObCServers := st.m_CObCServers.erase s
            infos := st.infos.erase ptr
            erased := st.erased ++ [StopTimerMutex { e with isBroken := true }] }

def TimerFunc (self : Option Nat) (st : Process DB) : Except Fault (Process DB × Outbox) :=
  match self with
  | none => .ok (st, [])
  | some ptr =>
    match st.infos[ptr]? with
    | none => .error .danglingInfo
    | some info =>
      match st.cache.GetEntity info.clientSocket with
      | none => .ok (st, [])
      | some e =>
        if 30 ≤ e.m_iSendMsgCount then .ok (evict info.clientSocket ptr e st, [])
        else do
          let (c, out) ← countedTick info.clientSocket info.RecMessage.keepalive.curscene e st.cache
          .ok ({ st with cache := c }, out)

/-- The entity a loop runs on: the stored one while it is at the address, else
the evicted object. -/
def loopEntity (l : TimerLoop) (st : Process DB) : Option CClientEntity :=
  match st.cache.GetEntity l.sockClient with
  | some e =>
    if e.addr = l.self then some e else st.erased.find? (fun e => e.addr = l.self)
  | none => st.erased.find? (fun e => e.addr = l.self)

/-- One turn of loop `j` when the clock reads `now`. -/
def poll (j : Nat) (now : Nat) (st : Process DB) : Except Fault (Process DB × Outbox) :=
  match st.loops[j]? with
  | none => .ok (st, [])
  | some l =>
    match loopEntity l st with
    | none => .ok (st, [])
    | some e =>
      if !l.running then .ok (st, [])
      else if e.m_ThreadPower then
        .ok ({ st with loops := st.loops.set j { l with running := false } }, [])
      else
        let preTime := st.preTime.getD now
        if preTime + e.m_iDeltaTime < now then do
          let (st, out) ← TimerFunc e.m_pTimeFuncArg st
          .ok ({ st with preTime := some now }, out)
        else .ok ({ st with preTime := some preTime }, [])

end JiraGame.KeepAlive
