import JiraGame.KeepAlive

namespace JiraGame.Server

open JiraGame.Scene JiraGame.Command JiraGame.DBServer JiraGame.Cache JiraGame.HallScene
open JiraGame.MainScene JiraGame.AccountScenes JiraGame.ServerState JiraGame.KeepAlive

def FD_SETSIZE : Nat := 64

def INVALID_SOCKET : SOCKET := 4294967295

/-- What the environment does: a connection is accepted on a handle (the
memory of the new entity's uninitialised counter holds `junk`), a connection is
closed by its client, a message arrives while `rand()` is about to produce
`rand`, or timer loop `j` takes a turn when the clock reads `now`. -/
inductive Action
  | accept (s : SOCKET) (junk : Int)
  | close (s : SOCKET)
  | packet (s : SOCKET) (m : UnPacket) (rand : List Nat)
  | poll (j : Nat) (now : Nat)

variable {DB : Type} (sqlite : Sqlite DB)

def start (db : DB) : Process DB := { db := db }

/-- `CJiraEvent::SendMsg` looks the listener up with `[]`, which stores a null
pointer where there is none. -/
def SendMsg (m : SOCKET × Packet) (x : Process DB × Outbox) : Process DB × Outbox :=
  match x.1.m_CObCServers[m.1]? with
  | some (some sockClient) => (x.1, x.2 ++ [(sockClient, m.2)])
  | some none => x
  | none => ({ x.1 with m_CObCServers := x.1.m_CObCServers.insert m.1 none }, x.2)

/-- Hand the packets of a handler to the listeners; the second component is
what `NotifyClient` writes to the sockets. -/
def deliver (x : Process DB × Outbox) : Process DB × Outbox :=
  x.2.foldl (fun y m => SendMsg m y) (x.1, [])

/-- The body of the accept loop for one handle. The system never returns a
handle that is still open. -/
def StartCServer (s : SOCKET) (junk : Int) (st : Process DB) : Except Fault (Process DB) :=
  if s ∈ st.g_CliSocketArr then .ok st
  else
    let st := match st.cache.GetEntity s with
      | none =>
        let e : CClientEntity := { addr := st.nextAddr, sockClient := s, m_iSendMsgCount := junk }
        { st with cache := st.cache.SetEntity s e
                  m_CObCServers := st.m_CObCServers.insert s (some s)
                  nextAddr := st.nextAddr + 1 }
      | some e =>
        let e := StopTimerMutex { e with isBroken := false, m_HasThread := false }
        { st with cache := st.cache.writeEntity s e }
    if s = INVALID_SOCKET then .ok st
    else if FD_SETSIZE ≤ st.g_CliSocketArr.length then .error .outOfBounds
    else .ok { st with g_CliSocketArr := st.g_CliSocketArr ++ [s] }

/-- The worker reads a socket when it is in the array and the array is below
the limit that makes the worker skip `select`. -/
def readable (s : SOCKET) (st : Process DB) : Bool :=
  s ∈ st.g_CliSocketArr && st.g_CliSocketArr.length < FD_SETSIZE

/-- The last socket of the array moves to the place of the closed one. -/
def dropSocket (s : SOCKET) (arr : List SOCKET) : List SOCKET :=
  match arr.getLast? with
  | none => []
  | some last => (arr.map fun t => if t = s then last else t).dropLast

def ProcessMsgLogic (s : SOCKET) (m : UnPacket) (rand : List Nat) (st : Process DB) :
    Except Fault (Process DB × Outbox) :=
  match m.curscene with
  | .CS_KeepAlive => Start s m st
  | .CS_Login => do
    let (db, c, out) ← LoginLogic sqlite s m.loginrequest rand st.db st.cache
    .ok ({ st with db := db, cache := c }, out)
  | .CS_CreateRole => do
    let (db, c, out) ← CreateLogic sqlite s m.createrolerequest st.db st.cache
    .ok ({ st with db := db, cache := c }, out)
  | .CS_Register =>
    if s = 0 then .ok (st, [])
    else do
      let (db, c, out) ← RegisterLogic sqlite s m.registerrequest st.db st.cache
      .ok ({ st with db := db, cache := c }, out)
  | .CS_SelectRole => do
    let (db, c, out) ← SelectLogic sqlite s m.selectrolerequest st.db st.cache
    .ok ({ st with db := db, cache := c }, out)
  | .CS_WaitRoom => do
    let (c, out) ← hallLogic s m.hallrequest rand st.cache
    .ok ({ st with cache := c }, out)
  | .CS_MainScene => do
    let (c, out) ← MainLogic s m.gamemainrequest st.cache
    .ok ({ st with cache := c }, out)
  | _ => .ok (st, [])

def receive (s : SOCKET) (m : UnPacket) (rand : List Nat) (st : Process DB) :
    Except Fault (Process DB × Outbox) :=
  if readable s st then
    match st.cache.GetEntity s with
    | none => .ok (st, [])
    | some _ => ProcessMsgLogic sqlite s m rand st
  else .ok (st, [])

/-- One atomic step of the process and what it writes to the sockets. -/
def step (st : Process DB) : Action → Except Fault (Process DB × Outbox)
  | .accept s junk => (StartCServer s junk st).map fun st => (st, [])
  | .close s =>
    if readable s st then
      .ok ({ st with g_CliSocketArr := dropSocket s st.g_CliSocketArr }, [])
    else .ok (st, [])
  | .packet s m rand => (receive sqlite s m rand st).map deliver
  | .poll j now => (poll j now st).map deliver

def Steps (st : Process DB) (a : Action) (st' : Process DB) : Prop :=
  ∃ out, step sqlite st a = .ok (st', out)

end JiraGame.Server
