/-
  The life of a session: it is opened for an accepted client, handles the events of its sockets, and
  is closed.
-/
import SocksProxy.Session.Handshake
import SocksProxy.Session.Tunnel

namespace SocksProxy

namespace Handler

/-! ## The stream of the client -/

/-- How many reads of unwanted bytes one event allows. -/
def maxDiscards : Nat := 4

/-- Reads unwanted bytes, in at most `n` reads: how many, and whether none are left. -/
def discardReads (ctx : Context) : (n : Nat) → (discarded : Nat) → Handler (Nat × Bool)
  | 0, discarded => return (discarded, false)
  | n + 1, discarded => do
    match ← attempt ((← session).client.stream.receive ctx.turns) with
    | .data b => discardReads ctx n (discarded + b.length)
    | .wouldBlock => return (discarded, true)
    | .closed => fail .peerClosed

/-- Throws away what a client sends when it has nothing to say. -/
def discard (ctx : Context) : Handler Unit := do
  let (discarded, drained) ← discardReads ctx maxDiscards 0
  if 0 < discarded then
    talk (Talk.log (.stage (← session).stage) .warn .session
      s!"Discarded {discarded} unexpected bytes from client")
  if !drained then onClientStream (·.resume)

/-- Reads from the client as its stage demands. -/
def readClient (ctx : Context) : Handler Unit := do
  let s ← session
  match s.stage with
  | .accepted | .authRequested | .authenticated =>
    if s.client.stream.hasPending then return
    readHandshake ctx ctx.turns
  | .connected => pumpClient ctx ctx.turns
  | .connecting => return
  | .resolving | .associated => discard ctx

/-- Writes what is scheduled for the client, and resumes what waited for it. -/
def flushClient (ctx : Context) : Handler Unit := do
  match ← onClientStream (·.flush ctx.turns) with
  | .pending => return
  | .drained =>
    onClientStream (·.resume)
    if (← session).stage = .connected then
      let _ ← onRemoteStream (·.resume)

/-- Handles an event of the client. -/
def onClient (ctx : Context) (r : Readiness) : Handler Unit := do
  if r.error then
    let socket := (← session).client.stream.socket
    fail (.transport (IoError.behindEvent (← ask (.pendingError socket))))
  if r.hangup then fail .peerClosed
  if r.writable then flushClient ctx
  if r.readable then readClient ctx

/-! ## All sockets -/

/-- Handles an event of the remote side. -/
def onRemote (ctx : Context) (r : Readiness) : Handler Unit := do
  let s ← session
  match s.remote with
  | none => return
  | some (.datagram socket) => onRemoteDatagram ctx r socket
  | some (.stream out) =>
    if s.stage = .connecting then onAttempt ctx r out else onTunnel ctx r

/-- Handles an event of a socket. -/
def onEvent (ctx : Context) (role : Role) (r : Readiness) : Handler Unit :=
  match role with
  | .client => onClient ctx r
  | .remote => onRemote ctx r
  | .relay => onRelay ctx r
  | .query slot => onLookup ctx slot r

end Handler

namespace Session

/-- Logs why a session ends. -/
def logEnd (stage : Stage) (why : SessionError) : Talk Unit :=
  match why with
  | .peerClosed => Talk.log (.stage stage) .debug .session "Peer closed connection"
  | .transport e => Talk.log (.stage stage) .error .session s!"Transport error: {e.text}"
  | e => Talk.log (.stage stage) .warn .session s!"Session terminated: {e.text}"

/-- Handles an event of a socket, and tells whether the session goes on. -/
def handle (ctx : Context) (role : Role) (r : Readiness) (w : Work) : Talk (Bool × Work) := do
  match ← (Handler.onEvent ctx role r).exec w with
  | (.ok (), w) => return (true, w)
  | (.error e, w) =>
    logEnd w.session.stage e
    return (false, w)

/-- The session of a client that was accepted just now, registered for reading. -/
def start (settings : Settings) (peer : Endpoint) : Talk (Except IoError Session) := do
  let socket : Socket := ⟨.client, 0⟩
  match ← Talk.tune socket settings.clientTcp.switches with
  | .error e => return .error e
  | .ok () =>
    match ← Dialogue.call (I := SessionNet) (.localAddress socket) with
    | .error e => return .error e
    | .ok localAddress =>
      match ← Dialogue.call (I := SessionNet) (.register socket .read) with
      | .error e => return .error e
      | .ok () => return .ok {
          stage := .accepted
          client := ⟨peer, localAddress, Stream.new socket .read⟩
          remote := none
          relay := none
          lookups := .replicate _ none
          inbound := []
          pending := none }

/-- Closes the remote side. Observers are told if it was connected. -/
def closeRemote : Remote → Talk Unit
  | .datagram socket => Talk.deregister socket
  | .stream out => do
    match out.attempts.peer with
    | some peer => let _ ← Dialogue.call (I := SessionNet) (.notify (.remoteDisconnected peer))
    | none => pure ()
    match out.stream with
    | some stream => stream.close
    | none => pure ()

/-- Closes every socket of a session, that of the client last. -/
def close (s : Session) : Talk Unit := do
  Talk.deregisterAll s.lookupSockets
  match s.relay with
  | some relay => Talk.deregister relay.socket
  | none => pure ()
  match s.remote with
  | some remote => closeRemote remote
  | none => pure ()
  s.client.stream.close
  let _ ← Dialogue.call (I := SessionNet) (.notify (.clientDisconnected s.client.peer))
  Talk.log .session .debug .session "Session closed"

end Session

end SocksProxy
