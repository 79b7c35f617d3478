/-
  What a session asks of the network, and what it tells its observers.

  A session knows its sockets by role and number, and all calls are about sockets of its own. So a
  dialogue through `SessionNet` cannot touch another session.
-/
import SocksProxy.Config.Settings
import SocksProxy.Dialogue
import SocksProxy.Log
import SocksProxy.Net.IoError
import SocksProxy.Poll.Batch
import SocksProxy.Session.Stage

namespace SocksProxy

/-- A socket of a session: its role, and how many sockets the session had in this role before. -/
structure Socket where
  role : Role
  serial : Nat
  deriving DecidableEq, Repr

/-- How a line of the log is marked. -/
inductive LogMark where
  | unmarked
  /-- With the session. -/
  | session
  /-- With the session and its stage. -/
  | stage (s : Stage)
  deriving DecidableEq, Repr

/-- What observers are told about a session. -/
inductive Notice where
  | clientDisconnected (peer : Endpoint)
  | remoteConnected (peer : Endpoint)
  | remoteDisconnected (peer : Endpoint)
  deriving DecidableEq, Repr

/-- Bytes of which there are at most `max`. -/
abbrev Chunk (max : Nat) : Type :=
  { b : Bytes // b.length ≤ max }

/-- A call of a session. -/
inductive SessionCall where
  /-- Turns a switch of a stream on. -/
  | tune (s : Socket) (switch : TcpSwitch)
  | localAddress (s : Socket)
  | peerAddress (s : Socket)
  /-- Asks for the error that a socket has pending. -/
  | pendingError (s : Socket)
  /-- Opens a stream and starts to connect it. -/
  | connect (s : Socket) (target : Endpoint)
  /-- Opens a datagram socket. -/
  | bindDatagram (s : Socket) (addr : Endpoint)
  | register (s : Socket) (interest : Interest)
  | reregister (s : Socket) (interest : Interest)
  | deregister (s : Socket)
  /-- Shuts both directions of a stream down. -/
  | shutdown (s : Socket)
  /-- Reads from a stream; no bytes mean that the peer closed it. -/
  | receive (s : Socket) (max : Nat)
  | send (s : Socket) (data : Bytes)
  | receiveFrom (s : Socket) (max : Nat)
  | sendTo (s : Socket) (data : Bytes) (dest : Endpoint)
  | log (mark : LogMark) (line : LogLine)
  | notify (notice : Notice)
  deriving DecidableEq, Repr

/-- What a call of a session is answered with. -/
def SessionCall.Answer : SessionCall → Type
  | tune _ _ | connect _ _ | bindDatagram _ _ | register _ _ | reregister _ _ | deregister _
  | shutdown _ | sendTo _ _ _ => Except IoError Unit
  | localAddress _ | peerAddress _ => Except IoError Endpoint
  | pendingError _ => Except IoError (Option IoError)
  | receive _ max => Except IoError (Chunk max)
  | send _ data => Except IoError (Fin (data.length + 1))
  | receiveFrom _ max => Except IoError (Chunk max × Endpoint)
  | log _ _ | notify _ => Unit

/-- The network as a session sees it. -/
def SessionNet : Interface where
  Call := SessionCall
  Answer := SessionCall.Answer

/-- A dialogue of a session with the network. -/
abbrev Talk : Type → Type := Dialogue SessionNet

namespace Talk

/-- Logs a line. -/
def log (mark : LogMark) (level : LogLevel) (source : LogSource) (text : String) : Talk Unit :=
  .ask (.log mark ⟨level, source, text⟩) .done

/-- Takes a socket off the poller. A failure is logged and has no other consequence. -/
def deregister (s : Socket) : Talk Unit :=
  .ask (.deregister s) fun
    | .ok () => .done ()
    | .error e => log .unmarked .trace .sockets s!"Deregister failed: {e.text}"

/-- Takes sockets off the poller, one after the other. -/
def deregisterAll : List Socket → Talk Unit
  | [] => .done ()
  | s :: rest => do
    deregister s
    deregisterAll rest

/-- Turns switches on, up to the first that fails. -/
def tune (s : Socket) : List TcpSwitch → Talk (Except IoError Unit)
  | [] => .done (.ok ())
  | switch :: rest =>
    .ask (.tune s switch) fun
      | .ok () => tune s rest
      | .error e => .done (.error e)

/-- Makes a call again while it is interrupted. A call that would block has nothing to answer. -/
def retry {I : Interface} {α : Type} (p : Dialogue I (Except IoError α)) :
    (turns : Nat) → Dialogue I (Except IoError (Option α))
  | 0 => .stuck
  | turns + 1 => do
    match ← p with
    | .ok a => return .ok (some a)
    | .error e =>
      if e.isWouldBlock then return .ok none
      else if e.isInterrupted then retry p turns
      else return .error e

/-- Receives a datagram, if one is there. -/
def receiveFrom (turns : Nat) (s : Socket) (max : Nat) :
    Talk (Except IoError (Option (Chunk max × Endpoint))) :=
  retry (Dialogue.call (I := SessionNet) (.receiveFrom s max)) turns

/-- Sends a datagram, and tells whether it left. -/
def sendTo (turns : Nat) (s : Socket) (data : Bytes) (dest : Endpoint) : Talk (Except IoError Bool) := do
  match ← retry (Dialogue.call (I := SessionNet) (.sendTo s data dest)) turns with
  | .ok sent => return .ok sent.isSome
  | .error e => return .error e

/-- Opens a datagram socket and registers it for reading. -/
def openDatagram (s : Socket) (addr : Endpoint) : Talk (Except IoError Unit) :=
  .ask (.bindDatagram s addr) fun
    | .ok () => .ask (.register s .read) fun r => .done r
    | .error e => .done (.error e)

end Talk

end SocksProxy
