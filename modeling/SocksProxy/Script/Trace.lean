/-
  What a scripted network writes down: every call with its outcome, every line of the log, and what
  observers are told, in order.

  The trace is cut into segments. `Trace.sortedSegments` makes the end of serving a segment of its
  own and brings it into the order of the sessions, since nothing is promised about the order in
  which they are closed.
-/
import SocksProxy.Server.Net

namespace SocksProxy.Script

/-- What a call is about, as far as it has a name. -/
inductive SocketName where
  | listener
  | socket (key : Key)
  /-- A socket that was never registered. -/
  | unknown
  deriving DecidableEq, Repr

/-- The word for a role in the name of a socket. -/
def roleWord : Role → String
  | .client => "client"
  | .remote => "remote"
  | .relay => "relay"
  | .query slot => s!"dns{slot}"

/-- A socket of a session as a name: its session and its role. -/
def keyName (k : Key) : String :=
  s!"{k.session}/{roleWord k.role}"

/-- The roles that sockets can have. -/
def roles : List Role :=
  [.client, .remote, .relay] ++ (List.range Role.maxQueries).map Role.query

/-- The socket with a name. -/
def keyOfName? (s : String) : Option Key := do
  let cs := s.toList
  let (id, rest) ← Text.readNumber 10 cs.length true cs
  let role ← roles.find? fun r => rest == '/' :: (roleWord r).toList
  return ⟨id, role⟩

/-- The name as text. -/
def SocketName.text : SocketName → String
  | listener => "listener"
  | socket key => keyName key
  | unknown => "?"

/-- What observers are told, or what calls they take over. -/
inductive HookEvent where
  | serverStarted
  | serverStopped
  | clientAccepted
  | clientDisconnected
  | remoteConnected
  | remoteDisconnected
  | clientAccept
  | clientReceive
  | clientSend
  | remoteReceive
  | remoteSend
  | datagramReceive
  | datagramSend
  deriving DecidableEq, Repr

/-- The name of an event. -/
def HookEvent.text : HookEvent → String
  | serverStarted => "server_started"
  | serverStopped => "server_stopped"
  | clientAccepted => "client_accepted"
  | clientDisconnected => "client_disconnected"
  | remoteConnected => "remote_connected"
  | remoteDisconnected => "remote_disconnected"
  | clientAccept => "client_accept"
  | clientReceive => "client_recv"
  | clientSend => "client_send"
  | remoteReceive => "remote_recv"
  | remoteSend => "remote_send"
  | datagramReceive => "udp_recv_from"
  | datagramSend => "udp_send_to"

/-- An entry of a trace. -/
inductive Entry where
  | openListener (isV4 : Bool) (r : Except IoError Unit)
  | bindListener (addr : Endpoint) (r : Except IoError Unit)
  | listen (backlog : Nat) (r : Except IoError Unit)
  | accept (r : Except IoError Endpoint)
  | connect (target : Endpoint) (r : Except IoError Unit)
  | bindDatagram (addr : Endpoint) (r : Except IoError Endpoint)
  | tune (switch : TcpSwitch) (peer : Endpoint) (r : Except IoError Unit)
  | register (again : Bool) (name : SocketName) (interest : Interest) (r : Except IoError Unit)
  | deregister (name : SocketName) (r : Except IoError Unit)
  | shutdown (name : SocketName)
  | receive (name : SocketName) (r : Except IoError Nat)
  | send (name : SocketName) (offered : Nat) (r : Except IoError Bytes)
  | receiveFrom (name : SocketName) (r : Except IoError (Nat × Endpoint))
  | sendTo (name : SocketName) (dest : Endpoint) (data : Bytes) (r : Except IoError Unit)
  | wake (r : Except IoError Unit)
  | log (session : Option SessionId) (stage : Option Stage) (line : LogLine)
  | hook (event : HookEvent) (session : Option SessionId) (addr : Option Endpoint)

/-- The session that a name belongs to. -/
def SocketName.session? : SocketName → Option SessionId
  | socket key => some key.session
  | _ => none

namespace Entry

/-- The session that an entry belongs to. -/
def session? : Entry → Option SessionId
  | register _ name _ _ | deregister name _ | shutdown name | receive name _ | send name _ _
  | receiveFrom name _ | sendTo name _ _ _ => name.session?
  | log session _ _ | hook _ session _ => session
  | _ => none

/-- The line of the log that an entry shows. -/
def line? : Entry → Option MarkedLine
  | log session stage line => some ⟨session, stage, line⟩
  | _ => none

/-- Whether an entry shows a call that was made. -/
def isCall : Entry → Bool
  | log _ _ _ | hook _ _ _ => false
  | _ => true

/-- Whether an entry says that serving ends. -/
def isEnd : Entry → Bool
  | log none _ line =>
    line.text == "Shutdown requested" || "Server loop failed".isPrefixOf line.text
  | _ => false

/-- Entries of sessions come first, in the order of their ids. -/
def notAfter (a b : Entry) : Bool :=
  match a.session?, b.session? with
  | some i, some j => i ≤ j
  | some _, none => true
  | none, some _ => false
  | none, none => true

end Entry

/-- A trace: its closed segments and its current one, each with the latest first. -/
structure Trace where
  closed : List (List Entry)
  current : List Entry

namespace Trace

/-- Nothing was written yet. -/
def empty : Trace := ⟨[], []⟩

/-- Writes an entry. -/
def note (t : Trace) (e : Entry) : Trace :=
  { t with current := e :: t.current }

/-- Begins a segment. -/
def cut (t : Trace) : Trace :=
  ⟨t.current :: t.closed, []⟩

/-- The segments in order. -/
def segments (t : Trace) : List (List Entry) :=
  ((t.current :: t.closed).map List.reverse).reverse

/-- The lines of the log in order. -/
def lines (t : Trace) : List MarkedLine :=
  t.segments.flatten.filterMap Entry.line?

/-- The segments in order, where the end of serving is a segment of its own, sorted by session. -/
def sortedSegments (t : Trace) : List (List Entry) :=
  let (served, ended) := t.current.reverse.span fun e => !e.isEnd
  (t.closed.map List.reverse).reverse ++ [served, ended.mergeSort Entry.notAfter]

end Trace

end SocksProxy.Script
