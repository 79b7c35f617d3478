/-
  The state of a session, and the programs that handle its events.

  A session owns the stream of its client and every socket opened for it. A `Handler` changes the
  session, talks to the network, and may end with the cause of the session's end; what it changed
  until then stays, so that the session can be closed.

  * `Handler.exec` runs a handler; the `exec_` lemmas say what each step of one does.
-/
import SocksProxy.Dns.Query
import SocksProxy.Relay.PortMap
import SocksProxy.Session.Attempts
import SocksProxy.Session.Error
import SocksProxy.Session.Stream

namespace SocksProxy

/-! ## State -/

/-- The stream of a client. -/
structure Client where
  peer : Endpoint
  localAddress : Endpoint
  stream : Stream

/-- The outbound stream of a tunnel. -/
structure Outgoing where
  attempts : Attempts
  /-- The stream of the current attempt. -/
  stream : Option Stream
  /-- What the client sent before the tunnel was up. -/
  early : Bytes

/-- The remote side of a session. -/
inductive Remote where
  | stream (out : Outgoing)
  /-- The socket of an association that faces the remote side. -/
  | datagram (socket : Socket)

/-- The socket of an association that faces the client, with its port map. -/
structure Relay where
  socket : Socket
  ports : PortMap

/-- A query that waits for its answer. -/
structure Lookup where
  socket : Socket
  server : Endpoint
  id : UInt16
  name : DomainName

/-- What a client wants with the address it named. -/
inductive Intent where
  | connect
  | associate
  deriving DecidableEq, Repr

/-- A request that waits for the addresses of its name. -/
structure PendingRequest where
  intent : Intent
  port : UInt16
  deriving DecidableEq, Repr

/-- One client and the sockets opened for it. -/
structure Session where
  stage : Stage
  client : Client
  remote : Option Remote
  relay : Option Relay
  lookups : Vector (Option Lookup) Role.maxQueries
  /-- What was read of the handshake and not consumed yet. -/
  inbound : Bytes
  pending : Option PendingRequest

/-- What handlers go by. -/
structure Context where
  settings : Settings
  /-- The name server; without one, domain names are refused. -/
  nameServer : Option Endpoint
  /-- How many turns a loop may take. -/
  turns : Nat

/-! ## Handlers -/

/-- What a handler works on: its session, and the ids of queries, which all sessions share. -/
structure Work where
  session : Session
  ids : Dns.QueryIds

/-- A program that handles an event of a session. -/
abbrev Handler : Type → Type := ExceptT SessionError (StateT Work Talk)

namespace Handler

variable {α : Type}

/-- Talks to the network. -/
def talk (p : Talk α) : Handler α :=
  ExceptT.lift (StateT.lift p)

/-- Makes a call. -/
def ask (c : SessionCall) : Handler c.Answer :=
  talk (.ask c .done)

/-- Ends the session. -/
def fail (e : SessionError) : Handler α :=
  throw e

/-- Ends the session because the client broke the protocol. -/
def refuse (fault : WireError) : Handler α :=
  fail (.violation fault)

/-- Takes the value of a socket call; a failure ends the session. -/
def check (r : Except IoError α) : Handler α :=
  match r with
  | .ok a => pure a
  | .error e => fail (.transport e)

/-- Talks to the network, where a failure ends the session. -/
def attempt (p : Talk (Except IoError α)) : Handler α := do
  check (← talk p)

/-- The session. -/
def session : Handler Session :=
  return (← get).session

/-- Changes the session. -/
def update (f : Session → Session) : Handler Unit :=
  modify fun w => { w with session := f w.session }

/-- The outcome of a handler, which does not end the session. -/
def outcome (h : Handler α) : Handler (Except SessionError α) :=
  ExceptT.lift h.run

/-- Logs a line about the session. -/
def log (level : LogLevel) (text : String) : Handler Unit :=
  talk (Talk.log .session level .session text)

/-! ## Running a handler -/

/-- Runs a handler on what it works on. -/
def exec (h : Handler α) (w : Work) : Talk (Except SessionError α × Work) :=
  h.run.run w

theorem exec_pure (a : α) (w : Work) : exec (pure a) w = .done (.ok a, w) :=
  rfl

theorem exec_fail (e : SessionError) (w : Work) : exec (fail e : Handler α) w = .done (.error e, w) :=
  rfl

theorem exec_session (w : Work) : exec session w = .done (.ok w.session, w) :=
  rfl

theorem exec_update (f : Session → Session) (w : Work) :
    exec (update f) w = .done (.ok (), { w with session := f w.session }) :=
  rfl

/-- A handler that ends the session goes no further. -/
theorem exec_bind {β : Type} (h : Handler α) (f : α → Handler β) (w : Work) :
    exec (h >>= f) w = (exec h w).bind fun
      | (.ok a, w) => exec (f a) w
      | (.error e, w) => .done (.error e, w) := by
  simp only [exec, ExceptT.run_bind, StateT.run_bind]
  refine congrArg (Dialogue.bind _) (funext fun (r, w) => ?_)
  cases r <;> rfl

theorem exec_talk (p : Talk α) (w : Work) :
    exec (talk p) w = p.bind fun a => .done (Except.ok a, w) :=
  Dialogue.bind_assoc p (fun a => .done (a, w)) fun x => .done (Except.ok x.1, x.2)

theorem exec_ask (c : SessionCall) (w : Work) :
    exec (ask c) w = .ask c fun r => .done (.ok r, w) :=
  rfl

theorem exec_outcome (h : Handler α) (w : Work) :
    exec (outcome h) w = (exec h w).bind fun x => .done (.ok x.1, x.2) :=
  rfl

/-! ## Streams -/

/-- Does something with the stream of the client. -/
def onClientStream (f : Stream → Talk (Except IoError α × Stream)) : Handler α := do
  let (r, stream) ← talk (f (← session).client.stream)
  update fun s => { s with client := { s.client with stream } }
  check r

end Handler

namespace Session

/-- The outbound stream, while there is one. -/
def outgoing? (s : Session) : Option Outgoing :=
  match s.remote with
  | some (.stream out) => some out
  | _ => none

/-- The stream of the remote side, while there is one. -/
def remoteStream? (s : Session) : Option Stream :=
  s.outgoing?.bind (·.stream)

/-- The sockets of the queries that are out. -/
def lookupSockets (s : Session) : List Socket :=
  s.lookups.toList.filterMap fun lookup => lookup.map (·.socket)

/-- The session with another outbound stream. -/
def withOutgoing (s : Session) (out : Outgoing) : Session :=
  { s with remote := some (.stream out) }

end Session

namespace Handler

variable {α : Type}

/-- Does something with the stream of the remote side, if there is one. -/
def onRemoteStream (f : Stream → Talk (Except IoError α × Stream)) : Handler (Option α) := do
  match (← session).outgoing? with
  | some out =>
    match out.stream with
    | some stream =>
      let (r, stream) ← talk (f stream)
      update (·.withOutgoing { out with stream := some stream })
      return some (← check r)
    | none => return none
  | none => return none

/-- Sends bytes to the client, or schedules them. -/
def sendClient (ctx : Context) (data : Bytes) : Handler Unit := do
  let _ ← onClientStream (·.send ctx.turns data)
  onClientStream (·.settle)

/-- Sends the bytes that end the session. What the socket does not take is lost. -/
def sendLast (ctx : Context) (data : Bytes) : Handler Unit := do
  let client := (← session).client
  let (r, stream) ← talk (client.stream.send ctx.turns data)
  update fun s => { s with client := { s.client with stream } }
  match r with
  | .ok _ => return
  | .error e =>
    talk (Talk.log .unmarked .debug .sockets s!"Final write to {client.peer.text} failed: {e.text}")

/-- Refuses the request of the client. -/
def reject (ctx : Context) (code : ReplyCode) : Handler Unit :=
  sendLast ctx (Reply.failure code).encode

/-- Closes the queries that are out. -/
def closeLookups : Handler Unit := do
  talk (Talk.deregisterAll (← session).lookupSockets)
  update fun s => { s with lookups := .replicate _ none }

end Handler

end SocksProxy
