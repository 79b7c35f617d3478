/-
  A scripted network: what becomes of every call is laid down beforehand.

  A script has queues of outcomes for the calls that can fail, and steps, one for each time the
  server waits for events. A step puts outcomes into queues, tells what happens to sockets, and
  delivers events. When the steps are used up, the server is asked to stop.

  * `Network` is the state of a scripted network, `Network.answer` answers the calls of a server.
-/
import SocksProxy.Script.Trace
import SocksProxy.Script.Writes

namespace SocksProxy.Script

/-! ## Scripts -/

/-- The calls whose outcomes can be laid down. -/
inductive QueueName where
  | openListener | reuseAddress | nonblocking | bindListener | listen | openPoll | openWaker
  | register | reregister | deregister | nodelay | keepalive | wake
  | accept | connect | bindDatagram
  deriving DecidableEq, Repr

/-- The queue with a name. -/
def QueueName.parse? (s : String) : Option QueueName :=
  match s with
  | "socket" => some openListener
  | "reuse" => some reuseAddress
  | "nonblocking" => some nonblocking
  | "tcp_bind" => some bindListener
  | "listen" => some listen
  | "poll_new" => some openPoll
  | "waker_new" => some openWaker
  | "register" => some register
  | "reregister" => some reregister
  | "deregister" => some deregister
  | "nodelay" => some nodelay
  | "keepalive" => some keepalive
  | "wake" => some wake
  | "accept" => some accept
  | "connect" => some connect
  | "udp_bind" => some bindDatagram
  | _ => none

/-- What arrives at a socket. -/
inductive Arrival where
  | data (b : Bytes) (source : Endpoint)
  /-- The peer closes its direction. -/
  | close
  | fails (error : IoError)
  deriving DecidableEq, Repr

/-- What happens to a socket. -/
structure SocketChange where
  arrivals : List Arrival
  writes : List WriteOutcome
  /-- What a socket says about its pending error. -/
  pendingErrors : List (Except IoError (Option IoError))
  /-- The socket is connected now. -/
  connected : Bool
  peer : Option Endpoint
  localAddress : Option Endpoint
  peerErrors : List IoError
  localErrors : List IoError

/-- Nothing happens. -/
def SocketChange.none : SocketChange := ⟨[], [], [], false, .none, .none, [], []⟩

/-- What becomes of a call. A call that opens a socket changes it too. -/
inductive Outcome where
  | succeeds (change : SocketChange)
  | fails (error : IoError)

/-- Outcomes for calls, each queue in order. -/
abbrev Queues : Type := List (QueueName × List Outcome)

/-- One wait for events. -/
structure Step where
  queues : Queues
  changes : List (Key × SocketChange)
  stops : Bool
  error : Option IoError
  events : List (Token × PollFlags)

/-- What observers do. -/
inductive Observer where
  /-- They note what they are told. -/
  | record
  | absent
  /-- They take over the calls that move bytes, note each, and turn what remote streams say into
      capitals. -/
  | tap
  deriving DecidableEq, Repr

/-! ## State -/

/-- A socket of a scripted network. -/
structure ScriptedSocket where
  isRegistered : Bool
  arrivals : List Arrival
  writes : List WriteOutcome
  pendingErrors : List (Except IoError (Option IoError))
  connected : Bool
  peer : Endpoint
  localAddress : Endpoint
  peerErrors : List IoError
  localErrors : List IoError

/-- Lets something happen to a socket. -/
def ScriptedSocket.change (s : ScriptedSocket) (c : SocketChange) : ScriptedSocket where
  isRegistered := s.isRegistered
  arrivals := s.arrivals ++ c.arrivals
  writes := s.writes ++ c.writes
  pendingErrors := s.pendingErrors ++ c.pendingErrors
  connected := s.connected || c.connected
  peer := c.peer.getD s.peer
  localAddress := c.localAddress.getD s.localAddress
  peerErrors := s.peerErrors ++ c.peerErrors
  localErrors := s.localErrors ++ c.localErrors

/-- A socket of a session, among those of all sessions. -/
structure SocketId where
  session : SessionId
  socket : Socket
  deriving DecidableEq, Repr

/-- The key under which a socket is registered. -/
def SocketId.key (i : SocketId) : Key :=
  ⟨i.session, i.socket.role⟩

/-- The state of a scripted network. -/
structure Network where
  firstQueryId : UInt16
  resolverFile : Option String
  observer : Observer
  /-- What is logged when the steps are used up. -/
  farewell : Option LogLine
  queues : Queues
  steps : List Step
  stopping : Bool
  nextPort : Nat
  listener : Endpoint
  sockets : List (SocketId × ScriptedSocket)
  /-- The sockets that are registered, by key. -/
  registered : List (Key × SocketId)
  trace : Trace

/-- What a network does while it answers. -/
abbrev Answering : Type → Type := StateM Network

namespace Network

/-- A network on which nothing happens before the server is asked to stop. -/
def idle (farewell : Option LogLine) : Network where
  firstQueryId := 0
  resolverFile := none
  observer := .absent
  farewell := farewell
  queues := []
  steps := []
  stopping := false
  nextPort := 50000
  listener := ⟨.v4 IPv4.unspecified, 0⟩
  sockets := []
  registered := []
  trace := .empty

/-- Writes an entry. -/
def note (e : Entry) : Answering Unit :=
  modify fun n => { n with trace := n.trace.note e }

/-- The entry of a list under a key replaced, or put in front. -/
def put {κ α : Type} [DecidableEq κ] (k : κ) (a : α) : List (κ × α) → List (κ × α)
  | [] => [(k, a)]
  | (k', a') :: rest => if k' = k then (k, a) :: rest else (k', a') :: put k a rest

/-- Appends outcomes to queues. -/
def addQueues (added queues : Queues) : Queues :=
  added.foldl (fun queues (name, outcomes) =>
    put name ((queues.lookup name).getD [] ++ outcomes) queues) queues

/-- Takes the next outcome of a call. -/
def pop? (name : QueueName) : Answering (Option Outcome) := do
  let n ← get
  match n.queues.lookup name with
  | some (outcome :: rest) =>
    set { n with queues := put name rest n.queues }
    return some outcome
  | _ => return none

/-- What becomes of a call that only succeeds or fails. -/
def simple (name : QueueName) : Answering (Except IoError Unit) := do
  match ← pop? name with
  | some (.fails e) => return .error e
  | _ => return .ok ()

/-- The next port. -/
def takePort : Answering UInt16 := do
  let n ← get
  set { n with nextPort := n.nextPort + 1 }
  return UInt16.ofNat n.nextPort

/-! ## Sockets -/

/-- The socket that a call is about; one that was never opened is like new. -/
def socket (i : SocketId) : Answering ScriptedSocket := do
  let blank : Endpoint := ⟨.v4 IPv4.unspecified, 0⟩
  return ((← get).sockets.lookup i).getD ⟨false, [], [], [], false, blank, blank, [], []⟩

/-- Changes the state of a socket. -/
def setSocket (i : SocketId) (s : ScriptedSocket) : Answering Unit :=
  modify fun n => { n with sockets := put i s n.sockets }

/-- The name by which a socket goes. -/
def nameOf (i : SocketId) (s : ScriptedSocket) : SocketName :=
  if s.isRegistered then .socket i.key else .unknown

/-- Opens a socket. -/
def openSocket (i : SocketId) (connected : Bool) (peer localAddress : Endpoint)
    (c : SocketChange) : Answering Unit :=
  setSocket i (ScriptedSocket.change
    ⟨false, [], [], [], connected, peer, localAddress, [], []⟩ c)

/-- Registers a socket under its key. -/
def register (i : SocketId) (interest : Interest) : Answering (Except IoError Unit) := do
  let r ← simple .register
  note (.register false (.socket i.key) interest r)
  match r with
  | .ok () =>
    setSocket i { ← socket i with isRegistered := true }
    modify fun n => { n with registered := put i.key i n.registered }
  | .error _ => pure ()
  return r

/-- Notes a call that an observer has taken over. -/
def tapped (event : HookEvent) (session : Option SessionId) : Answering Unit := do
  if (← get).observer = .tap then note (.hook event session none)

/-- Notes what observers are told. -/
def told (event : HookEvent) (session : Option SessionId) (addr : Option Endpoint) :
    Answering Unit := do
  if (← get).observer = .record then note (.hook event session addr)

/-- The bytes in capitals, as far as they are letters of ASCII. -/
def capitals (b : Bytes) : Bytes :=
  b.map fun x => if 97 ≤ x ∧ x ≤ 122 then x - 32 else x

theorem length_capitals (b : Bytes) : (capitals b).length = b.length := by
  simp [capitals]

/-- The bytes that a tap makes of those read by a socket. -/
def seen (observer : Observer) (role : Role) {max : Nat} (c : Chunk max) : Chunk max :=
  if observer = .tap ∧ role = .remote then
    ⟨capitals c.val, by rw [length_capitals]; exact c.property⟩
  else c

/-- Reads from a stream. More than the reader takes is left for the next read. -/
def receive (i : SocketId) (max : Nat) : Answering (Except IoError (Chunk max)) := do
  match i.socket.role with
  | .client => tapped .clientReceive i.session
  | _ => tapped .remoteReceive i.session
  let s ← socket i
  let (r, arrivals) : Except IoError (Chunk max) × List Arrival := match s.arrivals with
    | [] => (.error (.plain .wouldBlock), [])
    | .close :: rest => (.ok ⟨[], Nat.zero_le max⟩, rest)
    | .fails e :: rest => (.error e, rest)
    | .data b source :: rest =>
      (.ok ⟨b.take max, by rw [List.length_take]; omega⟩,
        if b.length ≤ max then rest else .data (b.drop max) source :: rest)
  setSocket i { s with arrivals }
  note (.receive (nameOf i s) (r.map (·.val.length)))
  let observer := (← get).observer
  return r.map (seen observer i.socket.role)

/-- Writes to a stream. -/
def send (i : SocketId) (data : Bytes) : Answering (Except IoError (Fin (data.length + 1))) := do
  match i.socket.role with
  | .client => tapped .clientSend i.session
  | _ => tapped .remoteSend i.session
  let s ← socket i
  let (r, writes) := answerWrite data s.writes
  setSocket i { s with writes }
  note (.send (nameOf i s) data.length (r.map fun n => data.take n.val))
  return r

/-- Whether a datagram socket belongs to an association. -/
def relays : Role → Bool
  | .query _ => false
  | _ => true

/-- Receives a datagram. What the reader does not take is lost. -/
def receiveFrom (i : SocketId) (max : Nat) : Answering (Except IoError (Chunk max × Endpoint)) := do
  if relays i.socket.role then tapped .datagramReceive i.session
  let s ← socket i
  let (r, arrivals) : Except IoError (Chunk max × Endpoint) × List Arrival := match s.arrivals with
    | [] => (.error (.plain .wouldBlock), [])
    | .close :: rest => (.error (.plain .wouldBlock), rest)
    | .fails e :: rest => (.error e, rest)
    | .data b source :: rest =>
      (.ok (⟨b.take max, by rw [List.length_take]; omega⟩, source), rest)
  setSocket i { s with arrivals }
  note (.receiveFrom (nameOf i s) (r.map fun (b, source) => (b.val.length, source)))
  return r

/-- Sends a datagram. -/
def sendTo (i : SocketId) (data : Bytes) (dest : Endpoint) : Answering (Except IoError Unit) := do
  if relays i.socket.role then tapped .datagramSend i.session
  let s ← socket i
  let (r, writes) : Except IoError Unit × List WriteOutcome := match s.writes with
    | .fails e :: rest => (.error e, rest)
    | _ :: rest => (.ok (), rest)
    | [] => (.ok (), [])
  setSocket i { s with writes }
  note (.sendTo (nameOf i s) dest data r)
  return r

/-- The address from which a stream to `target` goes out. -/
def outboundAddress (target : Endpoint) (port : UInt16) : Endpoint :=
  match target.ip with
  | .v4 _ => ⟨.v4 ⟨198, 51, 100, 1⟩, port⟩
  | .v6 _ => ⟨.v6 ⟨[0x2001, 0xdb8, 0, 0, 0, 0, 0, 1], rfl⟩, port⟩

/-- Opens a stream. -/
def connect (i : SocketId) (target : Endpoint) : Answering (Except IoError Unit) := do
  match ← pop? .connect with
  | some (.fails e) =>
    note (.connect target (.error e))
    return .error e
  | outcome =>
    let change := match outcome with
      | some (.succeeds change) => change
      | _ => .none
    note (.connect target (.ok ()))
    openSocket i false target (outboundAddress target (← takePort)) change
    return .ok ()

/-- Opens a datagram socket. -/
def bindDatagram (i : SocketId) (addr : Endpoint) : Answering (Except IoError Unit) := do
  match ← pop? .bindDatagram with
  | some (.fails e) =>
    note (.bindDatagram addr (.error e))
    return .error e
  | outcome =>
    let change := match outcome with
      | some (.succeeds change) => change
      | _ => .none
    let port ← if addr.port = 0 then takePort else pure addr.port
    let localAddress : Endpoint := ⟨addr.ip, port⟩
    note (.bindDatagram addr (.ok localAddress))
    openSocket i false localAddress localAddress change
    return .ok ()

/-- The address of a socket, where the next of its errors comes first. -/
def localAddress (i : SocketId) : Answering (Except IoError Endpoint) := do
  let s ← socket i
  match s.localErrors with
  | e :: rest =>
    setSocket i { s with localErrors := rest }
    return .error e
  | [] => return .ok s.localAddress

/-- The peer of a socket, which is known when it is connected. -/
def peerAddress (i : SocketId) : Answering (Except IoError Endpoint) := do
  let s ← socket i
  match s.peerErrors with
  | e :: rest =>
    setSocket i { s with peerErrors := rest }
    return .error e
  | [] => return if s.connected then .ok s.peer else .error (.plain .notConnected)

/-- The pending error of a socket. -/
def pendingError (i : SocketId) : Answering (Except IoError (Option IoError)) := do
  let s ← socket i
  match s.pendingErrors with
  | r :: rest =>
    setSocket i { s with pendingErrors := rest }
    return r
  | [] => return .ok none

/-- Turns a switch of a stream on. The entry has the peer that the stream has by now, known or not. -/
def tune (i : SocketId) (switch : TcpSwitch) : Answering (Except IoError Unit) := do
  let r ← simple (match switch with
    | .nodelay => .nodelay
    | .keepalive => .keepalive)
  note (.tune switch (← socket i).peer r)
  return r

/-- Takes a socket off the poller. -/
def deregister (i : SocketId) : Answering (Except IoError Unit) := do
  let r ← simple .deregister
  note (.deregister (nameOf i (← socket i)) r)
  match r with
  | .ok () => modify fun n => { n with registered := n.registered.filter fun e => e.2 ≠ i }
  | .error _ => pure ()
  return r

/-! ## Sessions -/

/-- Answers a call of a session. -/
def answerSession (session : SessionId) : (c : SessionCall) → Answering c.Answer
  | .tune s switch => tune ⟨session, s⟩ switch
  | .localAddress s => localAddress ⟨session, s⟩
  | .peerAddress s => peerAddress ⟨session, s⟩
  | .pendingError s => pendingError ⟨session, s⟩
  | .connect s target => connect ⟨session, s⟩ target
  | .bindDatagram s addr => bindDatagram ⟨session, s⟩ addr
  | .register s interest => register ⟨session, s⟩ interest
  | .reregister s interest => do
    let r ← simple .reregister
    note (.register true (nameOf ⟨session, s⟩ (← socket ⟨session, s⟩)) interest r)
    return r
  | .deregister s => deregister ⟨session, s⟩
  | .shutdown s => do
    note (.shutdown (nameOf ⟨session, s⟩ (← socket ⟨session, s⟩)))
    return .ok ()
  | .receive s max => receive ⟨session, s⟩ max
  | .send s data => send ⟨session, s⟩ data
  | .receiveFrom s max => receiveFrom ⟨session, s⟩ max
  | .sendTo s data dest => sendTo ⟨session, s⟩ data dest
  | .log mark line =>
    match mark with
    | .unmarked => note (.log none none line)
    | .session => note (.log (some session) none line)
    | .stage stage => note (.log (some session) (some stage) line)
  | .notify notice =>
    match notice with
    | .clientDisconnected peer => told .clientDisconnected session peer
    | .remoteConnected peer => told .remoteConnected session peer
    | .remoteDisconnected peer => told .remoteDisconnected session peer

/-! ## The server -/

/-- Answers a call of a request to stop. -/
def answerStop : (c : StopCall) → Answering c.Answer
  | .request => modify fun n => { n with stopping := true }
  | .wake => do
    let r ← simple .wake
    note (.wake r)
    return r
  | .log line => note (.log none none line)

/-- Asks the server to stop. -/
def stop : Answering Unit := fun n =>
  ((), (requestStop.run (I := StopNet) answerStop n).2)

/-- Lets something happen to the socket that is registered under a key, if there is one. -/
def change (key : Key) (c : SocketChange) : Answering Unit := do
  match (← get).registered.lookup key with
  | some i => setSocket i ((← socket i).change c)
  | none => pure ()

/-- Waits for events. -/
def poll : Answering (Except IoError (List (Token × PollFlags))) := do
  match (← get).steps with
  | [] =>
    match (← get).farewell with
    | some line => note (.log none none line)
    | none => pure ()
    stop
    return .ok []
  | step :: steps =>
    modify fun n => { n with
      steps, trace := n.trace.cut, queues := addQueues step.queues n.queues }
    for (key, c) in step.changes do change key c
    if step.stops then stop
    match step.error with
    | some e => return .error e
    | none => return .ok step.events

/-- Accepts a client. -/
def accept (id : SessionId) : Answering (Except IoError Endpoint) := do
  tapped .clientAccept none
  match ← pop? .accept with
  | some (.succeeds c) =>
    let n ← get
    let peer := c.peer.getD n.listener
    note (.accept (.ok peer))
    openSocket ⟨id, ⟨.client, 0⟩⟩ true peer n.listener c
    return .ok peer
  | some (.fails e) =>
    note (.accept (.error e))
    return .error e
  | none =>
    note (.accept (.error (.plain .wouldBlock)))
    return .error (.plain .wouldBlock)

/-- Binds the listener. -/
def bindListener (addr : Endpoint) : Answering (Except IoError Unit) := do
  let r ← simple .bindListener
  note (.bindListener addr r)
  let port ← if addr.port = 0 then takePort else pure addr.port
  modify fun n => { n with listener := ⟨addr.ip, port⟩ }
  return r

/-- Answers a call of a server. -/
def answer : (c : ServerCall) → Answering c.Answer
  | .openListener isV4 => do
    let r ← simple .openListener
    note (.openListener isV4 r)
    return r
  | .reuseAddress => simple .reuseAddress
  | .nonblocking => simple .nonblocking
  | .bindListener addr => bindListener addr
  | .listen backlog => do
    let r ← simple .listen
    note (.listen backlog r)
    return r
  | .listenerAddress => return .ok (← get).listener
  | .openPoll => simple .openPoll
  | .registerListener => do
    let r ← simple .register
    note (.register false .listener .read r)
    return r
  | .deregisterListener => do
    let r ← simple .deregister
    note (.deregister .listener r)
    return r
  | .openWaker => simple .openWaker
  | .resolverFile => return (← get).resolverFile
  | .firstQueryId => return (← get).firstQueryId
  | .stopRequested => return (← get).stopping
  | .poll => poll
  | .accept id => accept id
  | .log id line => note (.log id none line)
  | .notify notice =>
    match notice with
    | .started addr => told .serverStarted none addr
    | .stopped => told .serverStopped none none
    | .clientAccepted id peer => told .clientAccepted id peer
  | .session id c => answerSession id c

end Network

end SocksProxy.Script
