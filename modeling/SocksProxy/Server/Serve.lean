/-
  The loop of a server.

  Each batch of events is handled in order. An event of the listener accepts every client that
  waits; an event of a socket goes to its session, and when a session ends its events in the rest
  of the batch are closed. When descriptors had run out and a batch has released some, clients are
  accepted again.
-/
import SocksProxy.Server.Basic
import SocksProxy.Session.Handle

namespace SocksProxy

/-- A part of serving: it changes the server, and ends it with a failure. -/
abbrev Serving : Type → Type := ExceptT Failure (StateT Server (Dialogue ServerNet))

namespace Serving

variable {α : Type}

/-- Talks to the surroundings. -/
def talk (p : Dialogue ServerNet α) : Serving α :=
  ExceptT.lift (StateT.lift p)

/-- Makes a call. -/
def ask (c : ServerCall) : Serving c.Answer :=
  talk (Server.ask c)

/-- Logs a line of the server itself. -/
def log (level : LogLevel) (text : String) : Serving Unit :=
  talk (Server.log level text)

/-- Logs a line about a session. -/
def logOf (id : SessionId) (level : LogLevel) (text : String) : Serving Unit :=
  ask (.log (some id) ⟨level, .server, text⟩)

/-- Lets a session talk to the network. -/
def talkAs (id : SessionId) (p : Talk α) : Serving α :=
  talk (p.via (sessionRoute id))

/-! ## Accepting clients -/

/-- Starts the session of a client that was accepted. -/
def welcome (id : SessionId) (peer : Endpoint) : Serving Unit := do
  match ← talkAs id (Session.start (← get).settings peer) with
  | .ok session =>
    logOf id .debug s!"Accepted client {peer.text}"
    modify fun server => { server with sessions := server.sessions.add id session }
    ask (.notify (.clientAccepted id peer))
  | .error e =>
    let why := SessionError.transport e
    log .warn s!"Failed to set up session for {peer.text}: {why.text}"

/-- Accepts clients until none waits or descriptors run out. -/
def acceptLoop : (turns : Nat) → Serving Unit
  | 0 => talk .stuck
  | turns + 1 => do
    let server ← get
    match ← ask (.accept server.nextId) with
    | .ok peer =>
      set { server with nextId := server.nextId + 1 }
      welcome server.nextId peer
      acceptLoop turns
    | .error e =>
      if e.isWouldBlock then return
      else if e.isInterrupted then acceptLoop turns
      else if e.isTransientAccept then
        log .debug s!"Accept failed: {e.text}"
        acceptLoop turns
      else if e.isExhaustion then
        log .warn s!"Accept paused with {server.sessions.length} live sessions: {e.text}"
        set { server with acceptStalled := true }
      else throw ⟨some "Accept failed", e⟩

/-- Accepts the clients that wait. -/
def accept (turns : Nat) : Serving Unit := do
  modify fun server => { server with acceptStalled := false }
  acceptLoop turns

/-! ## Handling events -/

/-- Handles an event of a socket, and tells whether its session goes on. There are no events of a
    session that has ended, except stale ones. -/
def process (turns : Nat) (key : Key) (r : Readiness) : Serving Bool := do
  let server ← get
  match server.sessions.find? key.session with
  | none => return true
  | some session =>
    let ctx : Context := ⟨server.settings, server.nameServer, turns⟩
    let (goesOn, w) ← talkAs key.session (Session.handle ctx key.role r ⟨session, server.ids⟩)
    set { server with sessions := server.sessions.replace key.session w.session, ids := w.ids }
    return goesOn

/-- Closes a session. -/
def teardown (id : SessionId) : Serving Unit := do
  let server ← get
  match server.sessions.find? id with
  | none => return
  | some session =>
    set { server with sessions := server.sessions.remove id }
    talkAs id session.close

/-- Handles the first `n` events of a batch in order. -/
def handleFirst (turns : Nat) : (n : Nat) → (batch : List ReadyEvent) → Serving Unit
  | 0, _ => return
  | _, [] => return
  | n + 1, event :: rest => do
    match event.target with
    | .listener =>
      accept turns
      handleFirst turns n rest
    | .waker | .closed => handleFirst turns n rest
    | .socket key =>
      if ← process turns key event.readiness then handleFirst turns n rest
      else
        teardown key.session
        let stale := countOf key.session rest
        if 0 < stale then logOf key.session .trace s!"Dropped {stale} stale events"
        handleFirst turns n (invalidate key.session rest)

/-- Handles the events of a batch in order. Invalidation does not change how many there are. -/
def handleAll (turns : Nat) (batch : List ReadyEvent) : Serving Unit :=
  handleFirst turns batch.length batch

/-- Handles a batch. -/
def dispatch (turns : Nat) (batch : List ReadyEvent) : Serving Unit := do
  let live := (← get).sessions.length
  handleAll turns batch
  let server ← get
  if server.acceptStalled && server.sessions.length < live then accept turns

/-! ## The loop -/

/-- Handles batches until the server is to stop. -/
def loop (turns : Nat) : (polls : Nat) → Serving Unit
  | 0 => talk .stuck
  | polls + 1 => do
    let stop : Bool ← ask .stopRequested
    if stop then log .debug "Shutdown requested"
    else
      match ← ask .poll with
      | .error e =>
        if e.isInterrupted then loop turns polls
        else throw ⟨some "Poll failed", e⟩
      | .ok events =>
        dispatch turns (events.map fun (token, flags) => ReadyEvent.ofPoll token flags)
        loop turns polls

end Serving

namespace Server

/-- Closes sessions, one after the other. -/
def closeAll : Sessions → Dialogue ServerNet Unit
  | [] => return
  | (id, session) :: rest => do
    session.close.via (sessionRoute id)
    closeAll rest

/-- Serves until the server is to stop or cannot go on. Every session is closed then. -/
def serve (turns : Nat) (server : Server) : Dialogue ServerNet (Except Failure Unit × Server) := do
  log .info s!"SOCKS5 server listening on {server.localAddress.text}"
  ask (.notify (.started server.localAddress))
  let (result, server) ← (Serving.loop turns turns).run.run server
  match result with
  | .error failure => log .error s!"Server loop failed: {failure.text}"
  | .ok () => pure ()
  closeAll server.sessions
  match ← ask .deregisterListener with
  | .error e => log .trace s!"Deregister listener failed: {e.text}"
  | .ok () => pure ()
  ask (.notify .stopped)
  log .info "SOCKS5 server stopped"
  return (result, { server with sessions := [] })

end Server

end SocksProxy
