/-
  Connecting the outbound stream of a tunnel.

  Candidates are tried in order. An attempt fails at once or is found to have failed later; its
  stream is closed before the next one is opened. When none is left, the client is told why the
  last one failed.
-/
import SocksProxy.Session.Basic

namespace SocksProxy

namespace Talk

/-- Opens a stream, starts to connect it, and registers it for writing. -/
def openStream (socket : Socket) (target : Endpoint) (options : TcpOptions) :
    Talk (Except IoError Stream) :=
  .ask (.connect socket target) fun
    | .error e => .done (.error e)
    | .ok () => do
      match ← tune socket options.switches with
      | .error e => return .error e
      | .ok () =>
        let stream := Stream.new socket .write
        match ← Dialogue.call (I := SessionNet) (.register socket stream.interest) with
        | .ok () => return .ok stream
        | .error e =>
          stream.close
          return .error e

/-- The peer of an attempt that has succeeded, and nothing while it is under way. -/
def peerOf (stream : Stream) : Talk (Except IoError (Option Endpoint)) :=
  .ask (.pendingError stream.socket) fun
    | .error e => .done (.error e)
    | .ok (some e) => .done (.error e)
    | .ok none => .ask (.peerAddress stream.socket) fun
      | .ok peer => .done (.ok (some peer))
      | .error e => .done (if e.kind = .notConnected then .ok none else .error e)

end Talk

namespace Handler

/-- Tries candidates in order, up to the first attempt that does not fail at once. -/
def tryEach (ctx : Context) (early : Bytes) : (candidates : List Endpoint) → Attempts → Handler Unit
  | [], attempts => do
    update (·.withOutgoing ⟨attempts, none, early⟩)
    sendLast ctx attempts.failureReply.encode
    fail (.connect attempts.failureText)
  | target :: rest, attempts => do
    log .debug s!"Connecting to {target.text}"
    let socket : Socket := ⟨.remote, attempts.started⟩
    let attempts := attempts.begin target rest
    match ← talk (Talk.openStream socket target ctx.settings.remoteTcp) with
    | .ok stream => update (·.withOutgoing ⟨attempts, some stream, early⟩)
    | .error e =>
      log .debug s!"Connect to {target.text} failed: {e.text}"
      tryEach ctx early rest (attempts.failed e)

/-- Goes on with the candidates that are left. -/
def tryNext (ctx : Context) (attempts : Attempts) (early : Bytes) : Handler Unit :=
  tryEach ctx early attempts.remaining attempts

/-- Starts to connect to the candidates. What was read behind the request goes out first. -/
def startConnect (ctx : Context) (candidates : List Endpoint) : Handler Unit := do
  let early := (← session).inbound
  let attempts := Attempts.new candidates
  update fun s => { s with
    stage := .connecting
    inbound := []
    remote := some (.stream ⟨attempts, none, early⟩) }
  tryNext ctx attempts early

/-- Gives an attempt up and goes on to the next candidate. -/
def abandon (ctx : Context) (out : Outgoing) (why : IoError) : Handler Unit := do
  match out.stream with
  | some stream => talk stream.close
  | none => pure ()
  tryNext ctx (out.attempts.failed why) out.early

/-- Gives an attempt up that is found to have failed, and says which one it was. -/
def abandonFailed (ctx : Context) (out : Outgoing) (why : IoError) : Handler Unit := do
  let target := match out.attempts.current with
    | some target => s!"Some({target.text})"
    | none => "None"
  log .debug s!"Connect to {target} failed: {why.text}"
  abandon ctx out why

/-- Puts the stream of a successful attempt into service and tells the client. -/
def establish (ctx : Context) (out : Outgoing) (stream : Stream) (peer : Endpoint) :
    Handler Unit := do
  update (·.withOutgoing {
    attempts := out.attempts.connected peer
    stream := some { stream with outbound := stream.outbound.push out.early }
    early := [] })
  let bound ← check (← ask (.localAddress stream.socket))
  let _ ← onRemoteStream (·.flush ctx.turns)
  let _ ← onRemoteStream (·.resume)
  log .info s!"SOCKS5 tunnel established to {peer.text}"
  let _ ← ask (.notify (.remoteConnected peer))
  update fun s => { s with stage := .connected }
  sendClient ctx (Reply.encode ⟨.success, Address.ofEndpoint bound⟩)
  onClientStream (·.resume)

/-- Handles an event of an attempt. An attempt without a stream is not connected. -/
def onAttempt (ctx : Context) (r : Readiness) (out : Outgoing) : Handler Unit := do
  match out.stream with
  | none => abandonFailed ctx out (.plain .notConnected)
  | some stream =>
    match ← talk (Talk.peerOf stream) with
    | .ok (some peer) => establish ctx out stream peer
    | .ok none => if r.isFatal then abandon ctx out (.plain .notConnected)
    | .error e => abandonFailed ctx out e

end Handler

end SocksProxy
