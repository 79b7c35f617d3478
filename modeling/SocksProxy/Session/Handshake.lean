/-
  The handshake of a session: the greeting, credentials if they are required, and the request.

  What the client sends in one burst may hold several messages, and a message may be spread over
  several reads of a burst. A message that is still cut short when the burst is over breaks the
  protocol.
-/
import SocksProxy.Session.Resolve
import SocksProxy.Text.Quoted
import SocksProxy.Text.Utf8
import SocksProxy.Wire.Negotiation

namespace SocksProxy.Handler

/-- How many bytes the longest message of a handshake has. -/
def maxMessage : Nat := 513

/-- Takes bytes off the front of what was read. -/
def consume (n : Nat) : Handler Unit :=
  update fun s => { s with inbound := s.inbound.drop n }

/-- Answers a greeting. -/
def onGreeting (ctx : Context) : Handler Unit := do
  match Greeting.decode (← session).inbound with
  | .error fault =>
    match fault with
    | .unsupportedVersion _ => sendLast ctx (selection none)
    | _ => pure ()
    refuse fault
  | .ok (offered, n) =>
    consume n
    match AuthMethod.select offered ctx.settings.authMethod with
    | none =>
      sendLast ctx (selection none)
      refuse .noAcceptableMethod
    | some method =>
      log .trace s!"Selected auth method {method.text}"
      sendClient ctx (selection (some method))
      update fun s => { s with
        stage := match method with
          | .none => .authenticated
          | .password => .authRequested }

/-- Checks credentials. -/
def onCredentials (ctx : Context) : Handler Unit := do
  match Credentials.decode (← session).inbound with
  | .error fault => refuse fault
  | .ok (credentials, n) =>
    consume n
    let user := Text.quoted (Text.lossy credentials.username)
    if credentials.isFor ctx.settings.username ctx.settings.password then
      log .debug s!"Authenticated user {user}"
      sendClient ctx (authStatus true)
      update fun s => { s with stage := .authenticated }
    else
      log .warn s!"Authentication failed for user {user}"
      sendLast ctx (authStatus false)
      refuse .authFailed

/-- Starts to do what a request asks for. -/
def onRequest (ctx : Context) : Handler Unit := do
  match Request.decode (← session).inbound with
  | .error fault =>
    match fault with
    | .addressTypeNotSupported _ => reject ctx .addressTypeNotSupported
    | _ => pure ()
    refuse fault
  | .ok (request, n) =>
    consume n
    log .info s!"SOCKS5 {request.command.text} request to {request.address.text}"
    let start (intent : Intent) : Handler Unit :=
      match request.address.host with
      | .domain name => resolve ctx name ⟨intent, request.address.port⟩
      | .ipv4 ip => fulfil ctx intent [⟨.v4 ip, request.address.port⟩]
      | .ipv6 ip => fulfil ctx intent [⟨.v6 ip, request.address.port⟩]
    match request.command with
    | .connect => start .connect
    | .associate => start .associate
    | command =>
      reject ctx .commandNotSupported
      refuse (.commandNotSupported command.byte)

/-- Handles the message that a stage of the handshake waits for. -/
def onMessage (ctx : Context) : Stage → Handler Unit
  | .accepted => onGreeting ctx
  | .authRequested => onCredentials ctx
  | _ => onRequest ctx

/-- Handles the complete messages that were read, at most `n` of them. Each takes at least one byte,
    and what is behind the request stays. -/
def parse (ctx : Context) (burstDone : Bool) : (n : Nat) → Handler Unit
  | 0 => return
  | n + 1 => do
    let s ← session
    if s.inbound.isEmpty || !s.stage.isHandshake then return
    match ← outcome (onMessage ctx s.stage) with
    | .ok () => parse ctx burstDone n
    | .error (.violation (.truncated needed available)) =>
      if burstDone then refuse (.truncated needed available)
    | .error e => fail e

/-- Handles every complete message that was read. -/
def parseAll (ctx : Context) (burstDone : Bool) : Handler Unit := do
  parse ctx burstDone (← session).inbound.length

/-- Reads and handles what the client has sent, up to the end of the handshake. -/
def readHandshake (ctx : Context) : (turns : Nat) → Handler Unit
  | 0 => talk .stuck
  | turns + 1 => do
    match ← attempt ((← session).client.stream.receive ctx.turns) with
    | .closed => fail .peerClosed
    | .wouldBlock => parseAll ctx true
    | .data b =>
      update fun s => { s with inbound := s.inbound ++ b }
      parseAll ctx false
      let s ← session
      if !s.stage.isHandshake then onClientStream (·.resume)
      else if maxMessage < s.inbound.length then refuse (.tooLong s.inbound.length)
      else readHandshake ctx turns

end SocksProxy.Handler
