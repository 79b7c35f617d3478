/-
  Relaying datagrams.

  An association has two sockets, one for the client and one for the remote side, and a port map
  between them. A datagram that cannot be sent is dropped.
-/
import SocksProxy.Session.Basic

namespace SocksProxy.Handler

/-- How large a datagram can be. -/
def datagramSize : Nat := 65536

/-- Opens the sockets of an association and tells the client where to send datagrams. -/
def associate (ctx : Context) : Handler Unit := do
  let client := (← session).client
  let localIp := client.localAddress.ip
  let socket : Socket := ⟨.relay, 0⟩
  attempt (Talk.openDatagram socket ⟨localIp, 0⟩)
  let bound ← check (← ask (.localAddress socket))
  update fun s => { s with relay := some ⟨socket, PortMap.new client.peer.ip⟩ }
  let remote : Socket := ⟨.remote, 0⟩
  attempt (Talk.openDatagram remote (Endpoint.wildcard localIp))
  update fun s => { s with
    remote := some (.datagram remote)
    inbound := []
    stage := .associated }
  log .info s!"UDP relay bound on {bound.text}"
  sendClient ctx (Reply.encode ⟨.success, Address.ofEndpoint bound⟩)

/-- Forwards one datagram of the client, or drops it. -/
def forward (ctx : Context) (relay : Relay) (remote : Socket) (datagram : Bytes)
    (source : Endpoint) : Handler Unit := do
  let (fate, ports) := relay.ports.fromClient datagram source
  update fun s => { s with relay := some { relay with ports } }
  match fate with
  | .forward dest payload =>
    if dest.ip.isV4 != (← session).client.localAddress.ip.isV4 then
      log .debug s!"Dropping datagram to {dest.text}: address family"
    else if !(← attempt (Talk.sendTo ctx.turns remote payload dest)) then
      log .debug s!"Dropping datagram to {dest.text}: socket busy"
  | .drop reason =>
    log (if reason = .portMapFull then .warn else .debug)
      s!"Dropping datagram from {source.text}: {reason.text}"

/-- Delivers one datagram of the remote side to the client, or drops it. -/
def deliver (ctx : Context) (relay : Relay) (payload : Bytes) (source : Endpoint) :
    Handler Unit := do
  match relay.ports.toClient payload source with
  | some (packet, dest) =>
    if !(← attempt (Talk.sendTo ctx.turns relay.socket packet dest)) then
      log .debug s!"Dropping reply to {dest.text}: socket busy"
  | none =>
    log .warn s!"Dropping datagram from {source.text}: {PortMap.unmappedText source}"

/-- Forwards the datagrams of the client that have arrived. -/
def forwardAll (ctx : Context) (remote : Socket) : (turns : Nat) → Handler Unit
  | 0 => talk .stuck
  | turns + 1 => do
    match (← session).relay with
    | none => return
    | some relay =>
      match ← attempt (Talk.receiveFrom ctx.turns relay.socket datagramSize) with
      | none => return
      | some (datagram, source) =>
        forward ctx relay remote datagram source
        forwardAll ctx remote turns

/-- Delivers the datagrams of the remote side that have arrived. -/
def deliverAll (ctx : Context) (relay : Relay) (remote : Socket) : (turns : Nat) → Handler Unit
  | 0 => talk .stuck
  | turns + 1 => do
    match ← attempt (Talk.receiveFrom ctx.turns remote datagramSize) with
    | none => return
    | some (payload, source) =>
      deliver ctx relay payload source
      deliverAll ctx relay remote turns

/-- Handles an event of the socket that faces the client. -/
def onRelay (ctx : Context) (r : Readiness) : Handler Unit := do
  let s ← session
  match s.relay with
  | none => return
  | some relay =>
    if r.error then
      fail (.transport (IoError.behindEvent (← ask (.pendingError relay.socket))))
    match s.remote with
    | some (.datagram remote) => forwardAll ctx remote ctx.turns
    | _ => return

/-- Handles an event of the socket that faces the remote side. -/
def onRemoteDatagram (ctx : Context) (r : Readiness) (remote : Socket) : Handler Unit := do
  if r.error then
    fail (.transport (IoError.behindEvent (← ask (.pendingError remote))))
  match (← session).relay with
  | none => return
  | some relay => deliverAll ctx relay remote ctx.turns

end SocksProxy.Handler
