/-
  Relaying a stream.

  A source is read only while nothing is scheduled for its destination, so that no more than one
  read is ever held back in either direction. When the destination has drained, the source is
  resumed.
-/
import SocksProxy.Session.Basic

namespace SocksProxy.Handler

/-- Relays bytes of the client until it has no more or the remote side does not keep up. -/
def pumpClient (ctx : Context) : (turns : Nat) → Handler Unit
  | 0 => talk .stuck
  | turns + 1 => do
    let s ← session
    match s.remoteStream? with
    | none => return
    | some remote =>
      if remote.hasPending then return
      match ← attempt (s.client.stream.receive ctx.turns) with
      | .wouldBlock => return
      | .closed => fail .peerClosed
      | .data b =>
        match ← onRemoteStream (·.send ctx.turns b) with
        | some .pending =>
          let _ ← onRemoteStream (·.settle)
          return
        | _ => pumpClient ctx turns

/-- Relays bytes of the remote side until it has no more or the client does not keep up. -/
def pumpRemote (ctx : Context) : (turns : Nat) → Handler Unit
  | 0 => talk .stuck
  | turns + 1 => do
    let s ← session
    match s.remoteStream? with
    | none => return
    | some remote =>
      if s.client.stream.hasPending then return
      match ← attempt (remote.receive ctx.turns) with
      | .wouldBlock => return
      | .closed => fail .peerClosed
      | .data b =>
        match ← onClientStream (·.send ctx.turns b) with
        | .pending => onClientStream (·.settle)
        | .drained => pumpRemote ctx turns

/-- Handles an event of the remote stream of a tunnel. -/
def onTunnel (ctx : Context) (r : Readiness) : Handler Unit := do
  match (← session).remoteStream? with
  | none => return
  | some stream =>
    if r.error then
      fail (.transport (IoError.behindEvent (← ask (.pendingError stream.socket))))
    if r.hangup then fail .peerClosed
    if r.writable then
      match ← onRemoteStream (·.flush ctx.turns) with
      | some .drained =>
        let _ ← onRemoteStream (·.resume)
        onClientStream (·.resume)
      | _ => pure ()
    if r.readable then pumpRemote ctx ctx.turns

end SocksProxy.Handler
