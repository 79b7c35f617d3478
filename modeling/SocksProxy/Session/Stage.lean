/-
  The stages of a session.

  A session starts in a handshake. A request for a tunnel leads, perhaps through the resolution of
  a name, to a connected stream; a request for an association to a pair of datagram sockets.
-/

namespace SocksProxy

/-- How far a session has come. -/
inductive Stage where
  /-- Waits for the greeting. -/
  | accepted
  /-- Waits for credentials. -/
  | authRequested
  /-- Waits for a request. -/
  | authenticated
  /-- Waits for a name server. -/
  | resolving
  /-- Waits for an outbound connection. -/
  | connecting
  /-- Relays a stream. -/
  | connected
  /-- Relays datagrams. -/
  | associated
  deriving DecidableEq, Repr

namespace Stage

/-- Whether the client is still negotiating. -/
def isHandshake : Stage → Bool
  | accepted | authRequested | authenticated => true
  | _ => false

/-- The name of a stage. -/
def text : Stage → String
  | accepted => "accepted"
  | authRequested => "auth-requested"
  | authenticated => "authenticated"
  | resolving => "resolving"
  | connecting => "connecting"
  | connected => "connected"
  | associated => "associated"

end Stage

end SocksProxy
