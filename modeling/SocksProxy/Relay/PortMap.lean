/-
  The port map of a UDP association.

  A datagram of the client names its destination in a header. The payload leaves through the
  remote-facing socket, and the map remembers, for the destination port, the client port that sent
  it. A datagram that comes back is told apart by its source port alone.

  * `fromClient` and `toClient` say what becomes of a datagram of either side;
  * `DropReason` says why a datagram of the client goes no further.
-/
import Std.Data.HashMap
import SocksProxy.Wire.Datagram

namespace SocksProxy

/-- Why a datagram of the client is not forwarded. -/
inductive DropReason where
  /-- It comes from another address than the client's. -/
  | foreignSource (source : Endpoint)
  | malformed (fault : WireError)
  | domainDestination
  /-- The map is full and the destination port is not in it. -/
  | portMapFull
  deriving DecidableEq, Repr

/-- The text of a reason. -/
def DropReason.text : DropReason → String
  | foreignSource source => s!"foreign source {source.text}"
  | malformed fault => s!"malformed header: {fault.message}"
  | domainDestination => "domain destination not supported"
  | portMapFull => "port map full"

/-- What becomes of a datagram of the client. -/
inductive Outbound where
  | forward (dest : Endpoint) (payload : Bytes)
  | drop (reason : DropReason)
  deriving DecidableEq, Repr

/-- The client ports behind the remote ports of one association. -/
structure PortMap where
  client : Ip
  capacity : Nat
  ports : Std.HashMap UInt16 UInt16

namespace PortMap

/-- How many remote ports an association remembers. -/
def defaultCapacity : Nat := 4096

/-- The empty map of this capacity for the client at `ip`. -/
def withCapacity (ip : Ip) (capacity : Nat) : PortMap :=
  ⟨ip, capacity, ∅⟩

/-- The empty map for the client at `ip`. -/
def new (ip : Ip) : PortMap :=
  withCapacity ip defaultCapacity

/-- How many remote ports are mapped. -/
def size (m : PortMap) : Nat :=
  m.ports.size

/-- The client port behind a remote port. -/
def clientPort? (m : PortMap) (port : UInt16) : Option UInt16 :=
  m.ports[port]?

/-- What becomes of a datagram of the client. Any port of the client's address may send. -/
def fromClient (m : PortMap) (datagram : Bytes) (source : Endpoint) : Outbound × PortMap :=
  if source.ip ≠ m.client then (.drop (.foreignSource source), m)
  else
    match Datagram.decodeHeader datagram with
    | .error fault => (.drop (.malformed fault), m)
    | .ok (address, n) =>
      match address.endpoint? with
      | none => (.drop .domainDestination, m)
      | some dest =>
        if !m.ports.contains dest.port && decide (m.capacity ≤ m.ports.size) then
          (.drop .portMapFull, m)
        else (.forward dest (datagram.drop n), { m with ports := m.ports.insert dest.port source.port })

/-- What becomes of a datagram of the remote side: the packet for the client, and where to send it.
    A remote port that is not mapped has no client. -/
def toClient (m : PortMap) (payload : Bytes) (remote : Endpoint) : Option (Bytes × Endpoint) :=
  (m.clientPort? remote.port).map fun port =>
    (Datagram.encode (Address.ofEndpoint remote) payload, ⟨m.client, port⟩)

/-- The text about a datagram whose remote port is not mapped. -/
def unmappedText (remote : Endpoint) : String :=
  s!"no client mapping for remote port {remote.port.toNat}"

end PortMap

end SocksProxy
