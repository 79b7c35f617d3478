/-
  A registered stream together with its schedule and the interest it is registered with.

  * `receive`, `send` and `flush` move bytes;
  * `settle` brings the interest in line with the schedule, and `resume` does so in every case, so
    that the poller reports what arrived while the stream was not read;
  * `close` takes the stream off the poller and shuts it down.
-/
import SocksProxy.Net.Schedule
import SocksProxy.Session.Net

namespace SocksProxy

/-- A stream of a session. -/
structure Stream where
  socket : Socket
  outbound : Schedule
  interest : Interest
  deriving DecidableEq, Repr

/-- What a read found. -/
inductive Received where
  | data (b : Bytes)
  | wouldBlock
  /-- The peer closed its direction. -/
  | closed
  deriving DecidableEq, Repr

namespace Stream

/-- How many bytes one read takes at most. -/
def bufferSize : Nat := 16384

/-- A new stream. -/
def new (socket : Socket) (interest : Interest) : Stream :=
  ⟨socket, .empty, interest⟩

/-- Whether bytes are scheduled. -/
def hasPending (s : Stream) : Bool :=
  !s.outbound.isEmpty

/-- Offering bytes to a writer, as sending on a stream. -/
def sendRoute (socket : Socket) : Dialogue.Route Writer SessionNet :=
  fun data => ⟨.send socket data, id⟩

/-- Reads what has arrived. -/
def receive (turns : Nat) (s : Stream) : Talk (Except IoError Received) := do
  match ← Talk.retry (Dialogue.call (I := SessionNet) (.receive s.socket bufferSize)) turns with
  | .ok (some ⟨[], _⟩) => return .ok .closed
  | .ok (some ⟨b, _⟩) => return .ok (.data b)
  | .ok none => return .ok .wouldBlock
  | .error e => return .error e

/-- Sends bytes, or schedules what the socket does not take. -/
def send (turns : Nat) (s : Stream) (data : Bytes) : Talk (Except IoError Flush × Stream) := do
  let (r, outbound) ← (s.outbound.send turns data).via (sendRoute s.socket)
  return (r, { s with outbound })

/-- Writes what is scheduled. -/
def flush (turns : Nat) (s : Stream) : Talk (Except IoError Flush × Stream) := do
  let (r, outbound) ← (s.outbound.flush turns).via (sendRoute s.socket)
  return (r, { s with outbound })

/-- The interest that fits the schedule. -/
def fitting (s : Stream) : Interest :=
  Interest.ofPending s.hasPending

/-- Registers the stream again, with the interest that fits the schedule. -/
def resume (s : Stream) : Talk (Except IoError Unit × Stream) :=
  .ask (.reregister s.socket s.fitting) fun
    | .ok () => .done (.ok (), { s with interest := s.fitting })
    | .error e => .done (.error e, s)

/-- Registers the stream again if its interest does not fit the schedule. -/
def settle (s : Stream) : Talk (Except IoError Unit × Stream) :=
  if s.interest = s.fitting then .done (.ok (), s) else s.resume

/-- Takes the stream off the poller and shuts it down. -/
def close (s : Stream) : Talk Unit := do
  Talk.deregister s.socket
  let _ ← Dialogue.call (I := SessionNet) (.shutdown s.socket)

end Stream

end SocksProxy
