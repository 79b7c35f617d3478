/-
  Scheduled writes: the bytes of one direction of a stream that the socket has not taken yet.

  A socket that would block takes only the front of what it is offered. The rest is scheduled, and
  it goes out before anything sent later, so that the stream of bytes reaches the peer unchanged.

  * `Schedule.offer` offers bytes until they are taken or the writer would block;
  * `push`, `send`, `flush` and `take` are the operations.
-/
import SocksProxy.Bytes
import SocksProxy.Dialogue
import SocksProxy.Net.IoError

namespace SocksProxy

/-- Writing to a stream: a call offers bytes, the answer is how many of them were taken. -/
def Writer : Interface where
  Call := Bytes
  Answer data := Except IoError (Fin (data.length + 1))

/-- The bytes that wait to be written. -/
structure Schedule where
  pending : Bytes
  deriving DecidableEq, Repr

/-- Whether a send or a flush left something to write. -/
inductive Flush where
  | drained
  | pending
  deriving DecidableEq, Repr

namespace Schedule

/-- Nothing is scheduled. -/
def empty : Schedule := ⟨[]⟩

/-- Whether nothing is scheduled. -/
def isEmpty (s : Schedule) : Bool :=
  s.pending.isEmpty

/-- How many bytes are scheduled. -/
def size (s : Schedule) : Nat :=
  s.pending.length

/-- Schedules bytes without writing any. -/
def push (s : Schedule) (data : Bytes) : Schedule :=
  ⟨s.pending ++ data⟩

/-- Offers `data` until all of it is taken or the writer would block, and returns the rest. An
    interrupted call is made again, and a writer that takes nothing has failed. -/
def offer : Nat → Bytes → Dialogue Writer (Except IoError Bytes)
  | _, [] => pure (.ok [])
  | 0, _ :: _ => .stuck
  | turns + 1, b :: data =>
    .ask (b :: data) fun
      | .ok n =>
        if n.val = 0 then pure (.error (.plain .writeZero))
        else offer turns ((b :: data).drop n.val)
      | .error e =>
        if e.isWouldBlock then pure (.ok (b :: data))
        else if e.isInterrupted then offer turns (b :: data)
        else pure (.error e)

/-- What is left to write, as an answer. -/
def outcome (s : Schedule) : Flush :=
  if s.isEmpty then .drained else .pending

/-- Sends `data`, or schedules it behind what is scheduled already. Nothing is scheduled by a send
    that fails. -/
def send (turns : Nat) (s : Schedule) (data : Bytes) :
    Dialogue Writer (Except IoError Flush × Schedule) :=
  if s.isEmpty then do
    match ← offer turns data with
    | .ok rest => return (.ok (outcome ⟨rest⟩), ⟨rest⟩)
    | .error e => return (.error e, s)
  else return (.ok .pending, s.push data)

/-- Writes what is scheduled. A flush that fails leaves the schedule as it was. -/
def flush (turns : Nat) (s : Schedule) : Dialogue Writer (Except IoError Flush × Schedule) := do
  match ← offer turns s.pending with
  | .ok rest => return (.ok (outcome ⟨rest⟩), ⟨rest⟩)
  | .error e => return (.error e, s)

/-- Takes every scheduled byte out of the schedule. -/
def take (s : Schedule) : Bytes × Schedule :=
  (s.pending, empty)

end Schedule

end SocksProxy
