/-
  Readiness events, and the batches in which the poller delivers them.

  A batch is handled in order. When a session ends, `invalidate` closes its events in the rest of
  the batch, so that none of them reaches it any more.
-/
import SocksProxy.Poll.Token

namespace SocksProxy

/-- What a registered stream waits for. -/
inductive Interest where
  | read
  | write
  deriving DecidableEq, Repr

/-- The interest of a stream: to write while bytes are scheduled, else to read. -/
def Interest.ofPending (pending : Bool) : Interest :=
  if pending then .write else .read

/-- What an event says about a socket. -/
structure Readiness where
  readable : Bool := false
  writable : Bool := false
  /-- Both directions are closed. -/
  hangup : Bool := false
  error : Bool := false
  deriving DecidableEq, Repr

/-- Whether the socket is of no more use. -/
def Readiness.isFatal (r : Readiness) : Bool :=
  r.hangup || r.error

/-- The flags that the poller reports. -/
structure PollFlags where
  readable : Bool := false
  writable : Bool := false
  readClosed : Bool := false
  writeClosed : Bool := false
  error : Bool := false
  deriving DecidableEq, Repr

/-- Only a socket that is closed both ways counts as hung up. -/
def PollFlags.readiness (f : PollFlags) : Readiness where
  readable := f.readable
  writable := f.writable
  hangup := f.readClosed && f.writeClosed
  error := f.error

/-- What an event is addressed to. -/
inductive Target where
  | listener
  | waker
  | socket (key : Key)
  /-- Nothing any more. -/
  | closed
  deriving DecidableEq, Repr

/-- The target that a token stands for. -/
def Target.ofToken (t : Token) : Target :=
  if t = Token.listener then .listener
  else if t = Token.waker then .waker
  else match Key.ofToken? t with
    | some key => .socket key
    | none => .closed

/-- Whether the target is a socket of the session. -/
def Target.isOf (t : Target) (id : SessionId) : Bool :=
  match t with
  | .socket key => key.session == id
  | _ => false

/-- One entry of a batch. -/
structure ReadyEvent where
  target : Target
  readiness : Readiness
  deriving DecidableEq, Repr

namespace ReadyEvent

/-- The entry that takes the place of one that is closed. -/
def closed : ReadyEvent := ⟨.closed, {}⟩

/-- The entry for what the poller reports. -/
def ofPoll (t : Token) (flags : PollFlags) : ReadyEvent :=
  ⟨Target.ofToken t, flags.readiness⟩

end ReadyEvent

/-- Closes every entry for the session. -/
def invalidate (id : SessionId) (batch : List ReadyEvent) : List ReadyEvent :=
  batch.map fun e => if e.target.isOf id then .closed else e

/-- How many entries are for the session. -/
def countOf (id : SessionId) (batch : List ReadyEvent) : Nat :=
  batch.countP fun e => e.target.isOf id

end SocksProxy
