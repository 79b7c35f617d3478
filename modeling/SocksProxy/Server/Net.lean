/-
  What the server asks of the network and of its surroundings.

  * `ServerNet` holds the calls of the server itself, and those that a session makes, each with the
    id of the session;
  * `StopNet` holds the calls that a request to stop makes from outside;
  * `Failure` is why a server gives up.
-/
import SocksProxy.Session.Net

namespace SocksProxy

/-- What observers are told about the server. -/
inductive ServerNotice where
  | started (localAddress : Endpoint)
  | stopped
  | clientAccepted (id : SessionId) (peer : Endpoint)
  deriving DecidableEq, Repr

/-- A call of the server. -/
inductive ServerCall where
  /-- Opens the socket to listen on, for the family of an address. -/
  | openListener (isV4 : Bool)
  | reuseAddress
  | nonblocking
  | bindListener (addr : Endpoint)
  | listen (backlog : Nat)
  | listenerAddress
  | openPoll
  | registerListener
  | deregisterListener
  | openWaker
  /-- Reads the resolver file of the system; nothing if it cannot be read. -/
  | resolverFile
  /-- A random id for the first query. -/
  | firstQueryId
  | stopRequested
  /-- Waits for events. -/
  | poll
  /-- Accepts a client as the session `id`, and tells its address. -/
  | accept (id : SessionId)
  | log (id : Option SessionId) (line : LogLine)
  | notify (notice : ServerNotice)
  | session (id : SessionId) (c : SessionCall)
  deriving DecidableEq, Repr

/-- What a call of the server is answered with. -/
def ServerCall.Answer : ServerCall → Type
  | openListener _ | reuseAddress | nonblocking | bindListener _ | listen _ | openPoll
  | registerListener | deregisterListener | openWaker => Except IoError Unit
  | listenerAddress | accept _ => Except IoError Endpoint
  | resolverFile => Option String
  | firstQueryId => UInt16
  | stopRequested => Bool
  | poll => Except IoError (List (Token × PollFlags))
  | log _ _ | notify _ => Unit
  | session _ c => c.Answer

/-- The surroundings of a server. -/
def ServerNet : Interface where
  Call := ServerCall
  Answer := ServerCall.Answer

/-- The calls of a session, as calls of the server. -/
def sessionRoute (session : SessionId) : Dialogue.Route SessionNet ServerNet :=
  fun c => ⟨.session session c, id⟩

/-- Why a server gives up: the call that failed, and what it was for. -/
structure Failure where
  purpose : Option String
  cause : IoError
  deriving DecidableEq, Repr

namespace Failure

/-- The text of a failure, with its cause. -/
def text (f : Failure) : String :=
  match f.purpose with
  | some purpose => s!"{purpose}: {f.cause.text}"
  | none => f.cause.text

/-- The text of a failure without what is behind it. -/
def headline (f : Failure) : String :=
  f.purpose.getD f.cause.text

end Failure

/-! ## Requests to stop -/

/-- A call of a request to stop. -/
inductive StopCall where
  /-- Leaves word that the server is to stop. -/
  | request
  | wake
  | log (line : LogLine)
  deriving DecidableEq, Repr

/-- What a call of a request to stop is answered with. -/
def StopCall.Answer : StopCall → Type
  | request | log _ => Unit
  | wake => Except IoError Unit

/-- The surroundings of a request to stop. -/
def StopNet : Interface where
  Call := StopCall
  Answer := StopCall.Answer

/-- Asks the server to stop and wakes it. -/
def requestStop : Dialogue StopNet Unit :=
  .ask .request fun () =>
    .ask .wake fun
      | .ok () => .done ()
      | .error e => .ask (.log ⟨.warn, .server, s!"Failed to wake server loop: {e.text}"⟩) .done

end SocksProxy
