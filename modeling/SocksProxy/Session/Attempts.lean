/-
  The attempts to reach one of several candidates, one at a time and in order.

  No candidate is tried twice, and an attempt that neither succeeds nor fails keeps the session
  waiting.
-/
import SocksProxy.Wire.Reply

namespace SocksProxy

/-- The candidates that are left, and what became of the others. -/
structure Attempts where
  remaining : List Endpoint
  /-- How many candidates were tried. -/
  started : Nat
  /-- The candidate tried last. -/
  current : Option Endpoint
  /-- The peer of the attempt that succeeded. -/
  peer : Option Endpoint
  lastError : Option IoError
  deriving DecidableEq, Repr

namespace Attempts

/-- Nothing was tried yet. -/
def new (candidates : List Endpoint) : Attempts :=
  ⟨candidates, 0, none, none, none⟩

/-- An attempt at `target` begins, which leaves the candidates `rest`. -/
def begin (a : Attempts) (target : Endpoint) (rest : List Endpoint) : Attempts :=
  { a with remaining := rest, started := a.started + 1, current := some target }

/-- Remembers why the last attempt failed. -/
def failed (a : Attempts) (error : IoError) : Attempts :=
  { a with lastError := some error }

/-- The last attempt led to `peer`; no other is needed. -/
def connected (a : Attempts) (peer : Endpoint) : Attempts :=
  { a with remaining := [], peer := some peer }

/-- The reply once every candidate has failed. It tells the address of the last one. -/
def failureReply (a : Attempts) : Reply where
  code := (a.lastError.map ReplyCode.ofConnectError).getD .hostUnreachable
  bound := (a.current.map Address.ofEndpoint).getD Address.unspecified

/-- What is said once every candidate has failed. -/
def failureText (a : Attempts) : String :=
  (a.lastError.map IoError.text).getD "no candidate addresses"

end Attempts

end SocksProxy
