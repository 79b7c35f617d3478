/-
  Why a session ends.
-/
import SocksProxy.Net.IoError
import SocksProxy.Wire.Error

namespace SocksProxy

/-- The cause of the end of a session. -/
inductive SessionError where
  /-- The client sent something that the protocol does not allow. -/
  | violation (fault : WireError)
  | transport (error : IoError)
  /-- Either peer closed its stream. -/
  | peerClosed
  | resolution (why : String)
  /-- No candidate could be connected to. -/
  | connect (why : String)
  /-- A limit of the session is reached. -/
  | exhausted (what : String)
  deriving DecidableEq, Repr

/-- The text of a cause. -/
def SessionError.text : SessionError → String
  | violation fault => s!"Protocol violation: {fault.message}"
  | transport error => s!"Transport error: {error.text}"
  | peerClosed => "Peer closed connection"
  | resolution why => s!"Resolution failure: {why}"
  | connect why => s!"Connect failure: {why}"
  | exhausted what => s!"Resource exhausted: {what}"

end SocksProxy
