/-
  Why a message of the protocol is refused, and the text that says so.
-/
import SocksProxy.Bytes
import SocksProxy.Text.Digits

namespace SocksProxy

/-- A fault of a message or of a negotiation. -/
inductive WireError where
  | unsupportedVersion (version : UInt8)
  | unsupportedAuthVersion (version : UInt8)
  | noAcceptableMethod
  | authFailed
  | commandNotSupported (command : UInt8)
  | addressTypeNotSupported (type : UInt8)
  /-- A length points past the end of the bytes at hand. -/
  | truncated (needed available : Nat)
  /-- More bytes are pending than any handshake message can have. -/
  | tooLong (pending : Nat)
  | fragmented (fragment : UInt8)
  | invalidReserved (reserved : UInt16)
  | invalidDomain (why : String)
  deriving DecidableEq, Repr

namespace WireError

/-- The text of a fault. -/
def message : WireError → String
  | unsupportedVersion v => s!"Unsupported SOCKS version: {v.toNat}"
  | unsupportedAuthVersion v => s!"Unsupported auth sub-negotiation version: {v.toNat}"
  | noAcceptableMethod => "No acceptable authentication method"
  | authFailed => "Authentication failed"
  | commandNotSupported c => s!"Command not supported: {c.toNat}"
  | addressTypeNotSupported t => s!"Address type not supported: {t.toNat}"
  | truncated n m => s!"Truncated message: needed {n} bytes, {m} available"
  | tooLong n => s!"Handshake message too long: {n} bytes pending"
  | fragmented n => s!"Fragmented UDP datagram not supported: frag {n.toNat}"
  | invalidReserved r => "Invalid reserved field: 0x" ++ Text.padded 16 4 r.toNat
  | invalidDomain why => s!"Invalid domain name: {why}"

/-- Whether more bytes could complete the message. -/
def isTruncated : WireError → Bool
  | truncated _ _ => true
  | _ => false

end WireError

/-- Refuses a message that has fewer than `n` bytes. -/
def need (b : Bytes) (n : Nat) : Except WireError Unit :=
  if b.length < n then .error (.truncated n b.length) else .ok ()

end SocksProxy
