/-
  Replies to a command:

      +----+-----+-------+---------+
      |VER | REP |  RSV  | ADDRESS |
      +----+-----+-------+---------+
      | 1  |  1  |   1   | variable|
      +----+-----+-------+---------+
-/
import SocksProxy.Net.IoError
import SocksProxy.Wire.Request

namespace SocksProxy

/-- The outcome of a command that a reply tells. -/
inductive ReplyCode where
  | success
  | generalFailure
  | notAllowed
  | networkUnreachable
  | hostUnreachable
  | connectionRefused
  | ttlExpired
  | commandNotSupported
  | addressTypeNotSupported
  deriving DecidableEq, Repr

namespace ReplyCode

/-- The byte of a code. -/
def byte : ReplyCode → UInt8
  | success => 0
  | generalFailure => 1
  | notAllowed => 2
  | networkUnreachable => 3
  | hostUnreachable => 4
  | connectionRefused => 5
  | ttlExpired => 6
  | commandNotSupported => 7
  | addressTypeNotSupported => 8

/-- Every code, by its byte. -/
def all : List ReplyCode :=
  [success, generalFailure, notAllowed, networkUnreachable, hostUnreachable, connectionRefused,
   ttlExpired, commandNotSupported, addressTypeNotSupported]

/-- The code that a byte stands for. -/
def ofByte? (b : UInt8) : Option ReplyCode :=
  all[b.toNat]?

/-- The text of a code. -/
def text : ReplyCode → String
  | success => "succeeded"
  | generalFailure => "general failure"
  | notAllowed => "connection not allowed"
  | networkUnreachable => "network unreachable"
  | hostUnreachable => "host unreachable"
  | connectionRefused => "connection refused"
  | ttlExpired => "TTL expired"
  | commandNotSupported => "command not supported"
  | addressTypeNotSupported => "address type not supported"

/-- The code that comes closest to a failed socket call. -/
def ofIoError (e : IoError) : ReplyCode :=
  match e.kind with
  | .connectionRefused => connectionRefused
  | .networkUnreachable | .networkDown => networkUnreachable
  | .hostUnreachable | .timedOut | .addrNotAvailable => hostUnreachable
  | .permissionDenied => notAllowed
  | _ => generalFailure

/-- The code for a failed outbound connection: a failure without a closer match means that the
    host was not reached. -/
def ofConnectError (e : IoError) : ReplyCode :=
  match ofIoError e with
  | generalFailure => hostUnreachable
  | code => code

end ReplyCode

/-- A reply: its code and the address that it tells. -/
structure Reply where
  code : ReplyCode
  bound : Address
  deriving DecidableEq, Repr

namespace Reply

/-- The reply as bytes. -/
def encode (r : Reply) : Bytes :=
  protocolVersion :: r.code.byte :: 0 :: r.bound.encode

/-- Reads the code byte and the address of a reply, the way a client does. -/
def decode (b : Bytes) : Except WireError (UInt8 × Address) :=
  match b with
  | version :: code :: _ :: t :: rest =>
    if version ≠ protocolVersion then .error (.unsupportedVersion version)
    else do
      let (address, _) ← Address.decode (t :: rest)
      .ok (code, address)
  | _ => .error (.truncated 4 b.length)

/-- A failure, with no address to tell. -/
def failure (code : ReplyCode) : Reply :=
  ⟨code, Address.unspecified⟩

end Reply

end SocksProxy
