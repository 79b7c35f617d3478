/-
  Command requests:

      +----+-----+-------+---------+
      |VER | CMD |  RSV  | ADDRESS |
      +----+-----+-------+---------+
      | 1  |  1  |   1   | variable|
      +----+-----+-------+---------+

  Any value of the reserved byte is accepted.
-/
import SocksProxy.Wire.Address

namespace SocksProxy

/-- The version byte of the protocol. -/
def protocolVersion : UInt8 := 5

/-- What a client asks for. -/
inductive Command where
  | connect
  | bind
  | associate
  /-- A command byte without a meaning. -/
  | other (byte : UInt8)
  deriving DecidableEq, Repr

namespace Command

/-- The command that a byte stands for. -/
def ofByte (b : UInt8) : Command :=
  if b = 1 then connect else if b = 2 then bind else if b = 3 then associate else other b

/-- The byte of a command. -/
def byte : Command → UInt8
  | connect => 1
  | bind => 2
  | associate => 3
  | other b => b

theorem byte_ofByte (b : UInt8) : (ofByte b).byte = b := by
  unfold ofByte
  split
  · simp_all [byte]
  · split
    · simp_all [byte]
    · split <;> simp_all [byte]

/-- The name of a command. -/
def text : Command → String
  | connect => "CONNECT"
  | bind => "BIND"
  | associate => "UDP ASSOCIATE"
  | other b => "UNKNOWN(0x" ++ Text.padded 16 2 b.toNat ++ ")"

end Command

/-- A command and the address it is about. -/
structure Request where
  command : Command
  address : Address
  deriving DecidableEq, Repr

namespace Request

/-- The request as bytes, the way a client sends it. -/
def encode (r : Request) : Bytes :=
  protocolVersion :: r.command.byte :: 0 :: r.address.encode

/-- Reads a request from the front of a byte string, and tells how many bytes it takes. -/
def decode (b : Bytes) : Except WireError (Request × Nat) :=
  match b with
  | version :: command :: _ :: t :: rest =>
    if version ≠ protocolVersion then .error (.unsupportedVersion version)
    else do
      let (address, n) ← Address.decode (t :: rest)
      .ok (⟨Command.ofByte command, address⟩, 3 + n)
  | _ => .error (.truncated 4 b.length)

end Request

end SocksProxy
