/-
  Destination and bound addresses as they stand in messages:

      +------+----------+----------+
      | ATYP |   ADDR   |   PORT   |
      +------+----------+----------+
      |  1   | variable |    2     |
      +------+----------+----------+

  with 4 bytes for IPv4 (type 1), 16 for IPv6 (type 4), and a length byte followed by that many
  bytes of UTF-8 for a domain name (type 3).

  * `Address.encode` and `Address.decode` write and read one;
  * `Address.length_encode`: what is written has `wireLength` bytes.
-/
import SocksProxy.Net.IpText
import SocksProxy.Wire.Error

namespace SocksProxy

/-! ## Values -/

/-- A domain name that fits behind a length byte. -/
structure DomainName where
  text : String
  size_le : text.utf8ByteSize ≤ 255
  deriving DecidableEq, Repr

namespace DomainName

/-- The bytes of the name. -/
def bytes (name : DomainName) : Bytes :=
  name.text.toByteArray.data.toList

/-- Number of bytes of the name. -/
def size (name : DomainName) : Nat :=
  name.text.utf8ByteSize

/-- The name with this text, if it is not too long. -/
def ofText (text : String) : Except WireError DomainName :=
  if h : text.utf8ByteSize ≤ 255 then .ok ⟨text, h⟩
  else .error (.invalidDomain s!"{text.utf8ByteSize} bytes exceeds 255")

/-- The name with these bytes. -/
def ofBytes (b : Bytes) : Except WireError DomainName :=
  match String.fromUTF8? ⟨b.toArray⟩ with
  | some text => ofText text
  | none => .error (.invalidDomain "name is not valid UTF-8")

@[simp] theorem length_bytes (name : DomainName) : name.bytes.length = name.size := rfl

end DomainName

/-- Where an address points, without the port. -/
inductive Host where
  | ipv4 (ip : IPv4)
  | ipv6 (ip : IPv6)
  | domain (name : DomainName)
  deriving DecidableEq, Repr

/-- An address of a message. -/
structure Address where
  host : Host
  port : UInt16
  deriving DecidableEq, Repr

namespace Address

/-- The address of an endpoint. -/
def ofEndpoint (e : Endpoint) : Address :=
  match e.ip with
  | .v4 ip => ⟨.ipv4 ip, e.port⟩
  | .v6 ip => ⟨.ipv6 ip, e.port⟩

/-- The address `0.0.0.0:0`, for replies that have no address to tell. -/
def unspecified : Address :=
  ⟨.ipv4 IPv4.unspecified, 0⟩

/-- The endpoint that an address names without resolution. -/
def endpoint? (a : Address) : Option Endpoint :=
  match a.host with
  | .ipv4 ip => some ⟨.v4 ip, a.port⟩
  | .ipv6 ip => some ⟨.v6 ip, a.port⟩
  | .domain _ => none

/-- The text of an address; an IPv6 address stands in brackets. -/
def text (a : Address) : String :=
  match a.host with
  | .ipv4 ip => Endpoint.text ⟨.v4 ip, a.port⟩
  | .ipv6 ip => Endpoint.text ⟨.v6 ip, a.port⟩
  | .domain name => s!"{name.text}:{a.port.toNat}"

/-! ## Writing -/

/-- The byte that tells the kind of an address. -/
def typeByte (a : Address) : UInt8 :=
  match a.host with
  | .ipv4 _ => 1
  | .domain _ => 3
  | .ipv6 _ => 4

/-- Number of bytes of the written address. -/
def wireLength (a : Address) : Nat :=
  match a.host with
  | .ipv4 _ => 7
  | .domain name => 4 + name.size
  | .ipv6 _ => 19

/-- The address as bytes. -/
def encode (a : Address) : Bytes :=
  a.typeByte ::
    (match a.host with
      | .ipv4 ip => ip.octets
      | .ipv6 ip => ip.octets
      | .domain name => UInt8.ofNat name.size :: name.bytes) ++ Bytes.be16 a.port

@[simp] theorem length_encode (a : Address) : a.encode.length = a.wireLength := by
  rcases a with ⟨_ | _ | _, _⟩ <;> simp [encode, wireLength]; omega

/-! ## Reading -/

/-- The word that two bytes at the front of a string make up. -/
def portOf : Bytes → UInt16
  | a :: b :: _ => Bytes.word16 a b
  | _ => 0

/-- The sixteen bytes behind the type byte, as an address. -/
def ipv6Of (b : Bytes) (h : 19 ≤ b.length) : IPv6 :=
  IPv6.ofOctets ((b.drop 1).take 16) (by simp only [List.length_take, List.length_drop]; omega)

/-- Reads an address from the front of a byte string, and tells how many bytes it takes. -/
def decode (b : Bytes) : Except WireError (Address × Nat) :=
  match b with
  | [] => .error (.truncated 1 0)
  | 1 :: rest =>
    match rest with
    | w :: x :: y :: z :: p :: q :: _ => .ok (⟨.ipv4 ⟨w, x, y, z⟩, Bytes.word16 p q⟩, 7)
    | _ => .error (.truncated 7 b.length)
  | 4 :: _ =>
    if h : 19 ≤ b.length then .ok (⟨.ipv6 (ipv6Of b h), portOf (b.drop 17)⟩, 19)
    else .error (.truncated 19 b.length)
  | 3 :: rest =>
    match rest with
    | [] => .error (.truncated 2 1)
    | n :: rest =>
      if b.length < 4 + n.toNat then .error (.truncated (4 + n.toNat) b.length)
      else do
        let name ← DomainName.ofBytes (rest.take n.toNat)
        .ok (⟨.domain name, portOf (rest.drop n.toNat)⟩, 4 + n.toNat)
  | t :: _ => .error (.addressTypeNotSupported t)

end Address

end SocksProxy
