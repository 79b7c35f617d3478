/-
  The negotiation that precedes a command: the client's greeting with the methods it offers, the
  server's selection, and the exchange of a user name and password.

      +----+----------+----------+        +----+------+----------+------+----------+
      |VER | NMETHODS | METHODS  |        |VER | ULEN |  UNAME   | PLEN |  PASSWD  |
      +----+----------+----------+        +----+------+----------+------+----------+

  * `Greeting.decode` reads a greeting, `AuthMethod.select` and `selection` answer it;
  * `Credentials.decode` and `Credentials.encode` read and write credentials, `authStatus` answers
    them.
-/
import SocksProxy.Wire.Request

namespace SocksProxy

/-! ## Methods -/

/-- A way to authenticate. -/
inductive AuthMethod where
  | none
  | password
  deriving DecidableEq, Repr

namespace AuthMethod

/-- The byte of a method. -/
def byte : AuthMethod → UInt8
  | none => 0
  | password => 2

/-- The method that a byte stands for. -/
def ofByte? (b : UInt8) : Option AuthMethod :=
  if b = 0 then some none else if b = 2 then some password else Option.none

/-- The name of a method. -/
def text : AuthMethod → String
  | none => "none"
  | password => "username/password"

/-- The method that the server will use: the required one, if it is offered. -/
def select (offered : Bytes) (required : AuthMethod) : Option AuthMethod :=
  if required.byte ∈ offered then some required else Option.none

end AuthMethod

/-- The answer to a greeting; `0xFF` says that no method is acceptable. -/
def selection (method : Option AuthMethod) : Bytes :=
  [protocolVersion, match method with
    | some m => m.byte
    | Option.none => 0xFF]

/-- Reads a greeting from the front of a byte string: the bytes of the offered methods, and how
    many bytes the greeting takes. -/
def Greeting.decode (b : Bytes) : Except WireError (Bytes × Nat) :=
  match b with
  | version :: count :: methods =>
    if version ≠ protocolVersion then .error (.unsupportedVersion version)
    else if b.length < 2 + count.toNat then .error (.truncated (2 + count.toNat) b.length)
    else .ok (methods.take count.toNat, 2 + count.toNat)
  | _ => .error (.truncated 2 b.length)

/-! ## Credentials -/

/-- The version byte of the user name and password exchange. -/
def authVersion : UInt8 := 1

/-- A user name and a password, as the bytes a client sent. -/
structure Credentials where
  username : Bytes
  password : Bytes
  deriving DecidableEq, Repr

/-- The bytes of a text. -/
def Bytes.ofText (text : String) : Bytes :=
  text.toByteArray.data.toList

namespace Credentials

/-- Whether these are the credentials with this name and password, byte for byte. -/
def isFor (c : Credentials) (username password : String) : Bool :=
  c.username == Bytes.ofText username && c.password == Bytes.ofText password

/-- The credentials as bytes, the way a client sends them. Longer than 255 bytes neither part can
    be sent. -/
def encode (c : Credentials) : Except WireError Bytes :=
  if c.username.length > 255 ∨ c.password.length > 255 then .error .authFailed
  else .ok (authVersion :: UInt8.ofNat c.username.length ::
    (c.username ++ UInt8.ofNat c.password.length :: c.password))

/-- Reads credentials from the front of a byte string, and tells how many bytes they take. -/
def decode (b : Bytes) : Except WireError (Credentials × Nat) :=
  match b with
  | version :: ulen :: rest =>
    if version ≠ authVersion then .error (.unsupportedAuthVersion version)
    else
      match rest.drop ulen.toNat with
      | [] => .error (.truncated (3 + ulen.toNat) b.length)
      | plen :: tail =>
        let size := 3 + ulen.toNat + plen.toNat
        if b.length < size then .error (.truncated size b.length)
        else .ok (⟨rest.take ulen.toNat, tail.take plen.toNat⟩, size)
  | _ => .error (.truncated 2 b.length)

end Credentials

/-- The answer to credentials. -/
def authStatus (accepted : Bool) : Bytes :=
  [authVersion, if accepted then 0 else 0xFF]

end SocksProxy
