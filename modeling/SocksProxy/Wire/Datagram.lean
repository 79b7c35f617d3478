/-
  Datagrams between a client and the relay: a header that names the other side, then the payload.

      +----+------+---------+----------+
      |RSV | FRAG | ADDRESS |   DATA   |
      +----+------+---------+----------+
      | 2  |  1   | variable| variable |
      +----+------+---------+----------+

  The reserved bytes are zero, and only whole datagrams (fragment zero) are relayed.
-/
import SocksProxy.Wire.Address

namespace SocksProxy.Datagram

/-- The header that names `a`. -/
def encodeHeader (a : Address) : Bytes :=
  0 :: 0 :: 0 :: a.encode

/-- A datagram with a header that names `a`. -/
def encode (a : Address) (payload : Bytes) : Bytes :=
  encodeHeader a ++ payload

/-- Reads a header from the front of a datagram, and tells how many bytes it takes. -/
def decodeHeader (b : Bytes) : Except WireError (Address × Nat) :=
  match b with
  | r :: s :: fragment :: rest =>
    if Bytes.word16 r s ≠ 0 then .error (.invalidReserved (Bytes.word16 r s))
    else if fragment ≠ 0 then .error (.fragmented fragment)
    else do
      let (address, n) ← Address.decode rest
      .ok (address, 3 + n)
  | _ => .error (.truncated 3 b.length)

end SocksProxy.Datagram
