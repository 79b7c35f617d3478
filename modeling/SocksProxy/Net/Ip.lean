/-
  IP addresses, and endpoints: an IP address with a port.

  * `IPv4`, `IPv6`, `Ip`, `Endpoint` are the values;
  * `octets` is the form in network byte order, `IPv6.ofOctets_octets` and `IPv6.octets_ofOctets`
    say that `ofOctets` reads it back;
  * `Endpoint.wildcard` is the address that a socket is bound to when any local one will do.
-/
import SocksProxy.Bytes

namespace SocksProxy

/-! ## Addresses -/

/-- An IPv4 address, its bytes in order. -/
structure IPv4 where
  a : UInt8
  b : UInt8
  c : UInt8
  d : UInt8
  deriving DecidableEq, Repr, Inhabited

/-- An IPv6 address, as its eight groups of 16 bits. -/
structure IPv6 where
  groups : List UInt16
  length_groups : groups.length = 8
  deriving DecidableEq, Repr

/-- An IP address of either family. -/
inductive Ip where
  | v4 (ip : IPv4)
  | v6 (ip : IPv6)
  deriving DecidableEq, Repr

/-- An address that a socket can be bound to or connected to. -/
structure Endpoint where
  ip : Ip
  port : UInt16
  deriving DecidableEq, Repr

/-! ## Network byte order -/

/-- The four bytes of an IPv4 address. -/
def IPv4.octets (ip : IPv4) : Bytes :=
  [ip.a, ip.b, ip.c, ip.d]

/-- The sixteen bytes of an IPv6 address. -/
def IPv6.octets (ip : IPv6) : Bytes :=
  ip.groups.flatMap Bytes.be16

/-- The IPv6 address written as these sixteen bytes. -/
def IPv6.ofOctets (b : Bytes) (h : b.length = 16) : IPv6 where
  groups := Bytes.words16 b
  length_groups := by rw [Bytes.length_words16, h]

theorem length_flatMap_be16 (ws : List UInt16) : (ws.flatMap Bytes.be16).length = 2 * ws.length := by
  induction ws with
  | nil => rfl
  | cons w ws ih => simp only [List.flatMap_cons, List.length_append, Bytes.length_be16, ih,
      List.length_cons]; omega

@[simp] theorem IPv4.length_octets (ip : IPv4) : ip.octets.length = 4 := rfl

@[simp] theorem IPv6.length_octets (ip : IPv6) : ip.octets.length = 16 := by
  rw [IPv6.octets, length_flatMap_be16, ip.length_groups]

theorem IPv6.ofOctets_octets (ip : IPv6) : IPv6.ofOctets ip.octets ip.length_octets = ip := by
  simp only [IPv6.ofOctets, IPv6.octets, Bytes.words16_flatMap_be16]

theorem flatMap_be16_words16 (b : Bytes) (h : b.length % 2 = 0) :
    (Bytes.words16 b).flatMap Bytes.be16 = b := by
  fun_induction Bytes.words16 b with
  | case1 x y rest ih =>
    have : rest.length % 2 = 0 := by simp only [List.length_cons] at h; omega
    rw [List.flatMap_cons, Bytes.be16_word16, ih this]; rfl
  | case2 b hb =>
    rcases b with _ | ⟨x, _ | ⟨y, rest⟩⟩
    · rfl
    · simp at h
    · exact absurd rfl (hb x y rest)

theorem IPv6.octets_ofOctets (b : Bytes) (h : b.length = 16) : (IPv6.ofOctets b h).octets = b :=
  flatMap_be16_words16 b (by omega)

/-! ## Families and wildcards -/

/-- The address `0.0.0.0`. -/
def IPv4.unspecified : IPv4 := ⟨0, 0, 0, 0⟩

/-- The address `::`. -/
def IPv6.unspecified : IPv6 := ⟨[0, 0, 0, 0, 0, 0, 0, 0], rfl⟩

/-- Whether the address is an IPv4 address. -/
def Ip.isV4 : Ip → Bool
  | .v4 _ => true
  | .v6 _ => false

/-- The unspecified address of the same family. -/
def Ip.unspecified : Ip → Ip
  | .v4 _ => .v4 IPv4.unspecified
  | .v6 _ => .v6 IPv6.unspecified

/-- The unspecified address of the family of `ip`, with a port left to the system. -/
def Endpoint.wildcard (ip : Ip) : Endpoint :=
  ⟨ip.unspecified, 0⟩

end SocksProxy
