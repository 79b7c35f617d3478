/-
  The headers of datagrams: what is written is what is read.

  * `Datagram.opened? d` is the endpoint that the header of `d` names, if it names one, and the payload;
  * `Datagram.opened?_eq_some`: those are the datagrams that `Datagram.encode` makes of an endpoint and a
    payload, and no others.
-/
import SocksProxy.Proofs.Codecs

namespace SocksProxy

/-! ## Addresses -/

namespace Address

theorem endpoint?_ofEndpoint (e : Endpoint) : (ofEndpoint e).endpoint? = some e := by
  obtain ⟨ip, port⟩ := e
  cases ip <;> rfl

theorem eq_ofEndpoint {a : Address} {e : Endpoint} (h : a.endpoint? = some e) : a = ofEndpoint e := by
  obtain ⟨host, port⟩ := a
  cases host <;> cases h <;> rfl

end Address

/-! ## Datagrams -/

namespace Datagram

/-- What the header of a datagram names, if it names an endpoint, and the payload. -/
def opened? (d : Bytes) : Option (Endpoint × Bytes) :=
  match decodeHeader d with
  | .ok (a, n) => a.endpoint?.map fun dest => (dest, d.drop n)
  | .error _ => none

theorem encode_of_decodeHeader {d : Bytes} {a : Address} {n : Nat}
    (h : decodeHeader d = .ok (a, n)) : d = encode a (d.drop n) := by
  obtain ⟨hn, he⟩ := (decodeHeader_inverts d a n).1 h
  rw [encode, he, List.take_append_drop]

theorem opened?_encode (e : Endpoint) (payload : Bytes) :
    opened? (encode (Address.ofEndpoint e) payload) = some (e, payload) := by
  simp only [opened?, decodeHeader_encode, Address.endpoint?_ofEndpoint, Option.map_some]
  rw [encode, ← length_encodeHeader, List.drop_left]

/-- **A header names an endpoint if it was written for it.** What follows the header is the payload. -/
theorem opened?_eq_some {d : Bytes} {dest : Endpoint} {payload : Bytes} :
    opened? d = some (dest, payload) ↔ d = encode (Address.ofEndpoint dest) payload := by
  constructor
  · intro h
    unfold opened? at h
    split at h
    · next a n hd =>
      obtain ⟨e, he, heq⟩ := Option.map_eq_some_iff.1 h
      cases heq
      rw [← Address.eq_ofEndpoint he]
      exact encode_of_decodeHeader hd
    · cases h
  · rintro rfl
    exact opened?_encode dest payload

end Datagram

end SocksProxy
