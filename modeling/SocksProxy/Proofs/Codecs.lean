/-
  What is read from the wire is what is written to it.

  A value is read from the front of a byte string if it is written there, in as many bytes as it takes,
  and whatever follows. Nothing else is accepted.

  * `Inverts` says so of a decoder;
  * `Address.decode_inverts`, `Datagram.decodeHeader_inverts` and `Credentials.decode_inverts`: it holds of
    addresses, of headers and of credentials;
  * **`codecs_invert`** is about all messages that have an address.
-/
import SocksProxy.Wire.Datagram
import SocksProxy.Wire.Negotiation
import SocksProxy.Wire.Reply

namespace SocksProxy

/-! ## Decoders that undo writing -/

section
variable {α : Type} {decode : Bytes → Except WireError (α × Nat)} {writes : α → Bytes → Prop}
  {a : α} {b e : Bytes}

/-- The decoder finds a value in the first `n` bytes if that is how the value is written, and nothing in
    any other case. -/
def Inverts (decode : Bytes → Except WireError (α × Nat)) (writes : α → Bytes → Prop) : Prop :=
  ∀ b a n, decode b = .ok (a, n) ↔ n ≤ b.length ∧ writes a (b.take n)

namespace Inverts

theorem of_append (hread : ∀ {a e}, writes a e → ∀ rest, decode (e ++ rest) = .ok (a, e.length))
    (hwritten : ∀ {b a n}, decode b = .ok (a, n) →
      ∃ e rest, b = e ++ rest ∧ n = e.length ∧ writes a e) : Inverts decode writes := by
  intro b a n
  constructor
  · intro h
    obtain ⟨e, rest, rfl, rfl, he⟩ := hwritten h
    rw [List.take_left, List.length_append]
    exact ⟨Nat.le_add_right _ _, he⟩
  · rintro ⟨hn, he⟩
    have h := hread he (b.drop n)
    rwa [List.take_append_drop, List.length_take, Nat.min_eq_left hn] at h

theorem append (h : Inverts decode writes) (he : writes a e) (rest : Bytes) :
    decode (e ++ rest) = .ok (a, e.length) := by
  refine (h _ _ _).2 ⟨?_, by rwa [List.take_left]⟩
  rw [List.length_append]
  exact Nat.le_add_right _ _

/-- What is refused does not begin with anything that is written for a value. -/
theorem error_iff (h : Inverts decode writes) :
    (∃ fault, decode b = .error fault) ↔ ∀ a e, writes a e → ¬ e <+: b := by
  constructor
  · rintro ⟨fault, hfault⟩ a e he ⟨rest, rfl⟩
    rw [h.append he] at hfault
    nomatch hfault
  · intro hnone
    cases hd : decode b with
    | error fault => exact ⟨fault, rfl⟩
    | ok found =>
      have hfront := List.take_prefix found.2 b
      exact absurd hfront (hnone found.1 _ ((h b found.1 found.2).1 hd).2)

end Inverts

end

/-! ## Addresses -/

theorem UInt8.toNat_ofNat_of_le {n : Nat} (h : n ≤ 255) : (UInt8.ofNat n).toNat = n := by
  rw [UInt8.toNat_ofNat']
  omega

/-- A name is read from the bytes that it has. -/
theorem DomainName.ofBytes_eq_ok {b : Bytes} {name : DomainName} :
    ofBytes b = .ok name ↔ name.bytes = b := by
  constructor
  · intro h
    simp only [ofBytes, String.fromUTF8?] at h
    split at h
    · next text htext =>
      split at htext
      · cases htext
        simp only [ofText] at h
        split at h
        · cases h
          rfl
        · nomatch h
      · nomatch htext
    · nomatch h
  · rintro rfl
    have hread : String.fromUTF8? name.text.toByteArray = some name.text :=
      dif_pos name.text.isValidUTF8
    simp only [ofBytes, bytes, Array.toArray_toList, hread]
    exact dif_pos name.size_le

namespace Address

theorem portOf_be16 (port : UInt16) (rest : Bytes) : portOf (Bytes.be16 port ++ rest) = port :=
  Bytes.word16_be16 port

theorem exists_portOf {b : Bytes} (h : 2 ≤ b.length) : ∃ rest, b = Bytes.be16 (portOf b) ++ rest := by
  rcases b with _ | ⟨p, _ | ⟨q, rest⟩⟩
  · cases h
  · simp at h
  · exact ⟨rest, congrArg (· ++ rest) (Bytes.be16_word16 p q).symm⟩

/-- An address is read from the front of what was written. -/
theorem decode_encode_append (a : Address) (rest : Bytes) :
    decode (a.encode ++ rest) = .ok (a, a.wireLength) := by
  obtain ⟨host, port⟩ := a
  cases host with
  | ipv4 ip =>
    show Except.ok (Address.mk (.ipv4 ip) (portOf (Bytes.be16 port ++ rest)), 7) = _
    rw [portOf_be16]
    rfl
  | ipv6 ip =>
    have hwritten : (⟨.ipv6 ip, port⟩ : Address).encode ++ rest =
        4 :: (ip.octets ++ (Bytes.be16 port ++ rest)) := by
      simp only [encode, typeByte, List.cons_append, List.append_assoc]
    have hlen : 19 ≤ (4 :: (ip.octets ++ (Bytes.be16 port ++ rest))).length := by
      simp only [List.length_cons, List.length_append, IPv6.length_octets, Bytes.length_be16]
      omega
    have hip : ipv6Of (4 :: (ip.octets ++ (Bytes.be16 port ++ rest))) hlen = ip := by
      simp only [ipv6Of, List.drop_succ_cons, List.drop_zero, List.take_left' ip.length_octets]
      exact IPv6.ofOctets_octets ip
    have hport : portOf ((4 :: (ip.octets ++ (Bytes.be16 port ++ rest))).drop 17) = port := by
      rw [List.drop_succ_cons, List.drop_left' ip.length_octets, portOf_be16]
    rw [hwritten]
    exact (dif_pos hlen).trans (by rw [hip, hport]; rfl)
  | domain name =>
    have hwritten : (⟨.domain name, port⟩ : Address).encode ++ rest =
        3 :: UInt8.ofNat name.size :: (name.bytes ++ (Bytes.be16 port ++ rest)) := by
      simp only [encode, typeByte, List.cons_append, List.append_assoc]
    have hsize : (UInt8.ofNat name.size).toNat = name.bytes.length := by
      rw [DomainName.length_bytes]
      exact UInt8.toNat_ofNat_of_le name.size_le
    have hname : DomainName.ofBytes name.bytes = .ok name := DomainName.ofBytes_eq_ok.2 rfl
    rw [hwritten]
    simp only [decode, hsize, List.take_left, List.drop_left, hname, portOf_be16]
    rw [if_neg]
    · rfl
    · simp only [List.length_cons, List.length_append, Bytes.length_be16]
      omega

/-- An address that was read stands at the front as it is written. -/
theorem exists_of_decode {b : Bytes} {a : Address} {n : Nat} (h : decode b = .ok (a, n)) :
    ∃ rest, b = a.encode ++ rest ∧ n = a.wireLength := by
  unfold decode at h
  split at h
  · cases h
  · split at h
    · next rest w x y z p q rest' =>
      cases h
      refine ⟨rest', ?_, rfl⟩
      show _ = 1 :: w :: x :: y :: z :: (Bytes.be16 (Bytes.word16 p q) ++ rest')
      rw [Bytes.be16_word16]
      rfl
    · cases h
  · next rest =>
    split at h
    · next hlen =>
      cases h
      have hrest : 18 ≤ rest.length := Nat.le_of_succ_le_succ hlen
      have hip : (ipv6Of (4 :: rest) hlen).octets = rest.take 16 := IPv6.octets_ofOctets _ _
      obtain ⟨rest', htail⟩ : ∃ rest', rest.drop 16 = Bytes.be16 (portOf (rest.drop 16)) ++ rest' :=
        exists_portOf (by rw [List.length_drop]; omega)
      refine ⟨rest', ?_, rfl⟩
      calc (4 :: rest : Bytes)
          = 4 :: (rest.take 16 ++ (Bytes.be16 (portOf (rest.drop 16)) ++ rest')) := by
            rw [← htail, List.take_append_drop]
        _ = (⟨.ipv6 (ipv6Of (4 :: rest) hlen), portOf ((4 :: rest).drop 17)⟩ : Address).encode ++
              rest' := by
            simp only [encode, typeByte, hip, List.drop_succ_cons, List.cons_append,
              List.append_assoc]
    · cases h
  · split at h
    · cases h
    · next m rest =>
      split at h
      · cases h
      · next hlen =>
        cases hd : DomainName.ofBytes (rest.take m.toNat) with
        | error e =>
          rw [hd] at h
          cases h
        | ok name =>
          rw [hd] at h
          cases h
          have hrest : m.toNat + 2 ≤ rest.length := by
            simp only [List.length_cons] at hlen
            omega
          have hbytes : name.bytes = rest.take m.toNat := DomainName.ofBytes_eq_ok.1 hd
          have hsize : name.size = m.toNat := by
            rw [← DomainName.length_bytes, hbytes, List.length_take]
            omega
          obtain ⟨rest', htail⟩ :
              ∃ rest', rest.drop m.toNat = Bytes.be16 (portOf (rest.drop m.toNat)) ++ rest' :=
            exists_portOf (by rw [List.length_drop]; omega)
          refine ⟨rest', ?_, by rw [← hsize]; rfl⟩
          calc (3 :: m :: rest : Bytes)
              = 3 :: m :: (rest.take m.toNat ++ (Bytes.be16 (portOf (rest.drop m.toNat)) ++ rest')) := by
                rw [← htail, List.take_append_drop]
            _ = (⟨.domain name, portOf (rest.drop m.toNat)⟩ : Address).encode ++ rest' := by
                simp only [encode, typeByte, hbytes, hsize, UInt8.ofNat_toNat, List.cons_append,
                  List.append_assoc]
  · cases h

/-- An address is accepted where it is written, and nothing else is. -/
theorem decode_inverts : Inverts decode fun a e => a.encode = e := by
  refine .of_append ?_ fun h => ?_
  · rintro a _ rfl rest
    rw [decode_encode_append, length_encode]
  · obtain ⟨rest, rfl, rfl⟩ := exists_of_decode h
    exact ⟨_, rest, rfl, (length_encode _).symm, rfl⟩

end Address

/-! ## Headers of datagrams -/

namespace Datagram

theorem length_encodeHeader (a : Address) : (encodeHeader a).length = 3 + a.wireLength := by
  rw [encodeHeader, List.length_cons, List.length_cons, List.length_cons, Address.length_encode]
  omega

theorem decodeHeader_encode (a : Address) (payload : Bytes) :
    decodeHeader (encode a payload) = .ok (a, 3 + a.wireLength) := by
  have hzero : Bytes.word16 0 0 = 0 := rfl
  simp only [encode, encodeHeader, List.cons_append, decodeHeader, hzero, ne_eq,
    not_true_eq_false, if_false, Address.decode_encode_append]
  rfl

theorem exists_of_decodeHeader {d : Bytes} {a : Address} {n : Nat} (h : decodeHeader d = .ok (a, n)) :
    ∃ rest, d = encodeHeader a ++ rest ∧ n = 3 + a.wireLength := by
  unfold decodeHeader at h
  split at h
  · next r s fragment rest =>
    split at h
    · cases h
    · next hreserved =>
      split at h
      · cases h
      · next hfragment =>
        cases hd : Address.decode rest with
        | error fault =>
          rw [hd] at h
          cases h
        | ok found =>
          obtain ⟨payload, rfl, hn⟩ := Address.exists_of_decode (a := found.1) (n := found.2) hd
          rw [hd] at h
          cases h
          have hzero : [r, s] = Bytes.be16 0 := by
            rw [← Decidable.of_not_not hreserved, Bytes.be16_word16]
          obtain ⟨rfl, rfl⟩ : r = 0 ∧ s = 0 := by simpa [Bytes.be16] using hzero
          rw [Decidable.of_not_not hfragment]
          exact ⟨payload, rfl, congrArg (3 + ·) hn⟩
  · cases h

/-- A header is accepted where it is written, and nothing else is. -/
theorem decodeHeader_inverts : Inverts decodeHeader fun a e => encodeHeader a = e := by
  refine .of_append ?_ fun h => ?_
  · rintro a _ rfl rest
    rw [length_encodeHeader]
    exact decodeHeader_encode a rest
  · obtain ⟨rest, rfl, rfl⟩ := exists_of_decodeHeader h
    exact ⟨_, rest, rfl, (length_encodeHeader _).symm, rfl⟩

end Datagram

/-! ## Credentials -/

namespace Credentials

variable {b e : Bytes} {c : Credentials} {n : Nat}

theorem encode_eq_ok : c.encode = .ok e ↔ c.username.length ≤ 255 ∧ c.password.length ≤ 255 ∧
    e = authVersion :: UInt8.ofNat c.username.length ::
      (c.username ++ UInt8.ofNat c.password.length :: c.password) := by
  unfold encode
  split
  · next hlong =>
    refine ⟨nofun, fun h => ?_⟩
    omega
  · next hshort =>
    rw [Except.ok.injEq]
    refine ⟨fun h => ⟨by omega, by omega, h.symm⟩, fun h => h.2.2.symm⟩

theorem length_of_encode (h : c.encode = .ok e) :
    e.length = 3 + c.username.length + c.password.length := by
  obtain ⟨-, -, rfl⟩ := encode_eq_ok.1 h
  simp only [List.length_cons, List.length_append]
  omega

theorem decode_append_of_encode (h : c.encode = .ok e) (rest : Bytes) :
    decode (e ++ rest) = .ok (c, e.length) := by
  obtain ⟨hu, hp, heq⟩ := encode_eq_ok.1 h
  have hlen := length_of_encode h
  have hwritten : e ++ rest = authVersion :: UInt8.ofNat c.username.length ::
      (c.username ++ UInt8.ofNat c.password.length :: (c.password ++ rest)) := by
    simp only [heq, List.cons_append, List.append_assoc]
  have htotal := congrArg List.length hwritten
  rw [List.length_append] at htotal
  rw [hwritten]
  simp only [decode, ne_eq, not_true_eq_false, if_false, UInt8.toNat_ofNat_of_le hu,
    UInt8.toNat_ofNat_of_le hp, List.drop_left, List.take_left]
  rw [if_neg (by omega), hlen]

theorem exists_of_decode (h : decode b = .ok (c, n)) :
    ∃ e rest, b = e ++ rest ∧ n = e.length ∧ c.encode = .ok e := by
  rcases b with _ | ⟨version, _ | ⟨ulen, rest⟩⟩
  · cases h
  · cases h
  · simp only [decode] at h
    split at h
    · cases h
    · next hversion =>
      split at h
      · cases h
      · next plen tail htail =>
        split at h
        · cases h
        · next hlen =>
          cases h
          have hrest : rest = rest.take ulen.toNat ++ plen :: tail := by
            rw [← htail, List.take_append_drop]
          have hu : (rest.take ulen.toNat).length = ulen.toNat := by
            have := congrArg List.length htail
            simp only [List.length_drop, List.length_cons] at this
            rw [List.length_take]
            omega
          have hp : (tail.take plen.toNat).length = plen.toNat := by
            have := congrArg List.length hrest
            simp only [List.length_append, List.length_cons, hu] at this hlen
            rw [List.length_take]
            omega
          have hencode : encode ⟨rest.take ulen.toNat, tail.take plen.toNat⟩ = .ok (authVersion ::
              ulen :: (rest.take ulen.toNat ++ plen :: tail.take plen.toNat)) := by
            have := ulen.toNat_lt
            have := plen.toNat_lt
            refine encode_eq_ok.2 ⟨by rw [hu]; omega, by rw [hp]; omega, ?_⟩
            rw [hu, hp, UInt8.ofNat_toNat, UInt8.ofNat_toNat]
          refine ⟨_, tail.drop plen.toNat, ?_, ?_, hencode⟩
          · rw [Decidable.of_not_not hversion]
            simpa only [List.cons_append, List.append_assoc, List.take_append_drop,
              List.cons.injEq, true_and] using hrest
          · rw [length_of_encode hencode, hu, hp]

theorem decode_inverts : Inverts decode fun c e => c.encode = .ok e :=
  .of_append decode_append_of_encode exists_of_decode

end Credentials

/-! ## Requests and replies -/

theorem Address.encode_eq_cons (a : Address) : ∃ tail, a.encode = a.typeByte :: tail :=
  ⟨_, rfl⟩

/-- A request is read from the front of what was written. A command that has a name of its own is read by
    that name. -/
theorem Request.decode_encode_append (r : Request) (rest : Bytes) :
    Request.decode (r.encode ++ rest) =
      .ok (⟨Command.ofByte r.command.byte, r.address⟩, r.encode.length) := by
  obtain ⟨tail, htail⟩ := r.address.encode_eq_cons
  have haddress := Address.decode_encode_append r.address rest
  have hlen : r.encode.length = 3 + r.address.wireLength := by
    rw [encode, List.length_cons, List.length_cons, List.length_cons, Address.length_encode]
    omega
  rw [htail, List.cons_append] at haddress
  rw [hlen, encode, htail]
  simp only [List.cons_append, decode, ne_eq, not_true_eq_false, if_false, haddress]
  rfl

theorem Reply.decode_encode_append (r : Reply) (rest : Bytes) :
    Reply.decode (r.encode ++ rest) = .ok (r.code.byte, r.bound) := by
  obtain ⟨tail, htail⟩ := r.bound.encode_eq_cons
  have haddress := Address.decode_encode_append r.bound rest
  rw [htail, List.cons_append] at haddress
  rw [encode, htail]
  simp only [List.cons_append, decode, ne_eq, not_true_eq_false, if_false, haddress]
  rfl

/-- **Whatever is written of an address is read back, and nothing else is read.** An address takes
    `wireLength` bytes wherever it is written. It is found there whatever follows, and so are headers,
    requests and replies. Conversely an address or a header that is found takes no more bytes than there
    are, and these are the bytes that are written for it; what does not begin so is refused. -/
theorem codecs_invert :
    (∀ (a : Address) (before rest : Bytes),
      (before ++ a.encode).length = before.length + a.wireLength ∧
      Address.decode ((before ++ a.encode ++ rest).drop before.length) = .ok (a, a.wireLength)) ∧
    (∀ (a : Address) (rest : Bytes), Datagram.decodeHeader (Datagram.encodeHeader a ++ rest) =
      .ok (a, (Datagram.encodeHeader a).length)) ∧
    (∀ (r : Request) (rest : Bytes), Request.decode (r.encode ++ rest) =
      .ok (⟨Command.ofByte r.command.byte, r.address⟩, r.encode.length)) ∧
    (∀ (r : Reply) (rest : Bytes), Reply.decode (r.encode ++ rest) = .ok (r.code.byte, r.bound)) ∧
    (∀ (b : Bytes) (a : Address) (n : Nat),
      (Address.decode b = .ok (a, n) ↔ n ≤ b.length ∧ a.encode = b.take n) ∧
      (Datagram.decodeHeader b = .ok (a, n) ↔
        n ≤ b.length ∧ Datagram.encodeHeader a = b.take n)) ∧
    ∀ b : Bytes,
      ((∃ fault, Address.decode b = .error fault) ↔ ∀ a : Address, ¬ a.encode <+: b) ∧
      ((∃ fault, Datagram.decodeHeader b = .error fault) ↔
        ∀ a : Address, ¬ Datagram.encodeHeader a <+: b) := by
  refine ⟨fun a before rest => ⟨?_, ?_⟩, fun a rest => ?_, Request.decode_encode_append,
    Reply.decode_encode_append, fun b a n => ⟨?_, ?_⟩, fun b => ⟨?_, ?_⟩⟩
  · rw [List.length_append, Address.length_encode]
  · rw [List.append_assoc, List.drop_left]
    exact Address.decode_encode_append a rest
  · exact Datagram.decodeHeader_inverts.append rfl rest
  · exact Address.decode_inverts b a n
  · exact Datagram.decodeHeader_inverts b a n
  · simpa using Address.decode_inverts.error_iff (b := b)
  · simpa using Datagram.decodeHeader_inverts.error_iff (b := b)

end SocksProxy
