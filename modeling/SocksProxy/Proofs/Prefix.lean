/-
  Decoders do not look behind what they read: bytes that arrive later do not change a message that
  was complete.

  * `ReadsFront` says so of a decoder; it holds of those of the handshake;
  * `ReadsOnly`: nor do they need what is behind;
  * `behind` is what is left when a message is taken off, and `TakesFront` says what both mean for it.
-/
import SocksProxy.Proofs.Codecs

namespace SocksProxy

variable {b : Bytes} {n : Nat}

/-- What the decoder reads is there, and bytes behind it make no difference. -/
def ReadsFront {α : Type} (decode : Bytes → Except WireError (α × Nat)) : Prop :=
  ∀ {b : Bytes} {a : α} {n : Nat}, decode b = .ok (a, n) →
    n ≤ b.length ∧ ∀ x, decode (b ++ x) = .ok (a, n)

/-- What the decoder reads is enough for it. -/
def ReadsOnly {α : Type} (decode : Bytes → Except WireError (α × Nat)) : Prop :=
  ∀ {b : Bytes} {a : α} {n : Nat}, decode b = .ok (a, n) → ∃ found, decode (b.take n) = .ok found

section
variable {α : Type} {decode : Bytes → Except WireError (α × Nat)} {writes : α → Bytes → Prop}

theorem Inverts.front (h : Inverts decode writes) : ReadsFront decode := by
  intro b a n hd
  obtain ⟨hn, he⟩ := (h b a n).1 hd
  refine ⟨hn, fun x => (h _ _ _).2 ⟨?_, by rwa [List.take_append_of_le_length hn]⟩⟩
  rw [List.length_append]
  exact Nat.le_add_right_of_le hn

theorem Inverts.only (h : Inverts decode writes) : ReadsOnly decode := by
  intro b a n hd
  obtain ⟨hn, he⟩ := (h b a n).1 hd
  have hlength : (b.take n).length = n := by rw [List.length_take, Nat.min_eq_left hn]
  exact ⟨(a, n), (h _ _ _).2 ⟨Nat.le_of_eq hlength.symm, by rwa [List.take_take, Nat.min_self]⟩⟩

end

/-- What is behind the message at the front, if there is one. -/
def behind {α : Type} (decode : Bytes → Except WireError (α × Nat)) (b : Bytes) : Option Bytes :=
  match decode b with
  | .ok (_, n) => some (b.drop n)
  | .error _ => none

theorem behind_of_ok {α : Type} {decode : Bytes → Except WireError (α × Nat)} {a : α}
    (h : decode b = .ok (a, n)) : behind decode b = some (b.drop n) := by
  rw [behind, h]

/-- What arrives later is behind the message, too. -/
theorem ReadsFront.behind_append {α : Type} {decode : Bytes → Except WireError (α × Nat)}
    {rest : Bytes} (hd : ReadsFront decode) (h : behind decode b = some rest) (x : Bytes) :
    behind decode (b ++ x) = some (rest ++ x) := by
  cases hb : decode b with
  | error e => rw [behind, hb] at h; nomatch h
  | ok found =>
    obtain ⟨hn, hx⟩ := hd (a := found.1) (n := found.2) hb
    rw [behind_of_ok hb] at h
    cases h
    rw [behind_of_ok (hx x), List.drop_append_of_le_length hn]

/-- Something is taken off the front as soon as it is there as a whole. -/
structure TakesFront (f : Bytes → Option Bytes) : Prop where
  append : ∀ {b rest : Bytes}, f b = some rest → ∀ x, f (b ++ x) = some (rest ++ x)
  length_le : ∀ {b rest : Bytes}, f b = some rest → rest.length ≤ b.length
  /-- What was not there before ends in what has arrived since. -/
  length_lt : ∀ {b x rest : Bytes}, f b = none → f (b ++ x) = some rest → rest.length < x.length

namespace TakesFront

theorem nothing : TakesFront some where
  append h x := by
    cases h
    rfl
  length_le h := by
    cases h
    exact Nat.le_refl _
  length_lt h := nomatch h

/-- One thing after the other is taken off. -/
theorem bind {f g : Bytes → Option Bytes} (hf : TakesFront f) (hg : TakesFront g) :
    TakesFront fun b => (f b).bind g where
  append h x := by
    obtain ⟨rest, hrest, h⟩ := Option.bind_eq_some_iff.1 h
    rw [hf.append hrest x]
    exact hg.append h x
  length_le h := by
    obtain ⟨rest, hrest, h⟩ := Option.bind_eq_some_iff.1 h
    exact Nat.le_trans (hg.length_le h) (hf.length_le hrest)
  length_lt {b x rest} h hx := by
    cases hb : f b with
    | none =>
      obtain ⟨rest', hrest, hx⟩ := Option.bind_eq_some_iff.1 hx
      exact Nat.lt_of_le_of_lt (hg.length_le hx) (hf.length_lt hb hrest)
    | some rest' =>
      rw [hb] at h
      rw [hf.append hb x] at hx
      exact hg.length_lt h hx

theorem message {α : Type} {decode : Bytes → Except WireError (α × Nat)} (hf : ReadsFront decode)
    (ho : ReadsOnly decode) : TakesFront (behind decode) where
  append := hf.behind_append
  length_le {b rest} h := by
    cases hb : decode b with
    | error e =>
      rw [behind, hb] at h
      nomatch h
    | ok found =>
      rw [behind_of_ok (a := found.1) (n := found.2) hb] at h
      cases h
      rw [List.length_drop]
      exact Nat.sub_le _ _
  length_lt {b x rest} h hx := by
    cases hb : decode (b ++ x) with
    | error e =>
      rw [behind, hb] at hx
      nomatch hx
    | ok found =>
      have hle := (hf (a := found.1) (n := found.2) hb).1
      rw [behind_of_ok (a := found.1) (n := found.2) hb] at hx
      cases hx
      have hlt : b.length < found.2 := by
        refine Nat.lt_of_not_le fun hge => ?_
        -- Otherwise the message was there before.
        obtain ⟨a, hfound⟩ := ho (a := found.1) (n := found.2) hb
        rw [List.take_append_of_le_length hge] at hfound
        have hall := (hf (a := a.1) (n := a.2) hfound).2 (b.drop found.2)
        rw [List.take_append_drop] at hall
        rw [behind_of_ok hall] at h
        nomatch h
      rw [List.length_append] at hle
      rw [List.length_drop, List.length_append]
      omega

end TakesFront

/-! ## Negotiation -/

theorem Greeting.decode_le {offered : Bytes} (h : Greeting.decode b = .ok (offered, n)) :
    n ≤ b.length := by
  rcases b with _ | ⟨version, _ | ⟨count, methods⟩⟩
  · nomatch h
  · nomatch h
  · simp only [decode] at h
    split at h
    · nomatch h
    · split at h
      · nomatch h
      · cases h
        omega

theorem Greeting.decode_append {offered : Bytes} (x : Bytes)
    (h : Greeting.decode b = .ok (offered, n)) : Greeting.decode (b ++ x) = .ok (offered, n) := by
  have hn := decode_le h
  rcases b with _ | ⟨version, _ | ⟨count, methods⟩⟩
  · nomatch h
  · nomatch h
  · simp only [decode, List.cons_append] at h ⊢
    split at h
    · nomatch h
    · next hv =>
      split at h
      · nomatch h
      · cases h
        have hc : count.toNat ≤ methods.length := by
          simp only [List.length_cons] at hn
          omega
        rw [if_neg hv, if_neg (by simp only [List.length_cons, List.length_append]; omega),
          List.take_append_of_le_length hc]

theorem Greeting.decode_front : ReadsFront Greeting.decode :=
  fun h => ⟨decode_le h, fun x => decode_append x h⟩

theorem Greeting.decode_only : ReadsOnly Greeting.decode := by
  intro b offered n h
  have hn := decode_le h
  rcases b with _ | ⟨version, _ | ⟨count, methods⟩⟩
  · nomatch h
  · nomatch h
  · simp only [decode] at h
    split at h
    · nomatch h
    · next hv =>
      split at h
      · nomatch h
      · cases h
        simp only [List.length_cons] at hn
        rw [Nat.add_comm 2, List.take_succ_cons, List.take_succ_cons, decode, if_neg hv, if_neg]
        · exact ⟨_, rfl⟩
        · simp only [List.length_cons, List.length_take]
          omega

theorem Credentials.decode_front : ReadsFront Credentials.decode :=
  decode_inverts.front

theorem Credentials.decode_only : ReadsOnly Credentials.decode :=
  decode_inverts.only

/-! ## Requests -/

theorem Address.decode_front : ReadsFront Address.decode :=
  decode_inverts.front

theorem Address.decode_only : ReadsOnly Address.decode :=
  decode_inverts.only

theorem Request.decode_front : ReadsFront Request.decode := by
  intro b r n h
  rcases b with _ | ⟨version, _ | ⟨command, _ | ⟨reserved, _ | ⟨t, rest⟩⟩⟩⟩
  iterate 4 cases h
  simp only [decode] at h
  split at h
  · cases h
  · next hv =>
    cases ha : Address.decode (t :: rest) with
    | error e => rw [ha] at h; cases h
    | ok found =>
      obtain ⟨hn, hx⟩ := Address.decode_front (a := found.1) (n := found.2) ha
      rw [ha] at h
      cases h
      refine ⟨by simp only [List.length_cons] at hn ⊢; omega, fun x => ?_⟩
      simp only [decode, List.cons_append]
      rw [if_neg hv, show t :: (rest ++ x) = t :: rest ++ x from rfl, hx x]
      rfl

theorem Request.decode_only : ReadsOnly Request.decode := by
  intro b r n h
  rcases b with _ | ⟨version, _ | ⟨command, _ | ⟨reserved, _ | ⟨t, rest⟩⟩⟩⟩
  iterate 4 cases h
  simp only [decode] at h
  split at h
  · cases h
  · next hv =>
    cases ha : Address.decode (t :: rest) with
    | error e => rw [ha] at h; cases h
    | ok found =>
      obtain ⟨a, hfound⟩ := Address.decode_only (a := found.1) (n := found.2) ha
      rw [ha] at h
      cases h
      cases hn : found.2 with
      | zero =>
        rw [hn] at hfound
        cases hfound
      | succ n =>
        rw [hn, List.take_succ_cons] at hfound
        rw [show 3 + (n + 1) = n + 1 + 1 + 1 + 1 by omega]
        simp only [List.take_succ_cons, decode]
        rw [if_neg hv, hfound]
        exact ⟨_, rfl⟩

end SocksProxy
