/-
  Decoding again when more bytes have arrived.

  A decoder has decided when it has found a message or a fault. Otherwise it waits, and what it was given is
  decoded once more together with what has arrived since.

  * `Streams limit decode`: what is decided stays as it is, and it is decided once `limit` bytes are there;
  * `decodeGrowing` decodes after every chunk until it is decided. By `Streams.decodeGrowing_eq` this finds what
    decoding all chunks at once finds;
  * `Handler.parseAll_waits`: a session that waits keeps less than the longest message of its stage.

  **`decoders_decide_once`** puts them together.
-/
import SocksProxy.Proofs.Intake

namespace SocksProxy

/-! ## Decisions -/

section
variable {α : Type} {decode : Bytes → Except WireError (α × Nat)} {limit : Nat} {b : Bytes}

/-- More bytes are not asked for. -/
def Decided : Except WireError (α × Nat) → Prop
  | .ok _ => True
  | .error e => e.isTruncated = false

instance : (r : Except WireError (α × Nat)) → Decidable (Decided r)
  | .ok _ => inferInstanceAs (Decidable True)
  | .error e => inferInstanceAs (Decidable (e.isTruncated = false))

theorem decided_iff {r : Except WireError (α × Nat)} :
    Decided r ↔ ∀ needed available, r ≠ .error (.truncated needed available) := by
  constructor
  · rintro h needed available rfl
    nomatch h
  · intro h
    cases r with
    | ok found => trivial
    | error e => cases e <;> first | rfl | exact absurd rfl (h _ _)

/-- A decision does not depend on bytes that arrive later, and none is put off for longer than it takes to
    receive `limit` bytes. -/
structure Streams (limit : Nat) (decode : Bytes → Except WireError (α × Nat)) : Prop where
  stable : ∀ p s : Bytes, (∀ needed available, decode p ≠ .error (.truncated needed available)) →
    decode (p ++ s) = decode p
  prompt : ∀ b : Bytes, limit ≤ b.length →
    ∀ needed available, decode b ≠ .error (.truncated needed available)

theorem eq_of_append_eq {r : Except WireError (α × Nat)} (h : ∀ x, decode (b ++ x) = r) :
    decode b = r := by
  rw [← h [], List.append_nil]

theorem Reading.streams (h : ∀ b, Reading limit decode b) : Streams limit decode where
  stable p s hp := by
    cases h p with
    | message hx => exact (hx s).trans (eq_of_append_eq hx).symm
    | fault hx => exact (hx s).trans (eq_of_append_eq hx).symm
    | short hcut => exact absurd hcut (hp _ _)
  prompt b hb := by
    rw [← decided_iff]
    cases h b with
    | message hx =>
      rw [eq_of_append_eq hx]
      trivial
    | fault hx he =>
      rw [eq_of_append_eq hx]
      exact he
    | short _ hlt => omega

/-- Decodes what has arrived, and again behind every further chunk as long as nothing is decided. -/
def decodeGrowing (decode : Bytes → Except WireError (α × Nat)) (b : Bytes) :
    List Bytes → Except WireError (α × Nat)
  | [] => decode b
  | chunk :: chunks =>
    if Decided (decode b) then decode b else decodeGrowing decode (b ++ chunk) chunks

/-- How the bytes arrive makes no difference to what is found. -/
theorem Streams.decodeGrowing_eq (h : Streams limit decode) (chunks : List Bytes) :
    decodeGrowing decode b chunks = decode (b ++ chunks.flatten) := by
  induction chunks generalizing b with
  | nil => rw [decodeGrowing, List.flatten_nil, List.append_nil]
  | cons chunk chunks ih =>
    rw [decodeGrowing]
    split
    · next hd => exact (h.stable b _ (decided_iff.1 hd)).symm
    · rw [ih, List.flatten_cons, List.append_assoc]

end

/-! ## Sessions that wait -/

theorem Handler.parseAll_waits {ctx : Context} {w : Work} {burstDone : Bool} :
    (parseAll ctx burstDone).Always w []
      (fun _ w' _ => w'.session.stage.isHandshake = true →
        w'.session.inbound.length < w'.session.stage.longest)
      (fun _ _ _ => True) :=
  parseAll_stalls.imp (fun _ _ _ h hst => (h.2 hst).1.length_lt) fun _ _ _ _ => trivial

/-! ## Greetings, credentials and requests -/

/-- **A decoder of the handshake decides once.** What a greeting, credentials or a request are found to be in
    a part of the bytes, a message or a fault, they are found to be in all of them; and it is found at the latest
    when there are 257, 513 or 262 bytes. So decoding again and again while chunks arrive finds what decoding
    all of them finds, and a session that waits for the rest of a message keeps less than the longest one. -/
theorem decoders_decide_once :
    Streams 257 Greeting.decode ∧ Streams 513 Credentials.decode ∧ Streams 262 Request.decode ∧
    (∀ chunks : List Bytes,
      decodeGrowing Greeting.decode [] chunks = Greeting.decode chunks.flatten ∧
      decodeGrowing Credentials.decode [] chunks = Credentials.decode chunks.flatten ∧
      decodeGrowing Request.decode [] chunks = Request.decode chunks.flatten) ∧
    ∀ (ctx : Context) (w : Work), (Handler.parseAll ctx false).Always w []
      (fun _ w' _ => w'.session.stage.isHandshake = true →
        w'.session.inbound.length < w'.session.stage.longest)
      (fun _ _ _ => True) := by
  have hgreeting : Streams 257 Greeting.decode := Reading.streams Greeting.reading
  have hcredentials : Streams 513 Credentials.decode := Reading.streams Credentials.reading
  have hrequest : Streams 262 Request.decode := Reading.streams Request.reading
  exact ⟨hgreeting, hcredentials, hrequest, fun chunks => ⟨hgreeting.decodeGrowing_eq chunks,
    hcredentials.decodeGrowing_eq chunks, hrequest.decodeGrowing_eq chunks⟩,
    fun _ _ => Handler.parseAll_waits⟩

/-- A request for a name arrives byte by byte, and more behind it. -/
example : decodeGrowing Request.decode [] [[5], [1, 0, 3], [1], [0x61, 0], [80, 7]] =
    .ok (⟨.connect, ⟨.domain ⟨"a", by decide⟩, 80⟩⟩, 8) := by cbv

end SocksProxy
