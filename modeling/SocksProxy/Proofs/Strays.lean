/-
  The datagrams that wait on the socket of a query.

  Anyone can send a datagram to the socket of a query. Others than the name server should achieve
  nothing by it, and neither should those who do not know the id of the query.

  * `Lookup.outcome` is what a query makes of the letters in its `Mailbox`;
  * `Lookup.passesOver`: a letter from elsewhere is passed over, and so is a message with another id;
  * `outcome_eq`: the first letter that is not passed over decides, and no other letter counts.

  **`strays_might_be_absent`** says who can bring about what: addresses come from the name server and
  have the id, and so have failures, except that a letter of the name server which holds no message
  fails the query without one. `malformed_letter_needs_no_id` shows that one.
-/
import Mathlib
import SocksProxy.Proofs.Rehearsal

namespace SocksProxy

open Dialogue

/-! ## Mailboxes -/

/-- A datagram that waits on a socket. -/
structure Letter where
  data : Bytes
  source : Endpoint

namespace Letter

/-- What a receiver sees of it. -/
def seen (l : Letter) : Bytes :=
  l.data.take Handler.datagramSize

/-- It holds a message. -/
def isMessage (l : Letter) : Bool :=
  (Dns.Message.parse? l.seen).isSome

end Letter

/-- Answers a call while letters wait. They are received in order, and behind the last one there is
    nothing to receive. -/
def Mailbox.answer (c : SessionNet.Call) (box : List Letter) : SessionNet.Answer c × List Letter :=
  match c with
  | .receiveFrom _ max =>
    match box with
    | [] => (.error (.plain .wouldBlock), [])
    | l :: rest => (.ok (⟨l.data.take max, List.length_take_le max _⟩, l.source), rest)
  | c => ((SocketScript.grant c {}).1, box)

namespace Lookup

/-- What a query makes of the letters that wait on its socket: addresses, a failure, or nothing yet. -/
def outcome (ctx : Context) (lookup : Lookup) (w : Work) (box : List Letter) :
    Option (Except SessionError (Option (List Ip))) :=
  (((Handler.receiveAnswer ctx lookup ctx.turns).exec w).run Mailbox.answer box).1.map (·.1)

/-- The letter comes from the name server. -/
def isFromServer (lookup : Lookup) (l : Letter) : Bool :=
  l.source = lookup.server

/-- The first two bytes of the letter are the id of the query. -/
def hasId (lookup : Lookup) (l : Letter) : Bool :=
  l.data.take 2 = Bytes.be16 lookup.id

/-- The letter comes from elsewhere, or holds a message with another id. -/
def passesOver (lookup : Lookup) (l : Letter) : Bool :=
  !lookup.isFromServer l || (l.isMessage && !lookup.hasId l)

/-- What a letter says that is not passed over. -/
def verdict (lookup : Lookup) (l : Letter) : Except SessionError (Option (List Ip)) :=
  match Dns.addressesIn lookup.id l.seen with
  | .ok addresses => .ok (some addresses)
  | .error fault => .error (.resolution s!"{lookup.name.text}: {fault.message}")

/-- What all the letters say: the first that is not passed over decides. -/
def verdictOf (lookup : Lookup) (box : List Letter) : Except SessionError (Option (List Ip)) :=
  match box.find? fun l => !lookup.passesOver l with
  | some l => lookup.verdict l
  | none => .ok none

end Lookup

/-! ## Ids of messages -/

theorem Bytes.be16_inj {m n : UInt16} : be16 m = be16 n ↔ m = n := by
  constructor
  · intro h
    obtain ⟨hhi, hlo, -⟩ := by simpa only [be16, List.cons.injEq] using h
    rw [← word16_be16 m, hhi, hlo, word16_be16]
  · rintro rfl
    rfl

namespace Dns.Reading

variable {α β : Type} {p : Reading α} {f : α → Reading β} {P : β → Prop}

/-- Whatever is read satisfies `P`. -/
def Yields (p : Reading α) (P : α → Prop) : Prop :=
  ∀ c a c', p.run c = some (a, c') → P a

theorem yields_bind (h : ∀ a, (f a).Yields P) : Yields (p >>= f) P := by
  intro c b c' hr
  obtain ⟨⟨a, c₁⟩, -, hr⟩ := Option.bind_eq_some_iff.1 hr
  exact h a c₁ b c' hr

theorem yields_pure {b : β} (h : P b) : Yields (pure b) P := by
  rintro c _ _ ⟨⟩
  exact h

/-- Behind its id, a message is read that has it. -/
theorem message_id {m : Bytes} {c c' : Cursor} {message : Message}
    (h : (Reading.message m).run c = some (message, c')) :
    ∃ c₁, word16.run c = some (message.id, c₁) := by
  obtain ⟨⟨id, c₁⟩, hid, h⟩ := Option.bind_eq_some_iff.1 h
  have hyields : message.id = id := by
    refine yields_bind (P := fun message => message.id = id) ?_ _ _ _ h
    iterate 11 refine fun _ => yields_bind ?_
    exact fun _ => yields_pure rfl
  exact ⟨c₁, hyields ▸ hid⟩

end Dns.Reading

/-- The id of a message is in its first two bytes. -/
theorem Dns.Message.take_of_parse? {b : Bytes} {m : Dns.Message} (h : Dns.Message.parse? b = some m) :
    b.take 2 = Bytes.be16 m.id := by
  obtain ⟨⟨m', c⟩, hm, rfl⟩ := Option.map_eq_some_iff.1 h
  obtain ⟨c₁, hid⟩ := Dns.Reading.message_id hm
  rcases b with _ | ⟨x, _ | ⟨y, rest⟩⟩
  · nomatch hid
  · nomatch hid
  · have hid : Bytes.word16 x y = m'.id := congrArg Prod.fst (Option.some.inj hid)
    rw [← hid, Bytes.be16_word16]
    rfl

theorem Letter.isMessage_of_addressesIn {l : Letter} {id : UInt16} {addresses : List Ip}
    (h : Dns.addressesIn id l.seen = .ok addresses) : l.isMessage := by
  rw [isMessage]
  cases hm : Dns.Message.parse? l.seen with
  | none => simp [Dns.addressesIn, hm] at h
  | some m => rfl

namespace Lookup

variable {lookup : Lookup} {l : Letter} {box : List Letter}

theorem hasId_iff {m : Dns.Message} (h : Dns.Message.parse? l.seen = some m) :
    lookup.hasId l ↔ m.id = lookup.id := by
  have hseen : l.seen.take 2 = l.data.take 2 := by
    rw [Letter.seen, List.take_take]
    rfl
  rw [hasId, ← hseen, Dns.Message.take_of_parse? h, decide_eq_true_iff, Bytes.be16_inj]

/-- A letter of the name server is passed over just when it is said to have another id. -/
theorem passesOver_iff (hs : lookup.isFromServer l) :
    lookup.passesOver l ↔
      ∃ expected got, Dns.addressesIn lookup.id l.seen = .error (.idMismatch expected got) := by
  cases hm : Dns.Message.parse? l.seen with
  | none => simp [passesOver, hs, Letter.isMessage, Dns.addressesIn, hm]
  | some m =>
    have hp : lookup.passesOver l ↔ m.id ≠ lookup.id := by
      simp [passesOver, hs, Letter.isMessage, hm, ← hasId_iff hm]
    rw [hp, Dns.addressesIn, hm]
    constructor
    · exact fun hne => ⟨_, m.id, if_pos hne⟩
    · rintro ⟨_, got, hgot⟩ heq
      grind

/-! ## Verdicts -/

theorem verdictOf_cons :
    lookup.verdictOf (l :: box) =
      if lookup.passesOver l then lookup.verdictOf box else lookup.verdict l := by
  rw [verdictOf, List.find?_cons]
  cases lookup.passesOver l <;> rfl

/-- What is passed over might be absent. -/
theorem verdictOf_filter {p : Letter → Bool} (hp : ∀ l ∈ box, p l = false → lookup.passesOver l) :
    lookup.verdictOf (box.filter p) = lookup.verdictOf box := by
  induction box with
  | nil => rfl
  | cons l box ih =>
    have ih := ih fun l' hl' => hp l' (List.mem_cons_of_mem _ hl')
    cases hl : p l with
    | true => rw [List.filter_cons_of_pos hl, verdictOf_cons, verdictOf_cons, ih]
    | false =>
      rw [List.filter_cons_of_neg (by rw [hl]; nofun), verdictOf_cons,
        if_pos (hp l List.mem_cons_self hl), ih]

/-- A verdict other than that nothing is there yet is the verdict of a letter. -/
theorem exists_of_verdictOf (h : lookup.verdictOf box ≠ .ok none) :
    ∃ l ∈ box, lookup.passesOver l = false ∧ lookup.verdictOf box = lookup.verdict l := by
  cases hf : box.find? fun l => !lookup.passesOver l with
  | none => exact absurd (by rw [verdictOf, hf]) h
  | some l =>
    exact ⟨l, List.mem_of_find?_eq_some hf, by simpa using List.find?_some hf, by rw [verdictOf, hf]⟩

theorem verdict_eq_some {addresses : List Ip} :
    lookup.verdict l = .ok (some addresses) ↔ Dns.addressesIn lookup.id l.seen = .ok addresses := by
  rw [verdict]
  split <;> simp_all

theorem passesOver_eq_false :
    lookup.passesOver l = false ↔
      lookup.isFromServer l ∧ (lookup.hasId l ∨ l.isMessage = false) := by
  simp only [passesOver, Bool.or_eq_false_iff, Bool.not_eq_false', Bool.and_eq_false_iff]
  exact and_congr_right fun _ => or_comm

end Lookup

/-! ## Receiving -/

theorem Dialogue.run_bind {I : Interface} {α β σ : Type} {answer : (c : I.Call) → σ → I.Answer c × σ}
    {p : Dialogue I α} {f : α → Dialogue I β} {s : σ} :
    (p.bind f).run answer s =
      match p.run answer s with
      | (some a, s) => (f a).run answer s
      | (none, s) => (none, s) := by
  induction p generalizing s with
  | done a => rfl
  | ask c next ih => exact ih _
  | stuck => rfl

namespace Handler

variable {ctx : Context} {lookup : Lookup} {w : Work} {l : Letter} {box : List Letter} {turns : Nat}

theorem run_receive_nil {s : Socket} :
    ((attempt (Talk.receiveFrom (turns + 1) s datagramSize)).exec w).run Mailbox.answer [] =
      (some (.ok none, w), []) :=
  rfl

theorem run_receive_cons {s : Socket} :
    ((attempt (Talk.receiveFrom (turns + 1) s datagramSize)).exec w).run Mailbox.answer (l :: box) =
      (some (.ok (some (⟨l.seen, List.length_take_le _ _⟩, l.source)), w), box) :=
  rfl

variable (hc : 0 < ctx.turns)
include hc

theorem run_receiveAnswer_nil :
    ((receiveAnswer ctx lookup (turns + 1)).exec w).run Mailbox.answer [] =
      (some (.ok none, w), []) := by
  obtain ⟨n, hn⟩ := Nat.exists_eq_add_one.2 hc
  rw [receiveAnswer, hn, exec_bind, Dialogue.run_bind, run_receive_nil]
  rfl

theorem run_receiveAnswer_cons :
    ((receiveAnswer ctx lookup (turns + 1)).exec w).run Mailbox.answer (l :: box) =
      if lookup.passesOver l then
        ((receiveAnswer ctx lookup turns).exec w).run Mailbox.answer box
      else (some (lookup.verdict l, w), box) := by
  obtain ⟨n, hn⟩ := Nat.exists_eq_add_one.2 hc
  rw [receiveAnswer, hn, exec_bind, Dialogue.run_bind, run_receive_cons]
  by_cases hs : l.source = lookup.server
  · have hs' : lookup.isFromServer l := decide_eq_true hs
    by_cases hp : lookup.passesOver l
    · obtain ⟨_, got, hgot⟩ := (Lookup.passesOver_iff hs').1 hp
      simp only [hs, ne_eq, not_true_eq_false, if_false, hgot, hp, if_true]
      rfl
    · have hne := mt (Lookup.passesOver_iff hs').2 hp
      simp only [hs, ne_eq, not_true_eq_false, if_false, hp, Lookup.verdict]
      cases ha : Dns.addressesIn lookup.id l.seen with
      | ok addresses => rfl
      | error fault =>
        cases fault with
        | idMismatch expected got => exact absurd ⟨expected, got, ha⟩ hne
        | _ => rfl
  · have hp : lookup.passesOver l := by simp [Lookup.passesOver, Lookup.isFromServer, hs]
    simp only [ne_eq, hs, not_false_eq_true, if_true, hp]
    rfl

theorem run_receiveAnswer (hb : box.length < turns) :
    (((receiveAnswer ctx lookup turns).exec w).run Mailbox.answer box).1 =
      some (lookup.verdictOf box, w) := by
  induction box generalizing turns with
  | nil =>
    obtain ⟨n, rfl⟩ := Nat.exists_eq_add_one.2 hb
    rw [run_receiveAnswer_nil hc]
    rfl
  | cons l box ih =>
    obtain ⟨n, rfl⟩ := Nat.exists_eq_add_one.2 (Nat.zero_lt_of_lt hb)
    rw [run_receiveAnswer_cons hc, Lookup.verdictOf_cons]
    split
    · exact ih (Nat.lt_of_succ_lt_succ hb)
    · rfl

end Handler

namespace Lookup

variable {ctx : Context} {lookup : Lookup} {w : Work} {l : Letter} {box : List Letter}

/-- The first letter that is not passed over decides. -/
theorem outcome_eq (hb : box.length < ctx.turns) :
    lookup.outcome ctx w box = some (lookup.verdictOf box) := by
  rw [outcome, Handler.run_receiveAnswer (Nat.zero_lt_of_lt hb) hb]
  rfl

end Lookup

/-! ## Who can bring about what -/

section

variable {ctx : Context} {lookup : Lookup} {w : Work} {box : List Letter}

/-- A query comes to an outcome, whatever letters wait, and what it passes over might be absent. So
    might everything that is not from the name server or lacks the id, as long as what the name server
    sent holds messages. Addresses are from a letter of the name server that has the id, and a failure
    is from such a letter or from one of the name server that holds no message. -/
theorem strays_might_be_absent (hb : box.length < ctx.turns) :
    (∃ verdict, lookup.outcome ctx w box = some verdict) ∧
    lookup.outcome ctx w (box.filter fun l => !lookup.passesOver l) = lookup.outcome ctx w box ∧
    ((∀ l ∈ box, lookup.isFromServer l → lookup.hasId l ∨ l.isMessage) →
      lookup.outcome ctx w (box.filter fun l => lookup.isFromServer l && lookup.hasId l) =
        lookup.outcome ctx w box) ∧
    (∀ addresses, lookup.outcome ctx w box = some (.ok (some addresses)) →
      ∃ l ∈ box, lookup.isFromServer l ∧ lookup.hasId l ∧
        Dns.addressesIn lookup.id l.seen = .ok addresses) ∧
    (∀ e, lookup.outcome ctx w box = some (.error e) →
      ∃ l ∈ box, lookup.isFromServer l ∧ (lookup.hasId l ∨ l.isMessage = false) ∧
        lookup.verdict l = .error e) := by
  have hfilter (p : Letter → Bool) (hp : ∀ l ∈ box, p l = false → lookup.passesOver l) :
      lookup.outcome ctx w (box.filter p) = lookup.outcome ctx w box := by
    rw [Lookup.outcome_eq (Nat.lt_of_le_of_lt (List.length_filter_le p box) hb),
      Lookup.outcome_eq hb, Lookup.verdictOf_filter hp]
  rw [Lookup.outcome_eq hb] at hfilter ⊢
  refine ⟨⟨_, rfl⟩, hfilter _ fun l _ hl => by simpa using hl, fun hm => hfilter _ fun l hl hp => ?_,
    fun addresses h => ?_, fun e h => ?_⟩
  · have := hm l hl
    grind [Lookup.passesOver]
  · have h := Option.some.inj h
    obtain ⟨l, hl, hp, hv⟩ := Lookup.exists_of_verdictOf (by rw [h]; nofun)
    obtain ⟨hs, hi⟩ := Lookup.passesOver_eq_false.1 hp
    have ha := Lookup.verdict_eq_some.1 (hv ▸ h)
    exact ⟨l, hl, hs, hi.resolve_right (by simp [Letter.isMessage_of_addressesIn ha]), ha⟩
  · have h := Option.some.inj h
    obtain ⟨l, hl, hp, hv⟩ := Lookup.exists_of_verdictOf (by rw [h]; nofun)
    obtain ⟨hs, hi⟩ := Lookup.passesOver_eq_false.1 hp
    exact ⟨l, hl, hs, hi, hv ▸ h⟩

/-- A query for `a.test` with the id 257, sent to the name server at 9.9.9.9. -/
def inquiry : Lookup where
  socket := ⟨.query 0, 0⟩
  server := ⟨.v4 ⟨9, 9, 9, 9⟩, 53⟩
  id := 257
  name := ⟨"a.test", by decide⟩

/-- A session that waits for the answer to it. No loop takes more than four turns. -/
def waiting : Context × Work :=
  (⟨{}, some inquiry.server, 4⟩, ⟨.fresh inquiry.server inquiry.server, ⟨0⟩⟩)

namespace Letter

/-- A response with the id that gives an address in 192.0.2.0/24 for `a.test`. -/
def response (id : UInt16) (host : UInt8) : Bytes :=
  Bytes.be16 id ++ [0x81, 0x80, 0, 1, 0, 1, 0, 0, 0, 0, 1, 97, 4, 116, 101, 115, 116, 0, 0, 1, 0, 1,
    0xc0, 12, 0, 1, 0, 1, 0, 0, 0, 60, 0, 4, 192, 0, 2, host]

/-- Two responses that give another address than the answer does. One has the id of the query and comes from
    elsewhere, the other comes from the name server's address and has another id. -/
def strays : List Letter :=
  [⟨response 257 66, ⟨.v4 ⟨192, 0, 2, 66⟩, 53⟩⟩, ⟨response 258 66, inquiry.server⟩]

/-- The answer of the name server. -/
def answer : Letter :=
  ⟨response 257 7, inquiry.server⟩

end Letter

/-- Behind strays of both kinds the answer is found, and they might be absent. -/
theorem answer_is_found_behind_strays :
    let box := Letter.strays ++ [Letter.answer]
    box.length < waiting.1.turns ∧
    (∀ l ∈ box, inquiry.isFromServer l → inquiry.hasId l ∨ l.isMessage) ∧
    inquiry.outcome waiting.1 waiting.2 box = inquiry.outcome waiting.1 waiting.2 [Letter.answer] ∧
    inquiry.outcome waiting.1 waiting.2 box = some (.ok (some [.v4 ⟨192, 0, 2, 7⟩])) := by
  intro box
  have hturns : box.length < waiting.1.turns := by decide
  have hother : (⟨Letter.response 258 66, inquiry.server⟩ : Letter).isMessage = true := by cbv
  have hanswer : Dns.addressesIn inquiry.id Letter.answer.seen = .ok [.v4 ⟨192, 0, 2, 7⟩] := by cbv
  have hmessages : ∀ l ∈ box, inquiry.isFromServer l → inquiry.hasId l ∨ l.isMessage :=
    List.forall_mem_cons.2 ⟨fun hs => absurd hs (by decide), List.forall_mem_cons.2
      ⟨fun _ => .inr hother, List.forall_mem_singleton.2 fun _ => .inl (by decide)⟩⟩
  obtain ⟨-, -, habsent, -⟩ := @strays_might_be_absent waiting.1 inquiry waiting.2 box hturns
  have hleft : (box.filter fun l => inquiry.isFromServer l && inquiry.hasId l) = [Letter.answer] := rfl
  have houtcome := habsent hmessages
  rw [hleft] at houtcome
  refine ⟨hturns, hmessages, houtcome.symm, ?_⟩
  have hfound : inquiry.passesOver Letter.answer = false :=
    Lookup.passesOver_eq_false.2 ⟨by decide, .inl (by decide)⟩
  rw [← houtcome, Lookup.outcome_eq (by decide), Lookup.verdictOf_cons, hfound,
    Lookup.verdict_eq_some.2 hanswer]
  rfl

/-- Two bytes from the name server's address that are neither a message nor the id of the query make it
    fail. Without them there would be no answer yet. -/
theorem malformed_letter_needs_no_id :
    ¬ ∀ (ctx : Context) (lookup : Lookup) (w : Work) (box : List Letter), box.length < ctx.turns →
      lookup.outcome ctx w (box.filter fun l => lookup.isFromServer l && lookup.hasId l) =
        lookup.outcome ctx w box := by
  intro h
  have hbox := h waiting.1 inquiry waiting.2 [⟨[255, 255], inquiry.server⟩] (by decide)
  rw [Lookup.outcome_eq (by decide), Lookup.outcome_eq (by decide)] at hbox
  nomatch hbox

end

end SocksProxy
