/-
  What was read behind a message makes no difference to how the message is handled.

  * `Reading`: a decoder finds a message or a fault, whatever is behind it, or it needs more bytes;
  * `Session.keeping` says where bytes behind a request are kept;
  * `onMessage_overlooks`: a message is handled in the same way if more was read behind it, unless it is
    cut short.
-/
import SocksProxy.Proofs.Bursts
import SocksProxy.Proofs.Lockstep

namespace SocksProxy

open Dialogue

/-! ## Decoding -/

/-- What a decoder finds at the front of bytes that more may follow: a message, a fault, or less than a
    message, which is shorter than `limit` then. -/
inductive Reading {α : Type} (limit : Nat) (decode : Bytes → Except WireError (α × Nat)) (b : Bytes) :
    Prop where
  | message {a : α} {n : Nat} : (∀ x, decode (b ++ x) = .ok (a, n)) → 0 < n → n ≤ b.length →
      Reading limit decode b
  | fault {e : WireError} : (∀ x, decode (b ++ x) = .error e) → e.isTruncated = false →
      Reading limit decode b
  | short {needed available : Nat} : decode b = .error (.truncated needed available) →
      b.length < limit → Reading limit decode b

theorem ReadsFront.reading {α : Type} {decode : Bytes → Except WireError (α × Nat)} {limit : Nat}
    {b : Bytes} {a : α} {n : Nat} (hd : ReadsFront decode) (h : decode b = .ok (a, n)) (hn : 0 < n) :
    Reading limit decode b :=
  .message (hd h).2 hn (hd h).1

theorem UInt8.toNat_le (n : UInt8) : n.toNat ≤ 255 :=
  Nat.le_of_lt_succ n.toNat_lt

/-- How many bytes the longest message has that a stage of the handshake waits for. -/
def Stage.longest : Stage → Nat
  | accepted => 257
  | authRequested => 513
  | _ => 262

/-- The message that a stage of the handshake waits for is not there as a whole. -/
def Stage.Lacks (stage : Stage) (b : Bytes) : Prop :=
  match stage with
  | accepted => behind Greeting.decode b = none
  | authRequested => behind Credentials.decode b = none
  | _ => behind Request.decode b = none

theorem Stage.longest_le (stage : Stage) : stage.longest ≤ Handler.maxMessage := by
  cases stage <;> decide

theorem Greeting.reading (b : Bytes) : Reading (Stage.longest .accepted) Greeting.decode b := by
  cases hd : Greeting.decode b with
  | ok found => exact decode_front.reading hd (decode_pos hd)
  | error e =>
    have hd' := hd
    rcases b with _ | ⟨version, _ | ⟨count, methods⟩⟩
    · exact .short rfl (by decide)
    · exact .short rfl (Nat.lt_of_sub_eq_succ rfl)
    · have hcount := UInt8.toNat_le count
      rw [decode] at hd
      split at hd
      · next hv =>
        cases hd
        exact .fault (fun x => if_pos hv) rfl
      · split at hd
        · cases hd
          exact .short hd' (by rw [Stage.longest]; omega)
        · cases hd

theorem Credentials.reading (b : Bytes) :
    Reading (Stage.longest .authRequested) Credentials.decode b := by
  cases hd : Credentials.decode b with
  | ok found => exact decode_front.reading hd (decode_pos hd)
  | error e =>
    have hd' := hd
    rcases b with _ | ⟨version, _ | ⟨ulen, rest⟩⟩
    · exact .short rfl (by decide)
    · exact .short rfl (Nat.lt_of_sub_eq_succ rfl)
    · have hulen := UInt8.toNat_le ulen
      simp only [decode] at hd
      split at hd
      · next hv =>
        cases hd
        exact .fault (fun x => if_pos hv) rfl
      · split at hd
        · next hrest =>
          cases hd
          have := List.drop_eq_nil_iff.1 hrest
          exact .short hd' (by rw [Stage.longest, List.length_cons, List.length_cons]; omega)
        · next plen tail _ =>
          have hplen := UInt8.toNat_le plen
          split at hd
          · cases hd
            exact .short hd' (by rw [Stage.longest]; omega)
          · cases hd

theorem DomainName.ofBytes_fault {b : Bytes} {e : WireError} (h : ofBytes b = .error e) :
    e.isTruncated = false := by
  rw [ofBytes] at h
  split at h
  · rw [ofText] at h
    split at h
    · cases h
    · cases h
      rfl
  · cases h
    rfl

/-- A domain name is at most 255 bytes behind the byte of the type and that of its length, and a port is
    behind it. -/
theorem Address.reading (b : Bytes) : Reading 259 Address.decode b := by
  cases hd : Address.decode b with
  | ok found => exact decode_front.reading hd (decode_pos hd)
  | error e =>
    have hd' := hd
    unfold decode at hd
    split at hd
    · exact .short rfl (by decide)
    · next rest =>
      split at hd
      · cases hd
      · next hne =>
        cases hd
        refine .short hd' ?_
        rcases rest with _ | ⟨_, _ | ⟨_, _ | ⟨_, _ | ⟨_, _ | ⟨_, _ | ⟨_, _⟩⟩⟩⟩⟩⟩
        case cons.cons.cons.cons.cons.cons => exact absurd rfl (hne _ _ _ _ _ _ _)
        all_goals exact Nat.lt_of_sub_eq_succ rfl
    · split at hd
      · cases hd
      · cases hd
        exact .short hd' (by omega)
    · split at hd
      · exact .short rfl (by decide)
      · next n rest =>
        have hn := UInt8.toNat_le n
        split at hd
        · cases hd
          exact .short hd' (by omega)
        · next hl =>
          simp only [List.length_cons] at hl
          cases hname : DomainName.ofBytes (rest.take n.toNat) with
          | ok name => rw [hname] at hd; cases hd
          | error fault =>
            rw [hname] at hd
            cases hd
            refine .fault (fun x => ?_) (DomainName.ofBytes_fault hname)
            simp only [decode, List.cons_append]
            rw [if_neg (by simp only [List.length_cons, List.length_append]; omega),
              List.take_append_of_le_length (by omega), hname]
            rfl
    · next t rest h₁ h₄ h₃ =>
      refine .fault (e := .addressTypeNotSupported t) (fun x => ?_) rfl
      unfold decode
      rw [List.cons_append]
      split <;> simp_all

theorem Request.reading (b : Bytes) :
    Reading (Stage.longest .authenticated) Request.decode b := by
  rcases b with _ | ⟨version, _ | ⟨command, _ | ⟨reserved, _ | ⟨t, rest⟩⟩⟩⟩
  iterate 4 exact .short rfl (Nat.lt_of_sub_eq_succ rfl)
  by_cases hv : version ≠ protocolVersion
  · exact .fault (e := .unsupportedVersion version) (fun x => if_pos hv) rfl
  · have hdecode (x : Bytes) : decode (version :: command :: reserved :: t :: rest ++ x) =
        (Address.decode (t :: rest ++ x)).bind fun found =>
          .ok (⟨Command.ofByte command, found.1⟩, 3 + found.2) :=
      if_neg hv
    cases Address.reading (t :: rest) with
    | @message a n h hn hle =>
      refine .message (a := ⟨Command.ofByte command, a⟩) (n := 3 + n) (fun x => ?_) (by omega) ?_
      · rw [hdecode, h]
        rfl
      · simp only [List.length_cons] at hle ⊢
        omega
    | fault h he =>
      refine .fault (fun x => ?_) he
      rw [hdecode, h]
      rfl
    | @short needed available h hlt =>
      refine .short (show decode _ = .error (.truncated needed available) from ?_) ?_
      · have := hdecode []
        rw [List.append_nil, List.append_nil, h] at this
        exact this
      · simp only [List.length_cons, Stage.longest] at hlt ⊢
        omega

/-! ## Bytes behind a message -/

namespace Session

/-- The session when more bytes were read behind those that it keeps. Until a request leads somewhere it
    keeps them to be handled, then as early bytes of the tunnel; an association keeps none. -/
def keeping (s : Session) (x : Bytes) : Session :=
  match s.stage, s.outgoing? with
  | .connecting, some out => s.withOutgoing { out with early := out.early ++ x }
  | .connected, _ | .associated, _ => s
  | _, _ => { s with inbound := s.inbound ++ x }

variable {s : Session} {x : Bytes}

theorem keeping_of_handshake (h : s.stage.isHandshake = true) :
    s.keeping x = { s with inbound := s.inbound ++ x } := by
  unfold keeping
  cases hst : s.stage <;> rw [hst] at h <;> first | rfl | nomatch h

theorem keeping_withOutgoing {attempts : Attempts} {stream : Option Stream} {early : Bytes}
    (h : s.stage = .connecting) :
    (s.withOutgoing ⟨attempts, stream, early⟩).keeping x =
      s.withOutgoing ⟨attempts, stream, early ++ x⟩ := by
  simp only [keeping, withOutgoing, h, outgoing?]

theorem keeping_cases (s : Session) (x : Bytes) :
    (s.keeping x = { s with inbound := s.inbound ++ x }) ∨
    (∃ remote, s.keeping x = { s with remote }) := by
  unfold keeping
  split
  · exact .inr ⟨_, rfl⟩
  · exact .inr ⟨_, rfl⟩
  · exact .inr ⟨_, rfl⟩
  · exact .inl rfl

@[simp] theorem keeping_stage : (s.keeping x).stage = s.stage := by
  rcases keeping_cases s x with h | ⟨remote, h⟩ <;> rw [h]

@[simp] theorem keeping_client : (s.keeping x).client = s.client := by
  rcases keeping_cases s x with h | ⟨remote, h⟩ <;> rw [h]

theorem keeping_withClientStream {stream : Stream} :
    (s.keeping x).withClientStream stream = (s.withClientStream stream).keeping x := by
  obtain ⟨stage, client, remote, relay, lookups, inbound, pending⟩ := s
  cases stage with
  | connecting => rcases remote with _ | _ | _ <;> rfl
  | _ => rfl

end Session

namespace Work

/-- The work when more bytes were read behind those that the session keeps. -/
def keeping (w : Work) (x : Bytes) : Work :=
  { w with session := w.session.keeping x }

/-- The work when more bytes were read that are to be handled. -/
def push (w : Work) (x : Bytes) : Work :=
  { w with session := { w.session with inbound := w.session.inbound ++ x } }

variable {w : Work} {x : Bytes}

theorem push_eq_keeping (h : w.session.stage.isHandshake = true) : w.push x = w.keeping x := by
  rw [push, keeping, Session.keeping_of_handshake h]

theorem push_append {y : Bytes} : w.push (x ++ y) = (w.push x).push y := by
  simp only [push, List.append_assoc]

theorem push_nil : w.push [] = w := by
  simp only [push, List.append_nil]

end Work

namespace Handler

variable {m : Manner} {ctx : Context} {w w' : Work} {x : Bytes} {limit : Nat}

/-- Behind the message, `x` is kept, and less than `limit` bytes are left to be handled. -/
def Keeps (x : Bytes) (limit : Nat) (_ : Unit) (w : Work) (_ : Unit) (w' : Work) : Prop :=
  w' = w.keeping x ∧ (w.session.stage.isHandshake = true → w.session.inbound.length < limit)

/-- The handler does the same if `x` was read, too, behind what was read. -/
def Overlooks (m : Manner) (h : Handler Unit) (w : Work) (x : Bytes) (limit : Nat) : Prop :=
  Alike m h h w (w.push x) (Keeps x limit) fun e _ _ => e.IsFinal

/-- The handler needs more bytes than were read, which are a part of the message that the stage waits
    for. -/
structure CutsShort (stage : Stage) (h : Handler Unit) (w : Work) : Prop where
  stops : ∃ needed available,
    h.exec w = .done (.error (.violation (.truncated needed available)), w)
  short : w.session.inbound.length < stage.longest
  lacks : stage.Lacks w.session.inbound

/-- The client is told why the session ends. -/
theorem alike_farewell {data : Bytes} {e : SessionError} {Q : Unit → Work → Unit → Work → Prop}
    (hm : m.Serves ctx.turns) (he : e.IsFinal) (hc : w'.session.client = w.session.client) :
    Alike m (sendLast ctx data >>= fun _ => fail e) (sendLast ctx data >>= fun _ => fail e) w w' Q
      fun e _ _ => e.IsFinal :=
  alike_bind (alike_sendLast hm hc fun _ => alike_fail he)

/-! ## Requests -/

theorem tryEach_alike {candidates : List Endpoint} {attempts : Attempts} {early : Bytes}
    {remote : Option Remote} (hm : m.Serves ctx.turns) (hst : w.session.stage = .connecting) :
    Alike m (tryEach ctx early candidates attempts) (tryEach ctx (early ++ x) candidates attempts)
      w { w with session := { w.session with remote } } (Keeps x limit) fun e _ _ => e.IsFinal := by
  induction candidates generalizing attempts with
  | nil => exact alike_bind (alike_update (alike_farewell hm nofun rfl))
  | cons target rest ih =>
    refine alike_bind (alike_log (alike_bind (alike_talk Talk.unread_openStream fun r => ?_)))
    cases r with
    | ok stream =>
      refine alike_update ⟨?_, fun h => ?_⟩
      · simp only [Work.keeping, Session.keeping_withOutgoing hst]
        rfl
      · rw [show (w.session.withOutgoing _).stage = w.session.stage from rfl, hst] at h
        nomatch h
    | error e => exact alike_bind (alike_log ih)

/-- What was read behind the request goes out first. -/
theorem startConnect_overlooks {candidates : List Endpoint} (hm : m.Serves ctx.turns) :
    Overlooks m (startConnect ctx candidates) w x limit :=
  alike_bind (alike_session (alike_bind (alike_update (tryEach_alike hm rfl))))

/-- What was read behind the request is dropped. -/
theorem associate_overlooks (hm : m.Serves ctx.turns) :
    Overlooks m (associate ctx) w x limit := by
  refine alike_bind (alike_session (alike_bind (alike_attempt Talk.unread_openDatagram (fun _ => ?_)
    fun _ => nofun)))
  refine alike_bind (alike_ask rfl fun r => alike_bind (alike_check (fun bound _ => ?_)
    fun _ _ => nofun))
  refine alike_bind (alike_update (alike_bind (alike_attempt Talk.unread_openDatagram (fun _ => ?_)
    fun _ => nofun)))
  refine alike_bind (alike_update (alike_bind (alike_log ?_)))
  exact alike_sendClient hm rfl (fun stream => ⟨rfl, nofun⟩) fun _ _ => nofun

theorem alike_drawId {Q : UInt16 → Work → UInt16 → Work → Prop}
    {E : SessionError → Work → Work → Prop}
    (hq : Q w.ids.draw.1 { w with ids := w.ids.draw.2 } w.ids.draw.1
      { w.push x with ids := w.ids.draw.2 }) : Alike m drawId drawId w (w.push x) Q E :=
  Talk.lockstep_done (.ok hq)

/-- A lookup does not touch what was read. -/
theorem startLookup_alike {name : DomainName} {server : Endpoint} (hm : m.Serves ctx.turns) :
    Alike m (startLookup ctx name server) (startLookup ctx name server) w (w.push x)
      (fun _ w₁ _ w₁' => w₁' = w₁.push x)
      fun e w₁ w₁' => e.IsFinal ∧ w₁' = w₁.push x ∧ w₁.session = w.session := by
  refine alike_bind (alike_session ?_)
  rw [show (w.push x).session.lookups = w.session.lookups from rfl]
  cases w.session.lookups.findFinIdx? (·.isNone) with
  | none => exact alike_fail ⟨nofun, rfl, rfl⟩
  | some slot =>
    refine alike_bind (alike_drawId ?_)
    cases Dns.Query.ofText w.ids.draw.1 name.text .a with
    | error fault => exact alike_fail ⟨nofun, rfl, rfl⟩
    | ok query =>
      refine alike_bind (alike_attempt Talk.unread_openDatagram (fun _ => ?_)
        fun _ => ⟨nofun, rfl, rfl⟩)
      refine alike_bind (alike_talk (Talk.unread_sendTo hm) fun r => ?_)
      rcases r with e | _ | _
      · exact alike_bind (alike_talk Talk.unread_deregister fun _ => alike_fail ⟨nofun, rfl, rfl⟩)
      · exact alike_bind (alike_talk Talk.unread_deregister fun _ => alike_fail ⟨nofun, rfl, rfl⟩)
      · exact alike_bind (alike_log (alike_update rfl))

/-- The name is looked up, or the session goes on with its handshake, or ends. -/
theorem resolve_overlooks {name : DomainName} {request : PendingRequest} (hm : m.Serves ctx.turns)
    (hst : w.session.stage.isHandshake = true) (hlt : w.session.inbound.length < limit) :
    Overlooks m (resolve ctx name request) w x limit := by
  unfold Overlooks resolve
  cases ctx.nameServer with
  | none => exact alike_farewell hm nofun rfl
  | some server =>
    refine alike_bind (alike_outcome ((startLookup_alike hm).imp ?_ ?_))
    · rintro _ w₁ _ _ rfl
      exact alike_update ⟨rfl, nofun⟩
    · rintro e w₁ _ ⟨he, rfl, hs⟩
      cases e with
      | exhausted what =>
        exact alike_log ⟨Work.push_eq_keeping (hs ▸ hst), fun _ => hs ▸ hlt⟩
      | _ => exact alike_farewell hm he rfl

/-! ## Messages -/

theorem overlooks_consume {n : Nat} {f : Unit → Handler Unit} (hn : n ≤ w.session.inbound.length)
    (h : Overlooks m (f ())
      { w with session := { w.session with inbound := w.session.inbound.drop n } } x limit) :
    Overlooks m (consume n >>= f) w x limit := by
  refine alike_bind (alike_update ?_)
  rw [Overlooks, Work.push] at h
  rw [show (w.push x).session.inbound = w.session.inbound ++ x from rfl,
    List.drop_append_of_le_length hn]
  exact h

/-- An accepted message is answered, and the next one is waited for. -/
theorem accept_overlooks {level : LogLevel} {text : String} {data : Bytes} {next : Stage}
    (hm : m.Serves ctx.turns) (hnext : next.isHandshake = true)
    (hlt : w.session.inbound.length < limit) :
    Overlooks m (do
      log level text
      sendClient ctx data
      update fun s => { s with stage := next }) w x limit := by
  refine alike_bind (alike_log (alike_bind (alike_sendClient hm rfl (fun stream => ?_)
    fun _ _ => nofun)))
  refine alike_update ⟨?_, fun _ => hlt⟩
  rw [Work.keeping, Session.keeping_of_handshake hnext]
  rfl

theorem fulfil_overlooks {intent : Intent} {candidates : List Endpoint} (hm : m.Serves ctx.turns) :
    Overlooks m (fulfil ctx intent candidates) w x limit := by
  cases intent with
  | connect => exact startConnect_overlooks hm
  | associate => exact associate_overlooks hm

/-- A handler that decodes what was read handles a message or a fault in the same way whatever is behind
    it. -/
theorem cutsShort_or_overlooks {α : Type} {decode : Bytes → Except WireError (α × Nat)}
    {k : Session → Handler Unit} {stage : Stage}
    (hd : Reading stage.longest decode w.session.inbound)
    (hmessage : ∀ x a n, 0 < n → n ≤ w.session.inbound.length →
      decode w.session.inbound = .ok (a, n) → decode (w.push x).session.inbound = .ok (a, n) →
      Alike m (k w.session) (k (w.push x).session) w (w.push x)
        (Keeps x w.session.inbound.length) fun e _ _ => e.IsFinal)
    (hfault : ∀ x e, e.isTruncated = false → decode w.session.inbound = .error e →
      decode (w.push x).session.inbound = .error e →
      Alike m (k w.session) (k (w.push x).session) w (w.push x)
        (Keeps x w.session.inbound.length) fun e _ _ => e.IsFinal)
    (hshort : ∀ e, decode w.session.inbound = .error e → e.isTruncated = true →
      k w.session = refuse e)
    (hlacks : behind decode w.session.inbound = none → stage.Lacks w.session.inbound) :
    CutsShort stage (session >>= k) w ∨
      ∀ x, Overlooks m (session >>= k) w x w.session.inbound.length := by
  cases hd with
  | @message a n h hn hle =>
    refine .inr fun x => alike_bind (alike_session (hmessage x a n hn hle ?_ (h x)))
    rw [← h [], List.append_nil]
  | @fault e h he =>
    refine .inr fun x => alike_bind (alike_session (hfault x e he ?_ (h x)))
    rw [← h [], List.append_nil]
  | @short needed available h hlt =>
    refine .inl ⟨⟨needed, available, ?_⟩, hlt, hlacks (by rw [behind, h])⟩
    rw [exec_bind, exec_session]
    change exec (k w.session) w = _
    rw [hshort _ h rfl]
    rfl

theorem isFinal_violation {e : WireError} (he : e.isTruncated = false) :
    (SessionError.violation e).IsFinal := by
  rintro needed available ⟨⟩
  nomatch he

theorem onGreeting_overlooks (hm : m.Serves ctx.turns) :
    CutsShort .accepted (onGreeting ctx) w ∨
      ∀ x, Overlooks m (onGreeting ctx) w x w.session.inbound.length := by
  refine cutsShort_or_overlooks (Greeting.reading _) ?_ ?_ ?_ id
  · intro x offered n hn hle h h'
    rw [h, h']
    refine overlooks_consume hle ?_
    cases AuthMethod.select offered ctx.settings.authMethod with
    | none => exact alike_farewell hm nofun rfl
    | some method =>
      have hlt := length_drop_lt hn hle
      cases method <;> exact accept_overlooks hm rfl hlt
  · intro x e he h h'
    rw [h, h']
    cases e with
    | unsupportedVersion v => exact alike_farewell hm nofun rfl
    | _ => exact alike_refuse (isFinal_violation he)
  · intro e h he
    rw [h]
    cases e <;> first | rfl | nomatch he

theorem onCredentials_overlooks (hm : m.Serves ctx.turns) :
    CutsShort .authRequested (onCredentials ctx) w ∨
      ∀ x, Overlooks m (onCredentials ctx) w x w.session.inbound.length := by
  refine cutsShort_or_overlooks (Credentials.reading _) ?_ ?_ ?_ id
  · intro x c n hn hle h h'
    rw [h, h']
    refine overlooks_consume hle ?_
    by_cases hc : c.isFor ctx.settings.username ctx.settings.password = true
    · simp only [hc, if_true]
      exact accept_overlooks hm rfl (length_drop_lt hn hle)
    · simp only [hc]
      exact alike_bind (alike_log (alike_farewell hm nofun rfl))
  · intro x e he h h'
    rw [h, h']
    exact alike_refuse (isFinal_violation he)
  · intro e h _
    rw [h]

theorem onRequest_overlooks (hm : m.Serves ctx.turns) (hst : w.session.stage.isHandshake = true) :
    CutsShort .authenticated (onRequest ctx) w ∨
      ∀ x, Overlooks m (onRequest ctx) w x w.session.inbound.length := by
  refine cutsShort_or_overlooks (Request.reading _) ?_ ?_ ?_ id
  · intro x request n hn hle h h'
    rw [h, h']
    refine overlooks_consume hle (alike_bind (alike_log ?_))
    obtain ⟨command, host, port⟩ := request
    have hlt := length_drop_lt hn hle
    cases command with
    | connect | associate =>
      cases host with
      | domain name => exact resolve_overlooks hm hst hlt
      | _ => exact fulfil_overlooks hm
    | _ => exact alike_farewell hm nofun rfl
  · intro x e he h h'
    rw [h, h']
    cases e with
    | addressTypeNotSupported type => exact alike_farewell hm nofun rfl
    | _ => exact alike_refuse (isFinal_violation he)
  · intro e h he
    rw [h]
    cases e <;> first | rfl | nomatch he

/-- A message is cut short, or what is behind it makes no difference. -/
theorem onMessage_overlooks (hm : m.Serves ctx.turns) (hst : w.session.stage.isHandshake = true) :
    CutsShort w.session.stage (onMessage ctx w.session.stage) w ∨
      ∀ x, Overlooks m (onMessage ctx w.session.stage) w x w.session.inbound.length := by
  cases h : w.session.stage with
  | accepted => exact onGreeting_overlooks hm
  | authRequested => exact onCredentials_overlooks hm
  | authenticated => exact onRequest_overlooks hm hst
  | _ =>
    rw [h] at hst
    nomatch hst

end Handler

end SocksProxy
