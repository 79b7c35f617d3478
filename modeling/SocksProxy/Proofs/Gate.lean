/-
  What a session with credentials demands of its client.

  A client presents credentials with the first bytes that it sends: a greeting that offers to
  authenticate with a password, and the credentials behind it (`Presents`). Before it has presented the
  right ones, nothing is done for it, and there is no second attempt.

  * `Admission` says how far a session has come with what it has read, and `Negotiates` what a step can
    do to it;
  * **`nothing_without_credentials`**.
-/
import SocksProxy.Proofs.Progress
import SocksProxy.Proofs.Conversation

namespace SocksProxy

open Dialogue

/-! ## Credentials -/

/-- The credentials that clients have to present. -/
def Settings.credentials (settings : Settings) : Credentials :=
  ⟨.ofText settings.username, .ofText settings.password⟩

/-- The bytes begin with a greeting that offers to authenticate with a password, and the credentials
    behind it. -/
def Presents (b : Bytes) (c : Credentials) : Prop :=
  ∃ offered n m, Greeting.decode b = .ok (offered, n) ∧ AuthMethod.password.byte ∈ offered ∧
    Credentials.decode (b.drop n) = .ok (c, m)

section
variable {settings : Settings} {b : Bytes} {c c' : Credentials}

theorem Credentials.isFor_iff :
    c.isFor settings.username settings.password = true ↔ c = settings.credentials := by
  rw [isFor, Bool.and_eq_true, beq_iff_eq, beq_iff_eq]
  constructor
  · rintro ⟨hu, hp⟩
    rw [Settings.credentials, ← hu, ← hp]
  · rintro rfl
    exact ⟨rfl, rfl⟩

theorem Settings.authMethod_eq_password (h : settings.hasCredentials = true) :
    settings.authMethod = .password := by
  rw [Settings.authMethod, if_pos h]

theorem Presents.unique (h : Presents b c) (h' : Presents b c') : c = c' := by
  obtain ⟨offered, n, m, hg, -, hc⟩ := h
  obtain ⟨offered', n', m', hg', -, hc'⟩ := h'
  rw [hg] at hg'
  cases hg'
  rw [hc] at hc'
  cases hc'
  rfl

/-- What arrives later does not change the credentials that were presented. -/
theorem Presents.append (h : Presents b c) (x : Bytes) : Presents (b ++ x) c := by
  obtain ⟨offered, n, m, hg, hm, hc⟩ := h
  refine ⟨offered, n, m, Greeting.decode_append x hg, hm, ?_⟩
  rw [List.drop_append_of_le_length (Greeting.decode_le hg)]
  exact (Credentials.decode_front hc).2 x

end

/-! ## Admission -/

/-- How far a session has come in its stage, with what was read and what of it is still to be handled. -/
inductive Admission (settings : Settings) (heard : Bytes) : Stage → Bytes → Prop where
  | greeting : Admission settings heard .accepted heard
  | credentials {offered : Bytes} {n : Nat} :
      Greeting.decode heard = .ok (offered, n) → AuthMethod.password.byte ∈ offered →
      Admission settings heard .authRequested (heard.drop n)
  | granted {stage : Stage} {inbound : Bytes} :
      Presents heard settings.credentials → Admission settings heard stage inbound

section
variable {settings : Settings} {heard inbound : Bytes} {stage : Stage}

theorem Admission.hears (h : Admission settings heard stage inbound) (b : Bytes) :
    Admission settings (heard ++ b) stage (inbound ++ b) := by
  cases h with
  | greeting => exact .greeting
  | credentials hg hm =>
    rw [← List.drop_append_of_le_length (Greeting.decode_le hg)]
    exact .credentials (Greeting.decode_append b hg) hm
  | granted h => exact .granted (h.append b)

theorem Admission.cases (h : Admission settings heard stage inbound) :
    Presents heard settings.credentials ∨ stage.IsNegotiating := by
  cases h with
  | greeting => exact .inr (.inl rfl)
  | credentials => exact .inr (.inr rfl)
  | granted h => exact .inl h

/-- When everything is handled, wrong credentials were not presented. -/
theorem Admission.presents {c : Credentials} (h : Admission settings heard stage [])
    (hc : Presents heard c) : c = settings.credentials := by
  obtain ⟨offered, n, m, hg, -, hd⟩ := id hc
  generalize hin : ([] : Bytes) = inbound at h
  cases h with
  | greeting =>
    subst hin
    nomatch hg
  | credentials hg' =>
    rw [hg] at hg'
    cases hg'
    rw [← hin] at hd
    nomatch hd
  | granted h => exact hc.unique h

end

/-- An accepted message leads on. -/
theorem Accepts.admission {settings : Settings} {s : Session} {heard data : Bytes} {n : Nat}
    {next : Stage} (h : Accepts settings s n data next) (hset : settings.hasCredentials = true)
    (ha : Admission settings heard s.stage s.inbound) :
    Admission settings heard next (s.inbound.drop n) := by
  generalize hst : s.stage = stage at ha
  generalize hin : s.inbound = inbound at ha
  cases ha with
  | granted hp => exact .granted hp
  | greeting =>
    cases h with
    | greeting _ hg hm =>
      obtain ⟨rfl, hmem⟩ := select_eq_some hm
      rw [Settings.authMethod_eq_password hset] at hmem ⊢
      rw [hin] at hg
      exact .credentials hg hmem
    | credentials hst' =>
      rw [hst] at hst'
      nomatch hst'
  | credentials hg hmem =>
    cases h with
    | greeting hst' =>
      rw [hst] at hst'
      nomatch hst'
    | credentials _ hd hc =>
      rw [hin, Credentials.isFor_iff.1 hc] at hd
      exact .granted ⟨_, _, _, hg, hmem, hd⟩

/-! ## Steps of the negotiation -/

/-- A call that connects, or that uses a datagram socket. -/
def Verb.IsOutbound (v : Verb) : Prop :=
  ∃ socket, v = .connect socket ∨ v = .datagram socket

theorem Verb.IsWorkOn.not_outbound {v : Verb} {socket : Socket} (h : v.IsWorkOn socket) :
    ¬ v.IsOutbound := by
  rintro ⟨t, rfl | rfl⟩ <;> rcases h with h | h <;> nomatch h

theorem Verb.IsUpkeep.not_outbound {v : Verb} (h : v.IsUpkeep) : ¬ v.IsOutbound := by
  rintro ⟨t, rfl | rfl⟩ <;> rcases h with h | ⟨_, h⟩ <;> nomatch h

/-- What a step of the negotiation can do to what was read: it reads more, it takes an accepted message
    off, or it ends the session. -/
inductive Negotiates (settings : Settings) (s : Session) (es : Transcript) :
    Except SessionError Unit → Session → Prop where
  | hears {r : Except SessionError Unit} {s' : Session} : s'.stage = s.stage →
      s'.inbound = s.inbound ++ Transcript.read .client es → Negotiates settings s es r s'
  | accepts {n : Nat} {data : Bytes} {s' : Session} : Accepts settings s n data s'.stage →
      s'.inbound = s.inbound.drop n → Transcript.read .client es = [] →
      Negotiates settings s es (.ok ()) s'
  | ends {e : SessionError} {s' : Session} : s'.stage = s.stage →
      Negotiates settings s es (.error e) s'

section
variable {ctx : Context} {origin : Stage} {s s' : Session} {before es : Transcript}
  {r : Except SessionError Unit}

theorem Negotiates.of_deaf {settings : Settings} (hd : Transcript.Deaf .client es)
    (hst : s'.stage = s.stage) (hin : s'.inbound = s.inbound) : Negotiates settings s es r s' := by
  refine .hears hst ?_
  rw [hd.read, List.append_nil, hin]

theorem Step.negotiates (h : Step ctx origin s es r s') (hs : s.Shaped)
    (hneg : s.stage.IsNegotiating) :
    Negotiates ctx.settings s es r s' ∧ Transcript.All (¬ ·.IsOutbound) es := by
  have haside {es : Transcript} (h : es.All (· = .aside)) : Transcript.All (¬ ·.IsOutbound) es :=
    h.imp fun v hv => Verb.IsUpkeep.not_outbound (.inl hv)
  have hreceive {es : Transcript} (h : es.All (· = .receive s.client.stream.socket)) :
      Transcript.All (¬ ·.IsOutbound) es := by
    refine h.imp fun v hv => ?_
    rw [hv]
    rintro ⟨t, h | h⟩ <;> nomatch h
  have hwork {es : Transcript} (h : es.All (Verb.IsWorkOn s.client.stream.socket)) :
      Transcript.All (¬ ·.IsOutbound) es :=
    h.imp fun _ hv => hv.not_outbound
  have hno {p : Prop} {stage : Stage} (hst : s.stage = stage) (hne : ¬ stage.IsNegotiating) : p :=
    absurd (hst ▸ hneg) hne
  cases h with
  | aside h | ended _ h => exact ⟨.of_deaf (Transcript.deaf_of_aside h) rfl rfl, haside h⟩
  | clientPolled _ _ h hx =>
    refine ⟨.hears rfl ?_, hreceive (Stream.receive_all h)⟩
    rw [Stream.receive_empty h hx, List.append_nil]
  | clientFlushed h => exact ⟨.of_deaf h.worked.deaf rfl rfl, hwork h.worked.calls⟩
  | clientResumed h =>
    obtain ⟨hw, -, -, -⟩ := Stream.resume_cases h
    exact ⟨.of_deaf hw.deaf rfl rfl, hwork hw.calls⟩
  | heard _ _ h =>
    obtain ⟨-, -, -, hb⟩ := Stream.receive_data h
    refine ⟨.hears rfl ?_, hreceive (Stream.receive_all h)⟩
    rw [hb, hs.client, if_pos rfl]
  | cut => exact ⟨.of_deaf Transcript.deaf_nil rfl rfl, Transcript.all_nil⟩
  | answered ha h₁ h₂ =>
    refine ⟨.accepts ha rfl ?_, (haside h₁).append (hwork h₂.worked.calls)⟩
    exact ((Transcript.deaf_of_aside h₁).append h₂.worked.deaf).read
  | unanswered ha h₁ h₂ => exact ⟨.ends rfl, (haside h₁).append (hwork h₂.worked.calls)⟩
  | farewell _ hf h₁ h₂ h₃ =>
    exact ⟨.ends rfl,
      ((haside h₁).append (hwork (Stream.send_cases h₂).1.calls)).append (haside h₃)⟩
  | connectStarted hreq | unassociated hreq | associated hreq =>
    exact absurd hneg hreq.not_negotiating
  | queried hst | discarded hst =>
    rcases hst with hst | hst <;> exact hno hst (by rintro (h | h) <;> nomatch h)
  | lookupStarted hst | lookupsClosed hst | attemptStarted hst | attemptFailed hst
  | abandoned hst | unbound hst | unstarted hst | established hst | relayedUp _ hst
  | remotePolled hst | relayedDown hst | clientDrained hst | remoteFlushed hst
  | remoteDrained hst | datagrams hst => exact hno hst (by rintro (h | h) <;> nomatch h)

theorem Negotiates.admission (h : Negotiates ctx.settings s es r s')
    (hset : ctx.settings.hasCredentials = true)
    (ha : Admission ctx.settings (Transcript.read .client before) s.stage s.inbound) :
    (r = .ok () →
      Admission ctx.settings (Transcript.read .client (before ++ es)) s'.stage s'.inbound) ∧
    (Presents (Transcript.read .client (before ++ es)) ctx.settings.credentials ∨
      s'.stage.IsNegotiating) := by
  rw [Transcript.read_append]
  cases h with
  | hears hst hin =>
    rw [hst, hin]
    exact ⟨fun _ => ha.hears _, (ha.hears _).cases⟩
  | accepts hacc hin hread =>
    rw [hin, hread, List.append_nil]
    have ha' := hacc.admission hset ha
    exact ⟨fun _ => ha', ha'.cases⟩
  | ends hst =>
    rw [hst]
    exact ⟨nofun, ha.cases.imp_left (·.append _)⟩

end

/-! ## What is said -/

/-- Nothing was granted to the client: at most a method was selected, and credentials were refused. -/
def Conversation.Ungranted : Conversation → Prop
  | silent | selected _ | judged false => True
  | _ => False

theorem Conversation.Fits.ungranted {settings : Settings} {stage : Stage} {c : Conversation}
    (h : c.Fits settings stage) (hneg : stage.IsNegotiating) : c.Ungranted := by
  rcases hneg with rfl | rfl
  · rw [show c = silent from h]
    trivial
  · rw [h.2]
    trivial

/-- Unless the client has presented the credentials, a negotiation grants it nothing. -/
theorem Utterance.ungranted {settings : Settings} {s : Session} {said got heard : Bytes}
    {r : Except SessionError Unit} {next : Stage} {c : Conversation}
    (h : Utterance settings s said got r next) (hc : c.Fits settings s.stage)
    (hneg : s.stage.IsNegotiating) (hset : settings.hasCredentials = true)
    (ha : Admission settings heard s.stage s.inbound) (hp : ¬ Presents heard settings.credentials) :
    ∃ c' : Conversation, c'.Ungranted ∧ c'.bytes = c.bytes ++ said := by
  have hno {p : Prop} (h : s.stage.IsAgreed) : p := by
    rcases h with h | h | h <;> rw [h] at hneg <;> rcases hneg with h | h <;> nomatch h
  have haccepts {n : Nat} {next : Stage} (h : Accepts settings s n said next) :
      ∃ c' : Conversation, c'.Ungranted ∧ c'.bytes = c.bytes ++ said := by
    have ha' := h.admission hset ha
    cases h with
    | @greeting offered n method hst =>
      rw [hst] at hc
      obtain rfl := hc
      exact ⟨.selected (some method), trivial, rfl⟩
    | credentials =>
      rcases ha'.cases with h | h
      · exact absurd h hp
      · rcases h with h | h <;> nomatch h
  cases h with
  | nothing => exact ⟨c, hc.ungranted hneg, (List.append_nil _).symm⟩
  | answer h | unanswered h => exact haccepts h
  | farewell hf =>
    cases hf with
    | version hst | method hst =>
      rw [hst] at hc
      obtain rfl := hc
      exact ⟨.selected none, trivial, rfl⟩
    | credentials hst =>
      rw [hst] at hc
      obtain ⟨-, rfl⟩ := hc
      exact ⟨.judged false, trivial, rfl⟩
    | reply hst => exact hno hst
  | tunnel hst => exact hno (.inr (.inr hst))
  | association hst => exact hno hst
  | data hst =>
    rw [hst] at hneg
    rcases hneg with h | h <;> nomatch h

/-- Wrong credentials are answered with a refusal, and end the session. -/
theorem Handler.onCredentials_refuses {ctx : Context} {w : Work} {c : Credentials} {n : Nat}
    (hw : w.session.Shaped) (hd : Credentials.decode w.session.inbound = .ok (c, n))
    (hne : c ≠ ctx.settings.credentials) :
    (onCredentials ctx).Always w [] (fun _ _ _ => False)
      (fun e w' es => e = .violation .authFailed ∧
        Spoken w.session.client.stream (authStatus false) es (.error e) w'.session.client.stream) := by
  have hc : ¬ c.isFor ctx.settings.username ctx.settings.password = true := fun h =>
    hne (Credentials.isFor_iff.1 h)
  unfold onCredentials
  rw [always_bind, always_session, hd]
  simp only [hc]
  rw [always_bind]
  unfold consume
  rw [always_update, if_neg (by simp), always_bind, always_log, always_bind]
  refine always_sendLast fun es₁ es₂ r stream h₁ hall => always_refuse.2 ⟨rfl, ?_⟩
  have hsaid : Spoken w.session.client.stream (authStatus false) es₁
      (.error (.violation .authFailed)) stream :=
    .of_worked (Stream.send_cases h₁).1 (by rw [hw.client]) nofun
  have hlog (text : String) : Transcript.All (· = .aside)
      [⟨.log .session ⟨.warn, .session, text⟩, ()⟩] := Transcript.all_singleton rfl
  exact (hsaid.ahead (Transcript.mute_of_aside hall) (Transcript.deaf_of_aside hall)).behind
    (Transcript.mute_of_aside (hlog _)) (Transcript.deaf_of_aside (hlog _)).sawEnd

/-! ## The invariant -/

/-- A client that has presented the credentials, or one that negotiates and was granted nothing. -/
def Barred (settings : Settings) (s : Session) (es : Transcript) : Prop :=
  Presents (Transcript.read .client es) settings.credentials ∨
    (s.stage.IsNegotiating ∧ ∃ c : Conversation, c.Ungranted ∧ s.offered es = c.bytes)

/-- What a call needs. A connection, or the use of a datagram socket, needs the credentials of the client;
    so do bytes for the client that grant it something. -/
structure Gated (settings : Settings) (before : Transcript) (_origin : Stage) (e : SessionEvent) :
    Prop where
  outbound : e.1.verb.IsOutbound →
    Presents (Transcript.read .client before) settings.credentials
  granting : ∀ socket data, e.1 = .send socket data → socket.role = .client →
    Presents (Transcript.read .client before) settings.credentials ∨
      ∃ c : Conversation, c.Ungranted ∧ Transcript.taken .client before ++ data = c.bytes

section
variable {ctx : Context} {settings : Settings} {origin : Stage} {s s' : Session}
  {before es : Transcript} {r : Except SessionError Unit} {h : History}

theorem guarded_of_presents
    (hp : Presents (Transcript.read .client before) settings.credentials) :
    Transcript.Guarded (Gated settings) before origin es := by
  intro es₁ e es₂ _
  have hp' : Presents (Transcript.read .client (before ++ es₁)) settings.credentials := by
    rw [Transcript.read_append]
    exact hp.append _
  exact ⟨fun _ => hp', fun _ _ _ _ => .inl hp'⟩

theorem gated_of_upkeep {e : SessionEvent} (h : e.1.verb.IsUpkeep) :
    Gated settings before origin e := by
  refine ⟨fun hout => absurd hout h.not_outbound, fun socket data he => ?_⟩
  rw [he] at h
  rcases h with h | ⟨_, h⟩ <;> nomatch h

theorem Barred.upkeep (h : Barred settings s before) (hes : es.All Verb.IsUpkeep) :
    Barred settings s (before ++ es) := by
  rw [Barred, Transcript.read_append, Session.offered_mute (Transcript.mute_of_upkeep hes)]
  exact h.imp_left (·.append _)

theorem Downstream.barred (hd : Downstream settings s es)
    (ha : Admission settings (Transcript.read .client es) s.stage s.inbound) :
    Barred settings s es := by
  refine ha.cases.imp_right fun hneg => ⟨hneg, ?_⟩
  obtain ⟨c, hc, -, hb⟩ := hd.conversation
  exact ⟨c, hc.ungranted hneg, hd.offered_eq.trans hb⟩

theorem Step.gated (h : Step ctx origin s es r s') (hs : s.Shaped)
    (hset : ctx.settings.hasCredentials = true) (hd : Downstream ctx.settings s before)
    (ha : Admission ctx.settings (Transcript.read .client before) s.stage s.inbound) :
    Transcript.Guarded (Gated ctx.settings) before origin es ∧
    (r = .ok () →
      Admission ctx.settings (Transcript.read .client (before ++ es)) s'.stage s'.inbound) ∧
    Barred ctx.settings s' (before ++ es) := by
  by_cases hp : Presents (Transcript.read .client before) ctx.settings.credentials
  · have hp' : Presents (Transcript.read .client (before ++ es)) ctx.settings.credentials := by
      rw [Transcript.read_append]
      exact hp.append _
    exact ⟨guarded_of_presents hp, fun _ => .granted hp', .inl hp'⟩
  · have hneg := ha.cases.resolve_left hp
    obtain ⟨hn, hall⟩ := h.negotiates hs hneg
    obtain ⟨ha', hneg'⟩ := hn.admission hset ha
    obtain ⟨said, hspoken, hutter⟩ := h.speaks hs
    obtain ⟨c, hc, -, hb⟩ := hd.conversation
    obtain ⟨c', hun, hb'⟩ := hutter.ungranted hc hneg hset ha hp
    have hoffered : s'.offered (before ++ es) = c'.bytes := by
      rw [hspoken.offered hd, hd.offered_eq, hb, hb']
    refine ⟨?_, ha', hneg'.imp_right fun hneg' => ⟨hneg', c', hun, hoffered⟩⟩
    rintro es₁ e es₂ rfl
    refine ⟨fun hout => absurd hout (hall e (List.mem_append_right es₁ List.mem_cons_self)), ?_⟩
    intro socket data he hrole
    refine .inr ⟨c', hun, ?_⟩
    obtain ⟨htaken, -⟩ := hspoken.asked es₁ e es₂ rfl socket data he hrole
    rw [Transcript.taken_append, List.append_assoc, htaken, ← List.append_assoc, hb, hb']

/-! ## Sessions -/

theorem gate_invariant (hset : ctx.settings.hasCredentials = true) : Invariant ctx
    (fun h s => (Downstream ctx.settings s h.calls ∧
      Admission ctx.settings (Transcript.read .client h.calls) s.stage s.inbound) ∧
      h.Guarded (Gated ctx.settings))
    (fun h s => Barred ctx.settings s h.calls ∧ h.Guarded (Gated ctx.settings)) := by
  refine guarded_invariant
    (J := fun es s => Downstream ctx.settings s es ∧
      Admission ctx.settings (Transcript.read .client es) s.stage s.inbound)
    (F := fun es s => Barred ctx.settings s es)
    (fun {_ _ es} hopens => ⟨downstream_fresh hopens, ?_⟩) (fun hs hi h => ?_)
    (fun hs hi h => ?_) (fun hi => hi.1.barred hi.2) (fun hb hall => hb.upkeep hall)
    fun _ _ _ hv => gated_of_upkeep hv
  · have hd : Transcript.Deaf .client es := Transcript.deaf_of_upkeep hopens.upkeep
    rw [hd.read]
    exact .greeting
  · obtain ⟨hg, ha, -⟩ := h.gated hs hset hi.1 hi.2
    obtain ⟨-, hd, -⟩ := h.downstream hs hi.1
    exact ⟨hg, hd, ha rfl⟩
  · obtain ⟨hg, -, hb⟩ := h.gated hs hset hi.1 hi.2
    exact ⟨hg, hb⟩

/-- **Nothing is done without credentials.** When a server has credentials, a session stays in its
    negotiation and the client is granted nothing, unless the first bytes that it has sent present the
    credentials of the server. No call before them connects, uses a datagram socket, or grants the
    client anything.

    A client has one attempt. When it presents other credentials, the session does not survive the
    event, and nothing that the client sends later can undo them: they are answered with a refusal. -/
theorem nothing_without_credentials (hset : ctx.settings.hasCredentials = true) {h : History} :
    (Life ctx h s ∨ Ended ctx h s →
      Barred ctx.settings s h.calls ∧ h.Guarded (Gated ctx.settings)) ∧
    (∀ c, Presents (Transcript.read .client h.calls) c → c ≠ ctx.settings.credentials →
      ¬ Life ctx h s ∧
        ∀ later, ¬ Presents (Transcript.read .client h.calls ++ later) ctx.settings.credentials) ∧
    ∀ w c n, w.session.Shaped → w.session.stage = .authRequested →
      Credentials.decode w.session.inbound = .ok (c, n) → c ≠ ctx.settings.credentials →
        (Handler.onMessage ctx w.session.stage).Always w [] (fun _ _ _ => False)
          (fun e w' es => e = .violation .authFailed ∧ Spoken w.session.client.stream
            (authStatus false) es (.error e) w'.session.client.stream) := by
  refine ⟨?_, fun c hc hne => ⟨fun hl => ?_, fun later hp => ?_⟩, fun w c n hw hst hd hne => ?_⟩
  · rintro (hl | he)
    · obtain ⟨⟨hd, ha⟩, hg⟩ := (gate_invariant hset).life hl
      exact ⟨hd.barred ha, hg⟩
    · exact (gate_invariant hset).ended he
  · obtain ⟨⟨-, ha⟩, -⟩ := (gate_invariant hset).life hl
    rcases ha.cases with hp | hneg
    · exact hne (hc.unique hp)
    · rw [hl.settled hneg] at ha
      exact hne (ha.presents hc)
  · exact hne ((hc.append later).unique hp)
  · rw [hst]
    exact Handler.onCredentials_refuses hw hd hne

end

/-- What `nothing_without_credentials` says of a client with the right password, and of one that sends a
    greeting and a wrong password at once. -/
theorem impostor_gets_nothing :
    (∃ h s, Life ⟨lockedSettings, none, 9⟩ h s ∧ s.stage = .connected ∧
      Presents (Transcript.read .client h.calls) lockedSettings.credentials) ∧
    ∃ h s, Ended ⟨lockedSettings, none, 9⟩ h s ∧ h.taken .client = [5, 2, 1, 255] ∧
      Barred lockedSettings s h.calls ∧ h.Guarded (Gated lockedSettings) ∧
      ∀ later, ¬ Presents (Transcript.read .client h.calls ++ later) lockedSettings.credentials := by
  have hset : (⟨lockedSettings, none, 9⟩ : Context).settings.hasCredentials = true := by decide
  constructor
  · obtain ⟨h, s, hl, hx⟩ := exists_life_of_rehearse ⟨lockedSettings, none, 9⟩ keyholder
      (handshake 3 ++ [attemptDone]) (fun _ s => s.stage = .connected) (by decide +kernel)
    have hst : s.stage = .connected := of_decide_eq_true hx
    refine ⟨h, s, hl, hst, ?_⟩
    rcases ((nothing_without_credentials hset).1 (.inl hl)).1 with hp | ⟨hneg, -⟩
    · exact hp
    · rw [hst] at hneg
      rcases hneg with h | h <;> nomatch h
  · obtain ⟨h, s, he, hx⟩ := exists_ended_of_rehearseEnd ⟨lockedSettings, none, 9⟩
      (.between [[5, 1, 2, 1, 1, 117, 1, 113]] []) [] .client { readable := true }
      (fun h _ => h.taken .client = [5, 2, 1, 255] ∧
        Transcript.read .client h.calls = [5, 1, 2, 1, 1, 117, 1, 113]) (by decide +kernel)
    obtain ⟨ht, hread⟩ := of_decide_eq_true hx
    have hp : Presents (Transcript.read .client h.calls) ⟨[117], [113]⟩ := by
      rw [hread]
      exact ⟨[2], 3, 5, rfl, List.mem_cons_self, rfl⟩
    obtain ⟨hb, hg⟩ := (nothing_without_credentials hset).1 (.inr he)
    exact ⟨h, s, he, ht, hb, hg,
      ((nothing_without_credentials hset (s := s)).2.1 _ hp (by decide +kernel)).2⟩

end SocksProxy
