/-
  How sessions end once their client has made a request.

  * `Parting` lists the ways in which a turn can end a session; `onEvent_parts` says that there is no
    other;
  * `Session.Demanded`: the request was taken off what was read.

  **`commands_answered`**: a request is answered by one reply, unless the client or a socket that was
  opened for it does not serve.
-/
import SocksProxy.Proofs.Fallback
import SocksProxy.Proofs.Upstream

namespace SocksProxy

open Dialogue

/-! ## Partings -/

/-- How a turn that began in the session `s` has ended it. -/
inductive Parting (ctx : Context) (s : Session) : Session → Transcript → Prop where
  /-- The client is told last that its request cannot be done. -/
  | refused {es₁ es₂ : Transcript} {t s' : Session} {reply : Reply} {e : SessionError} :
      Steps ctx s.stage s es₁ (.ok ()) t → t.stage.IsAgreed → s'.stage.IsAgreed →
      Spoken t.client.stream reply.encode es₂ (.error e) s'.client.stream →
      Parting ctx s s' (es₁ ++ es₂)
  /-- A success was announced. -/
  | served {es : Transcript} {s' : Session} :
      s'.stage = .connected ∨ s'.stage = .associated → Parting ctx s s' es
  | gone {es : Transcript} {s' : Session} : es.Fails .client → Parting ctx s s' es
  /-- No request was made. -/
  | unheard {es : Transcript} {w : Work} : Unheard ctx s w es → Parting ctx s w.session es
  /-- A socket that was opened for the request does not serve, and the client is not told. -/
  | spoiled {es₁ es₂ : Transcript} {t s' : Session} :
      Steps ctx s.stage s es₁ (.ok ()) t → t.stage.IsAgreed → es₂.Mute .client →
      s'.client = t.client → es₂.Fails .remote ∨ es₂.Fails .relay → Parting ctx s s' (es₁ ++ es₂)

/-- When all candidates have failed, the client is told so, behind calls that do not concern it. -/
theorem Proceeds.parting {ctx : Context} {s t t' s' : Session} {a : Attempts} {early : Bytes}
    {es es₁ es₂ : Transcript} {e : SessionError} (hp : Proceeds t' a early es₂ (.error e) s')
    (hs : Steps ctx s.stage s es (.ok ()) t) (hw : s.Shaped) (hst : t.stage.IsAgreed)
    (hst' : t'.stage = .connecting) (hc : t'.client = t.client) (hq : es₁.Quiet) :
    Parting ctx s s' (es ++ (es₁ ++ es₂)) := by
  cases hp with
  | @exhausted es₃ es₄ es₅ a' r stream htries _ hworked haside =>
    have hrole : t.client.stream.socket.role = .client := by rw [(hs.shaped rfl hw).client]
    rw [hc] at hworked
    have hfront : Transcript.Quiet (es₁ ++ es₃) := hq.append (Transcript.quiet_of_setup htries.setup)
    have hspoken : Spoken t.client.stream a'.failureReply.encode es₄
        (.error (.connect a'.failureText)) stream := .of_worked hworked hrole nofun
    have hall := (hspoken.ahead (Transcript.mute_of_aside haside)
      (Transcript.deaf_of_aside haside)).behind hfront.mute hfront.deaf.sawEnd
    rw [List.append_assoc] at hall
    exact .refused hs hst (.inr (.inr hst')) hall

namespace Handler

variable {α : Type} {ctx : Context} {s t : Session} {w : Work} {es : Transcript}

/-- If a run of the handler behind the calls `es`, in a turn that began in the session `s`, ends the
    session, it does so in one of the ways listed. -/
def Parts (ctx : Context) (s : Session) (h : Handler α) (w : Work) (es : Transcript) : Prop :=
  h.Always w es (fun _ _ _ => True) fun _ w' es' => Parting ctx s w'.session es'

theorem Perseveres.parts {h : Handler α} (hh : h.Perseveres w es) : Parts ctx s h w es :=
  Always.imp hh (fun _ _ _ _ => trivial) fun _ _ _ h => .gone h.2

theorem farewell_parts {reply : Reply} {e : SessionError} {inbound : Bytes}
    (hs : Steps ctx s.stage s es (.ok ()) t) (hw : s.Shaped) (hst : t.stage.IsAgreed)
    (heq : w.session = { t with inbound }) :
    Parts ctx s (do sendLast ctx reply.encode; fail e : Handler α) w es := by
  rw [Parts, always_bind]
  refine always_sendLast fun es₁ es₂ r stream h₁ h₂ => always_fail.2 ?_
  rw [heq] at h₁ ⊢
  have hspoken : Spoken t.client.stream reply.encode es₁ (.error e) stream :=
    .of_worked (Stream.send_cases h₁).1 (by rw [(hs.shaped rfl hw).client]) nofun
  exact .refused hs hst hst
    (hspoken.ahead (Transcript.mute_of_aside h₂) (Transcript.deaf_of_aside h₂))

/-! ## Connecting -/

theorem startConnect_parts {candidates : List Endpoint} (hs : Steps ctx s.stage s es (.ok ()) t)
    (hw : s.Shaped) (hreq : Requested t .connect w.session) :
    Parts ctx s (startConnect ctx candidates) w es := by
  rw [Parts, startConnect, always_bind, always_session, always_bind, always_update]
  refine ((tryEach_proceeds .nil rfl).shift es).imp (fun _ _ _ _ => trivial) ?_
  rintro e w₁ _ ⟨es₁, rfl, hp⟩
  have hnone : Transcript.Quiet [] := Transcript.all_nil
  exact hp.parting hs hw hreq.isAgreed.1 rfl (hreq.frame (hs.shaped rfl hw)).1 hnone

theorem abandon_parts {out : Outgoing} {why : IoError} (hs : Steps ctx s.stage s es (.ok ()) w.session)
    (hw : s.Shaped) (hst : w.session.stage = .connecting) :
    Parts ctx s (abandon ctx out why) w es := by
  have htry {es₁ : Transcript} (hq : es₁.Quiet) :
      Parts ctx s (tryNext ctx (out.attempts.failed why) out.early) w (es ++ es₁) := by
    refine ((tryEach_proceeds .nil rfl).shift _).imp (fun _ _ _ _ => trivial) ?_
    rintro e w₁ _ ⟨es₂, rfl, hp⟩
    rw [List.append_assoc]
    exact hp.parting hs hw (.inr (.inr hst)) hst rfl hq
  rw [Parts, abandon]
  cases out.stream with
  | none =>
    have h := htry Transcript.all_nil
    rw [List.append_nil] at h
    exact h
  | some stream =>
    rw [always_bind, always_talk]
    rintro es₁ ⟨⟩ h₁
    exact htry (Transcript.quiet_of_upkeep (closeStream_upkeep h₁))

theorem abandonFailed_parts {out : Outgoing} {why : IoError}
    (hs : Steps ctx s.stage s es (.ok ()) w.session) (hw : s.Shaped)
    (hst : w.session.stage = .connecting) : Parts ctx s (abandonFailed ctx out why) w es := by
  rw [Parts, abandonFailed, always_bind, always_log]
  exact abandon_parts (hs.call rfl) hw hst

/-- A stream is put into service, unless it does not serve; then the client is not spoken to. -/
theorem Establishes.serves {t' : Session} {x : Except SessionError Unit} {out : Outgoing} {stream : Stream}
    {peer : Endpoint} (h : Establishes ctx t out stream peer es x t')
    (hrole : stream.socket.role = .remote) :
    t'.stage = .connected ∨ es.Mute .client ∧ t'.client = t.client ∧ es.Fails .remote := by
  have haddress {bound : Except IoError Endpoint} :
      Transcript.Mute .client [⟨.localAddress stream.socket, bound⟩] :=
    Transcript.mute_of_aside (Transcript.all_singleton rfl)
  cases h with
  | unbound => exact .inr ⟨haddress, rfl, Transcript.fails_singleton (decide_eq_true hrole)⟩
  | unstarted h =>
    have hqueued : (stream.queue out.early).socket.role = .remote := hrole
    exact .inr ⟨haddress.append (h.worked.mute (by rw [hqueued]; nofun)), rfl,
      Transcript.Fails.right (hqueued ▸ h.fails)⟩
  | established => exact .inl rfl

theorem establish_parts {out : Outgoing} {stream : Stream} {peer : Endpoint}
    (hs : Steps ctx s.stage s es (.ok ()) w.session) (hw : s.Shaped)
    (hst : w.session.stage = .connecting) (hrem : w.session.remote = some (.stream out))
    (hout : out.stream = some stream) : Parts ctx s (establish ctx out stream peer) w es := by
  have hrole : stream.socket.role = .remote := ((hs.shaped rfl hw).connecting hst hrem hout).1
  refine (establish_cases.shift es).imp (fun _ _ _ _ => trivial) ?_
  rintro e w' _ ⟨es₁, rfl, h⟩
  rcases h.serves hrole with hst' | ⟨hm, hc, hfails⟩
  · exact .served (.inl hst')
  · exact .spoiled hs (.inr (.inr hst)) hm hc (.inl hfails)

theorem onAttempt_parts {r : Readiness} {out : Outgoing}
    (hs : Steps ctx s.stage s es (.ok ()) w.session) (hw : s.Shaped)
    (hst : w.session.stage = .connecting) (hrem : w.session.remote = some (.stream out)) :
    Parts ctx s (onAttempt ctx r out) w es := by
  rw [Parts, onAttempt]
  cases hout : out.stream with
  | none => exact abandonFailed_parts hs hw hst
  | some stream =>
    rw [always_bind, always_talk]
    intro es₁ x h₁
    have hs₁ := hs.snoc (.aside (Talk.peerOf_all h₁))
    rcases x with e | _ | peer
    · exact abandonFailed_parts hs₁ hw hst
    · simp only
      split
      · exact abandon_parts hs₁ hw hst
      · exact always_pure.2 trivial
    · exact establish_parts hs₁ hw hst hrem hout

/-! ## Opening an association -/

/-- The sockets of an association are opened, unless one does not serve; then the client is not spoken to. -/
theorem OpensAssociation.serves {t' : Session} {x : Except SessionError Unit}
    (h : OpensAssociation ctx t es x t') :
    t'.stage = .associated ∨
      es.All Verb.IsOffStream ∧ t'.client = t.client ∧ (es.Fails .remote ∨ es.Fails .relay) := by
  have haddress (bound : Except IoError Endpoint) :
      Transcript.All Verb.IsOffStream [⟨.localAddress ⟨.relay, 0⟩, bound⟩] := Transcript.all_singleton trivial
  cases h with
  | unopened h₁ =>
    exact .inr ⟨Talk.openDatagram_all (by nofun) h₁, rfl, .inr (Talk.openDatagram_fails h₁)⟩
  | unbound h₁ =>
    exact .inr ⟨(Talk.openDatagram_all (by nofun) h₁).append (haddress _), rfl,
      .inr (Transcript.fails_singleton rfl).right⟩
  | halfOpened h₁ h₂ =>
    exact .inr ⟨((Talk.openDatagram_all (by nofun) h₁).append (haddress _)).append
      (Talk.openDatagram_all (by nofun) h₂), rfl, .inl (Talk.openDatagram_fails h₂).right⟩
  | opened => exact .inl rfl

theorem associate_parts (hs : Steps ctx s.stage s es (.ok ()) t) (hw : s.Shaped)
    (hreq : Requested t .associate w.session) : Parts ctx s (associate ctx) w es := by
  refine (associate_cases.shift es).imp (fun _ _ _ _ => trivial) ?_
  rintro e w' _ ⟨es₁, rfl, h⟩
  rcases h.serves with hst | ⟨hall, hc, hfails⟩
  · exact .served (.inr hst)
  · exact .spoiled hs hreq.isAgreed.1 (Transcript.mute_of_offStream hall)
      (hc.trans (hreq.frame (hs.shaped rfl hw)).1) hfails

theorem fulfil_parts {intent : Intent} {candidates : List Endpoint}
    (hs : Steps ctx s.stage s es (.ok ()) t) (hw : s.Shaped) (hreq : Requested t intent w.session) :
    Parts ctx s (fulfil ctx intent candidates) w es := by
  cases intent with
  | connect => exact startConnect_parts hs hw hreq
  | associate => exact associate_parts hs hw hreq

/-! ## Looking a name up -/

theorem resolve_parts {name : DomainName} {pending : PendingRequest} {inbound : Bytes}
    (hs : Steps ctx s.stage s es (.ok ()) t) (hw : s.Shaped) (hst : t.stage = .authenticated)
    (heq : w.session = { t with inbound }) : Parts ctx s (resolve ctx name pending) w es := by
  have hl : w.session.NoLookups := by
    rw [heq]
    exact ((Session.holds_handshake (by rw [hst]; rfl)).1 (hs.shaped rfl hw).holds).1
  unfold Parts resolve
  cases ctx.nameServer with
  | none => exact farewell_parts hs hw (.inl hst) heq
  | some server =>
    simp only
    rw [always_bind, always_outcome]
    refine (startLookup_always hl).imp (fun _ _ _ _ => always_update.2 trivial) ?_
    rintro e w₁ _ ⟨heq₁, -, hne, es₁, rfl, hall⟩
    have hs₁ := hs.snoc (.queried (.inl hst) hall)
    cases e with
    | exhausted what => exact absurd rfl (hne what)
    | _ => exact farewell_parts hs₁ hw (.inl hst) (heq₁.trans heq)

theorem onLookup_parts {slot : Nat} {r : Readiness} (hw : w.session.Shaped) :
    Parts ctx w.session (onLookup ctx slot r) w [] := by
  unfold Parts onLookup
  rw [always_bind, always_session]
  split
  · next lookup hlookup =>
    have hst := hw.resolving_of_lookup hlookup
    have hasked {es₁ : Transcript} (hall : es₁.All Verb.IsOffStream) :
        Steps ctx w.session.stage w.session ([] ++ es₁) (.ok ()) w.session :=
      Steps.nil.snoc (.queried (.inr hst) hall)
    rw [always_bind, always_outcome]
    refine lookupResult_always.imp ?_ ?_
    · rintro a _ _ ⟨rfl, es₁, rfl, hall⟩
      cases a with
      | none => exact always_pure.2 trivial
      | some addresses =>
        simp only
        rw [always_bind, always_log, always_bind]
        refine closeLookups_always hw fun es₂ hall₂ => ?_
        have hs := ((hasked hall).call (e := ⟨.log .session ⟨.debug, .session,
          s!"Resolved {addresses.length} addresses"⟩, ()⟩) rfl).snoc (.lookupsClosed hst hall₂)
        unfold onResolved
        rw [always_bind, always_session]
        split
        · exact always_pure.2 trivial
        · next request hpending =>
          rw [always_bind, always_update]
          exact fulfil_parts hs hw (.resolved hst hpending rfl)
    · rintro e w₁ _ ⟨rfl, -, es₁, rfl, hall⟩
      simp only
      rw [always_bind]
      refine closeLookups_always hw fun es₂ hall₂ => ?_
      have hs := (hasked hall).snoc (.lookupsClosed hst hall₂)
      exact farewell_parts hs hw (.inr (.inl hst)) rfl
  · exact always_pure.2 trivial

/-! ## Requests -/

theorem onRequest_parts (hn : Handshakes ctx s (.ok ()) w es) (hw : s.Shaped)
    (hst : w.session.stage = .authenticated) : Parts ctx s (onRequest ctx) w es := by
  unfold Parts onRequest
  rw [always_bind, always_session]
  split
  · next fault hd =>
    cases fault with
    | addressTypeNotSupported t => exact farewell_parts hn.steps hw (.inl hst) rfl
    | _ => exact always_refuse.2 (.unheard (.idle hn))
  · next request n hd =>
    rw [always_bind]
    unfold consume
    rw [always_update, always_bind, always_log]
    have hs (text : String) := hn.steps.call (e := ⟨.log .session ⟨.info, .session, text⟩, ()⟩) rfl
    cases hc : request.command with
    | connect | associate =>
      cases request.address.host with
      | domain name => exact resolve_parts (hs _) hw hst rfl
      | ipv4 | ipv6 => exact fulfil_parts (hs _) hw (.literal hst hd hc)
    | bind | other => exact farewell_parts (hs _) hw (.inl hst) rfl

/-! ## Events -/

theorem onEvent_parts_handshake {role : Role} {r : Readiness} (hw : w.session.Shaped)
    (hst : w.session.stage.isHandshake = true) (hin : w.session.inbound = []) :
    Parts ctx w.session (onEvent ctx role r) w [] := by
  refine onEvent_handshake hw hst hin (fun _ _ _ _ => trivial)
    (fun e w₁ es₁ _ hu => .unheard hu) fun w₁ es₁ h₁ hst₁ => ?_
  have hs₁ := h₁.shaped hw
  refine Always.imp (((onRequest_obeys hs₁ hst₁).shift es₁).and
    ((onRequest_walks h₁.steps hs₁ hst₁).and (onRequest_parts h₁ hw hst₁))) ?_ ?_
  · rintro _ w₂ _ ⟨⟨es₂, rfl, h₂⟩, hsteps, -⟩
    have hc : w₂.session.client.stream.socket.role = .client := by rw [(hsteps.shaped rfl hw).client]
    exact ⟨h₂.isHandshake, trivial, (resumeClient_perseveres hc).parts⟩
  · rintro e w₂ _ ⟨⟨es₂, rfl, hcut, -⟩, -, hp⟩
    refine ⟨fun needed available he => ?_, fun _ => hp⟩
    obtain ⟨rfl, rfl⟩ := hcut needed available he
    exact ⟨rfl, List.append_nil es₁⟩

theorem onEvent_parts {role : Role} {r : Readiness} (hw : w.session.Shaped)
    (hr : w.session.Represented) (hhere : role = .client → r.error ≠ true ∧ r.hangup ≠ true) :
    Parts ctx w.session (onEvent ctx role r) w [] := by
  have hc : w.session.client.stream.socket.role = .client := by rw [hw.client]
  -- A tunnel stays a tunnel, and an association an association.
  have hserved (hnext : w.session.stage.next = [])
      (hst : w.session.stage = .connected ∨ w.session.stage = .associated) :
      Parts ctx w.session (onEvent ctx role r) w [] :=
    (onEvent_walks hw).imp (fun _ _ _ _ => trivial) fun _ _ _ h =>
      .served (by rw [h.leads.last hnext]; exact hst)
  cases hst : w.session.stage with
  | accepted | authRequested | authenticated =>
    have hhandshake : w.session.stage.isHandshake = true := by rw [hst]; rfl
    exact onEvent_parts_handshake hw hhandshake
      ((Session.represented_handshake hhandshake).1 hr).2.2.2.2
  | resolving =>
    obtain ⟨hremote, hrelay, -⟩ := hr.resolving hst
    cases role with
    | client => exact (onClient_perseveres hc (.inl hst) (hhere rfl).1 (hhere rfl).2).parts
    | remote =>
      unfold Parts onEvent onRemote
      rw [always_bind, always_session, hremote]
      exact always_pure.2 trivial
    | relay =>
      unfold Parts onEvent onRelay
      rw [always_bind, always_session, hrelay]
      exact always_pure.2 trivial
    | query slot => exact onLookup_parts hw
  | connecting =>
    obtain ⟨-, -, hrelay, -⟩ := (Session.holds_connecting hst).1 hw.holds
    obtain ⟨-, -, -, out, stream, target, hremote, -⟩ := hr.connecting hst
    cases role with
    | client => exact (onClient_perseveres hc (.inr (.inl hst)) (hhere rfl).1 (hhere rfl).2).parts
    | remote =>
      unfold Parts onEvent onRemote
      rw [always_bind, always_session, hremote]
      simp only [hst, if_true]
      exact onAttempt_parts .nil hw hst hremote
    | relay =>
      unfold Parts onEvent onRelay
      rw [always_bind, always_session, hrelay]
      exact always_pure.2 trivial
    | query slot => exact onLookup_parts hw
  | connected => exact hserved (by rw [hst]; rfl) (.inl hst)
  | associated => exact hserved (by rw [hst]; rfl) (.inr hst)

end Handler

/-! ## Answers -/

/-- The request of the client was taken off what was read: the handshake is over, or there is left what
    the client sent behind the request, of the bytes `heard`. -/
def Session.Demanded (settings : Settings) (heard : Bytes) (s : Session) : Prop :=
  s.stage.isHandshake = true → s.stage = .authenticated ∧ behindRequest settings heard = some s.inbound

instance {settings : Settings} {heard : Bytes} {s : Session} :
    Decidable (s.Demanded settings heard) :=
  inferInstanceAs (Decidable (_ → _ ∧ _))

/-- Behind the negotiation the client was offered one reply, and behind that what was read from the
    remote side, no more. -/
def Session.Answered (settings : Settings) (es : Transcript) (s : Session) : Prop :=
  ∃ reply : Reply, s.offered es =
    Conversation.negotiation settings.authMethod ++ reply.encode ++ Transcript.read .remote es

section
variable {ctx : Context} {settings : Settings} {h : History} {s s' t : Session} {role : Role}
  {r : Readiness} {ids ids' : Dns.QueryIds} {es es' : Transcript}

/-- What is left when a request was taken off is not what there was before. -/
theorem Upstream.not_behindRequest {heard relayed taken : Bytes}
    (hu : Upstream settings s heard relayed taken) (hst : s.stage = .authenticated) :
    behindRequest settings heard ≠ some s.inbound := by
  unfold Upstream at hu
  rw [hst] at hu
  rw [behindRequest, hu.1, Option.bind_some]
  intro hb
  cases hd : Request.decode s.inbound with
  | error e => rw [behind, hd] at hb; cases hb
  | ok found =>
    obtain ⟨request, n⟩ := found
    rw [behind_of_ok hd] at hb
    have hlt := length_drop_lt (Request.decode_pos hd) (Request.decode_front hd).1
    rw [Option.some.inj hb] at hlt
    exact Nat.lt_irrefl _ hlt

theorem DownstreamEnd.answered (hd : DownstreamEnd settings s es)
    (hst : s.stage = .connected ∨ s.stage = .associated) : s.Answered settings es := by
  obtain ⟨c, hc, hdata, ho, -⟩ := hd
  rcases hst with hst | hst <;> rw [hst] at hc
  · obtain ⟨bound, data, rfl⟩ := hc
    exact ⟨⟨.success, bound⟩, by rw [ho, ← hdata]; rfl⟩
  · obtain ⟨bound, rfl⟩ := hc
    refine ⟨⟨.success, bound⟩, ?_⟩
    rw [ho, ← hdata]
    exact (List.append_nil _).symm

/-- Nothing is read from a remote side that no tunnel leads to. -/
theorem DownstreamEnd.read_remote (hd : DownstreamEnd settings s es) (hst : s.stage.IsAgreed) :
    Transcript.read .remote es = [] := by
  obtain ⟨c, hc, hdata, -⟩ := hd
  have hclosed : c = .agreed settings.authMethod ∨
      ∃ reply, reply.code ≠ .success ∧ c = .replied settings.authMethod reply := by
    rcases hst with hst | hst | hst <;> rw [hst] at hc <;> exact hc
  rcases hclosed with rfl | ⟨reply, -, rfl⟩
  · exact hdata.symm.trans Conversation.data_agreed
  · exact hdata.symm

theorem Session.not_answered
    (ho : s.offered es = Conversation.negotiation settings.authMethod) : ¬ s.Answered settings es := by
  rintro ⟨reply, ha⟩
  rw [ho, List.append_assoc] at ha
  nomatch (List.append_eq_nil_iff.1 (List.self_eq_append_right.1 ha)).1

/-- **A request is answered by one reply.** When a turn has ended a session whose client has made a
    request, one reply was offered behind the negotiation, or

    * the event has said that the client is gone, or its stream has failed or is at its end;
    * a socket of the association does not serve, or the stream of the attempt that has succeeded does
      not, before the tunnel is announced: then nothing was offered behind the negotiation. -/
theorem commands_answered (hl : Life ctx h s)
    (hrun : Run (Session.handle ctx role r ⟨s, ids⟩) es (false, ⟨s', ids'⟩))
    (hclose : Run s'.close es' ()) {h' : History}
    (hh : h' = h ++ [.event role r] ++ History.turn s.stage (es ++ es'))
    (hd : s'.Demanded ctx.settings h'.heard) :
    s'.Answered ctx.settings h'.calls ∨ (role = .client ∧ (r.error = true ∨ r.hangup = true)) ∨
      es.Fails .client ∨ ((es.Fails .remote ∨ es.Fails .relay) ∧
        s'.offered h'.calls = Conversation.negotiation ctx.settings.authMethod) := by
  by_cases hhere : role = .client ∧ (r.error = true ∨ r.hangup = true)
  · exact .inr (.inl hhere)
  obtain ⟨es₁, es₂, e, rfl, hevent, hlog⟩ := handle_fails hrun
  have hpart : Parting ctx s s' es₁ :=
    Handler.onEvent_parts (w := ⟨s, ids⟩) hl.shaped hl.represented
      (fun hrole => ⟨fun he => hhere ⟨hrole, .inl he⟩, fun hh => hhere ⟨hrole, .inr hh⟩⟩)
      es₁ (.error e) _ hevent
  have hrest : Transcript.All Verb.IsUpkeep (es₂ ++ es') :=
    ((logEnd_all hlog).imp fun _ hv => .inl hv).append (close_upkeep hclose)
  have hcalls : h'.calls = h.calls ++ es₁ ++ (es₂ ++ es') := by
    rw [hh, History.calls_append, History.calls_event, History.calls_turn, List.append_assoc,
      List.append_assoc]
  have hend : DownstreamEnd ctx.settings s' h'.calls := by
    rw [hh]
    exact (downstream_invariant.ended (.failed hl hrun hclose)).1
  have hoffered : s'.offered h'.calls = s'.offered (h.calls ++ es₁) := by
    rw [hcalls, Session.offered_mute (Transcript.mute_of_upkeep hrest)]
  have hlive {es₃ : Transcript} {t : Session} (hs : Steps ctx s.stage s es₃ (.ok ()) t) :
      Downstream ctx.settings t (h.calls ++ es₃) :=
    (hs.downstream hl.shaped (downstream_invariant.life hl).1).1
  cases hpart with
  | served hst => exact .inl (hend.answered hst)
  | gone hf => exact .inr (.inr (.inl hf.left))
  | @refused es₃ es₄ t _ reply e hs hst hst' hspoken =>
    refine .inl ⟨reply, ?_⟩
    rw [hend.read_remote hst', hoffered, ← List.append_assoc, hspoken.offered (hlive hs),
      (hlive hs).agreed hst, List.append_nil]
  | @spoiled es₃ es₄ t _ hs hst hm hc hf =>
    refine .inr (.inr (.inr ⟨hf.imp (fun hf => hf.right.left) fun hf => hf.right.left, ?_⟩))
    rw [hoffered, ← List.append_assoc, Session.offered_mute hm, Session.offered_client hc,
      (hlive hs).agreed hst]
  | @unheard _ w hu =>
    cases hu with
    | gone hf => exact .inr (.inr (.inl hf.left))
    | negotiating hst =>
      have hauth := (hd hst.isHandshake).1
      rcases hst with hst | hst <;> exact absurd (hst.symm.trans hauth) nofun
    | idle hn =>
      obtain ⟨hst, hb⟩ := hd hn.isHandshake
      obtain ⟨hu, -⟩ : Upstream ctx.settings w.session
          (History.heard (h ++ [.event role r] ++ History.turn s.stage es₁)) _ _ ∧ _ :=
        upstream_invariant.steps hl.shaped (upstream_invariant.event (upstream_invariant.life hl))
          hn.steps
      have hdeaf : Transcript.Deaf .client (es₂ ++ es') := Transcript.deaf_of_upkeep hrest
      rw [hh, List.append_assoc es₁, History.turn_append, ← List.append_assoc, History.heard_turn,
        heardIn_nil hdeaf.read, List.append_nil] at hb
      exact absurd hb (hu.not_behindRequest hst)

end

/-- What `commands_answered` says of a client whose only candidate refuses the connection. -/
theorem refused_client_is_answered :
    ∃ h s ids ids' es es' s', Life ⟨{}, none, 9⟩ h s ∧
      Run (Session.handle ⟨{}, none, 9⟩ .remote { writable := true } ⟨s, ids⟩) es (false, ⟨s', ids'⟩) ∧
      Run s'.close es' () ∧ ∃ h' : History,
        h' = h ++ [.event .remote { writable := true }] ++ History.turn s.stage (es ++ es') ∧
        s'.Demanded {} h'.heard ∧ s'.offered h'.calls = [5, 0, 5, 5, 0, 1, 192, 0, 2, 7, 0, 80] ∧
        s'.Answered {} h'.calls := by
  obtain ⟨h, s, ids, ids', es, es', s', hl, hrun, hclose, hx⟩ :=
    exists_failed_of_rehearseEnd ⟨{}, none, 9⟩ refusedClient (handshake 2) .remote
      { writable := true } (fun h s => s.Demanded {} h.heard ∧ ¬ h.calls.Fails .client ∧
        s.offered h.calls = [5, 0, 5, 5, 0, 1, 192, 0, 2, 7, 0, 80]) (by decide +kernel)
  obtain ⟨hd, hserves, ho⟩ := of_decide_eq_true hx
  refine ⟨h, s, ids, ids', es, es', s', hl, hrun, hclose, _, rfl, hd, ho, ?_⟩
  rcases commands_answered hl hrun hclose rfl hd with ha | ⟨hrole, -⟩ | hf | ⟨-, hn⟩
  · exact ha
  · nomatch hrole
  · rw [History.calls_append, History.calls_turn] at hserves
    exact absurd hf.left.right hserves
  · nomatch ho.symm.trans hn

/-- A client that asks for an association, for which no socket can be bound. -/
def unboundClient : SocketScript :=
  { SocketScript.between [[5, 1, 0], [5, 3, 0, 1, 0, 0, 0, 0, 0, 0]] [] with
    instead
      | .bindDatagram _ _ => some (.error (.system .mfile))
      | _ => none }

/-- An association whose socket cannot be bound ends in silence: the request of the client was taken off
    what was read, its stream serves, and yet it is offered nothing behind the negotiation. -/
theorem association_ends_in_silence :
    ∃ h s ids ids' es es' s', Life ⟨{}, none, 9⟩ h s ∧
      Run (Session.handle ⟨{}, none, 9⟩ .client { readable := true } ⟨s, ids⟩) es (false, ⟨s', ids'⟩) ∧
      Run s'.close es' () ∧ ∃ h' : History,
        h' = h ++ [.event .client { readable := true }] ++ History.turn s.stage (es ++ es') ∧
        s'.Demanded {} h'.heard ∧ ¬ h'.calls.Fails .client ∧ s'.offered h'.calls = [5, 0] ∧
        ¬ s'.Answered {} h'.calls := by
  obtain ⟨h, s, ids, ids', es, es', s', hl, hrun, hclose, hx⟩ :=
    exists_failed_of_rehearseEnd ⟨{}, none, 9⟩ unboundClient [] .client
      { readable := true } (fun h s => s.Demanded {} h.heard ∧ ¬ h.calls.Fails .client ∧
        s.offered h.calls = [5, 0]) (by decide +kernel)
  obtain ⟨hd, hserves, ho⟩ := of_decide_eq_true hx
  exact ⟨h, s, ids, ids', es, es', s', hl, hrun, hclose, _, rfl, hd, hserves, ho,
    Session.not_answered ho⟩

end SocksProxy
