/-
  The handlers behind a request are made of steps: those that say something to the client, those that
  connect, and those that open an association.
-/
import SocksProxy.Proofs.Shape
import SocksProxy.Session.Resolve

namespace SocksProxy

open Dialogue Handler

variable {ctx : Context} {origin : Stage} {s t : Session} {w : Work} {es : Transcript}

namespace Handler

/-! ## Talking to the client -/

section
variable {Q : Unit → Work → Transcript → Prop} {E : SessionError → Work → Transcript → Prop}
  {data : Bytes}

theorem always_sendClient
    (h : ∀ es' r stream, w.session.client.stream.Delivers ctx.turns data es' r stream →
      match r with
      | .ok _ => Q () { w with session := w.session.withClientStream stream } (es ++ es')
      | .error e =>
        E (.transport e) { w with session := w.session.withClientStream stream } (es ++ es')) :
    (sendClient ctx data).Always w es Q E := by
  rw [sendClient, always_bind, always_onClientStream]
  intro es₁ r stream h₁
  cases r with
  | error e => exact h _ _ _ (.refused h₁)
  | ok f =>
    rw [always_onClientStream]
    intro es₂ r stream' h₂
    rw [List.append_assoc]
    cases r <;> exact h _ _ _ (.settled h₁ h₂)

theorem always_sendLast
    (h : ∀ es₁ es₂ r stream, Run (w.session.client.stream.send ctx.turns data) es₁ (r, stream) →
      es₂.All (· = .aside) →
      Q () { w with session := w.session.withClientStream stream } (es ++ (es₁ ++ es₂))) :
    (sendLast ctx data).Always w es Q E := by
  simp only [sendLast, always_bind, always_session, always_talk, always_update]
  rintro es₁ ⟨r, stream⟩ h₁
  cases r with
  | ok f =>
    rw [always_pure, ← List.append_nil es₁]
    exact h es₁ [] _ _ h₁ Transcript.all_nil
  | error e =>
    rw [always_talk]
    intro es₂ u h₂
    rw [List.append_assoc]
    exact h es₁ es₂ _ _ h₁ (run_log_iff.1 h₂ ▸ Transcript.all_singleton rfl)

end

/-- What is said last. The session before it is known except for what was read of the handshake. -/
theorem farewell_walks {α : Type} {data : Bytes} {e : SessionError} (he : e.IsFinal)
    (hf : Farewell ctx.settings t data)
    (hs : Steps ctx origin s es (.ok ()) t)
    (hw : w.session = { t with inbound := w.session.inbound }) :
    (do sendLast ctx data; fail e : Handler α).Walks ctx origin s w es := by
  rw [Walks, always_bind]
  refine always_sendLast fun es₁ es₂ r stream h₁ hall => ?_
  rw [always_fail]
  have hrun : Run (t.client.stream.send ctx.turns data) es₁ (r, stream) := by
    rw [hw] at h₁
    exact h₁
  rw [hw]
  exact hs.snoc (.farewell he hf Transcript.all_nil hrun hall)

/-! ## Connecting -/

theorem failureReply_code (a : Attempts) : a.failureReply.code ≠ .success := by
  unfold Attempts.failureReply
  cases a.lastError with
  | none => simp
  | some e =>
    simp only [Option.map_some, Option.getD_some, ReplyCode.ofConnectError, ReplyCode.ofIoError]
    split
    · simp
    · split <;> simp

theorem tryEach_walks {early : Bytes} {candidates : List Endpoint} {attempts : Attempts}
    (hst : w.session.stage = .connecting)
    (hs : Steps ctx origin s es (.ok ()) (w.session.withOutgoing ⟨attempts, none, early⟩)) :
    (tryEach ctx early candidates attempts).Walks ctx origin s w es := by
  induction candidates generalizing attempts es with
  | nil =>
    rw [Walks, tryEach, always_bind, always_update]
    exact farewell_walks (t := w.session.withOutgoing _) nofun
      (.reply (.inr (.inr hst)) (failureReply_code attempts)) hs rfl
  | cons target rest ih =>
    rw [Walks, tryEach, always_bind, always_log, always_bind, always_talk]
    intro es₁ r hrun
    have hs := hs.call (e := ⟨.log .session ⟨.debug, .session, s!"Connecting to {target.text}"⟩, ()⟩)
      rfl
    cases r with
    | ok stream =>
      rw [always_update]
      exact hs.snoc (.attemptStarted hst rfl hrun)
    | error e =>
      rw [always_bind, always_log]
      exact ih ((hs.snoc (.attemptFailed hst rfl hrun)).call rfl)

/-- Starts to connect, in the session that a request led to. -/
theorem startConnect_walks {candidates : List Endpoint} (hs : Steps ctx origin s es (.ok ()) t)
    (hreq : Requested t .connect w.session) :
    (startConnect ctx candidates).Walks ctx origin s w es := by
  rw [Walks, startConnect, always_bind, always_session, always_bind, always_update, tryNext]
  refine tryEach_walks rfl ?_
  rw [← List.append_nil es]
  exact hs.snoc (.connectStarted hreq)

theorem abandon_walks {out : Outgoing} {why : IoError} (hs : Steps ctx origin s es (.ok ()) w.session)
    (hst : w.session.stage = .connecting) (hrem : w.session.remote = some (.stream out)) :
    (abandon ctx out why).Walks ctx origin s w es := by
  rw [Walks, abandon]
  cases hout : out.stream with
  | none =>
    refine tryEach_walks hst ?_
    rw [← List.append_nil es]
    exact hs.snoc (.abandoned hst hrem (fun stream h => absurd h (by rw [hout]; nofun)) fun _ => rfl)
  | some stream =>
    rw [always_bind, always_talk]
    rintro es' ⟨⟩ hrun
    refine tryEach_walks hst ?_
    refine hs.snoc (.abandoned hst hrem (fun stream' h => ?_) fun h => absurd h (by rw [hout]; nofun))
    rw [hout] at h
    cases h
    exact hrun

theorem abandonFailed_walks {out : Outgoing} {why : IoError}
    (hs : Steps ctx origin s es (.ok ()) w.session) (hst : w.session.stage = .connecting)
    (hrem : w.session.remote = some (.stream out)) :
    (abandonFailed ctx out why).Walks ctx origin s w es := by
  rw [Walks, abandonFailed, always_bind, always_log]
  exact abandon_walks (hs.call rfl) hst hrem

/-- What comes of the stream of an attempt that has succeeded. It has no address, or it does not take the
    early bytes; or the tunnel is up, and the client takes the answer or does not. -/
inductive Establishes (ctx : Context) (s : Session) (out : Outgoing) (stream : Stream) (peer : Endpoint) :
    Transcript → Except SessionError Unit → Session → Prop where
  | unbound {e : IoError} :
      Establishes ctx s out stream peer [⟨.localAddress stream.socket, (.error e : Except IoError Endpoint)⟩]
        (.error (.transport e))
        (s.withOutgoing ⟨out.attempts.connected peer, some (stream.queue out.early), []⟩)
  | unstarted {bound : Endpoint} {es : Transcript} {e : IoError} {stream' : Stream} :
      (stream.queue out.early).Starts ctx.turns es (.error e) stream' →
      Establishes ctx s out stream peer
        ([⟨.localAddress stream.socket, (.ok bound : Except IoError Endpoint)⟩] ++ es)
        (.error (.transport e)) (s.withOutgoing ⟨out.attempts.connected peer, some stream', []⟩)
  | established {bound : Endpoint} {es₁ es₂ : Transcript} {r : Except IoError Unit}
      {stream' client : Stream} :
      (stream.queue out.early).Starts ctx.turns es₁ (.ok ()) stream' →
      s.client.stream.Announces ctx.turns (Reply.encode ⟨.success, Address.ofEndpoint bound⟩) es₂ r
        client →
      Establishes ctx s out stream peer
        ([⟨.localAddress stream.socket, (.ok bound : Except IoError Endpoint)⟩] ++ es₁ ++
          [⟨.log .session ⟨.info, .session, s!"SOCKS5 tunnel established to {peer.text}"⟩, ()⟩,
            ⟨.notify (.remoteConnected peer), ()⟩] ++ es₂) (verdict r)
        { (s.withClientStream client).withOutgoing
            ⟨out.attempts.connected peer, some stream', []⟩ with
          stage := .connected }

section
variable {out : Outgoing} {stream : Stream} {peer : Endpoint}

theorem Establishes.of_eq {es' : Transcript} {r : Except SessionError Unit} {s' : Session}
    (h : Establishes ctx s out stream peer es r s') (he : es' = es) :
    Establishes ctx s out stream peer es' r s' :=
  he ▸ h

/-- A stream is put into service in one of these ways. -/
theorem establish_cases :
    (establish ctx out stream peer).Always w []
      (fun _ w' es' => Establishes ctx w.session out stream peer es' (.ok ()) w'.session)
      (fun e w' es' => Establishes ctx w.session out stream peer es' (.error e) w'.session) := by
  rw [establish, always_bind, always_update, always_bind, always_ask]
  intro (bound : Except IoError Endpoint)
  rw [always_bind, always_check]
  cases bound with
  | error e => exact .unbound
  | ok bound =>
    simp only
    rw [always_bind, always_onRemoteStream (stream.queue out.early) rfl]
    intro es₁ r₁ stream₁ h₁
    cases r₁ with
    | error e => exact .unstarted (.refused h₁)
    | ok f =>
      simp only
      rw [always_bind, always_onRemoteStream stream₁ rfl]
      intro es₂ r₂ stream₂ h₂
      rw [List.append_assoc]
      cases r₂ with
      | error e => exact .unstarted (.resumed h₁ h₂)
      | ok _ =>
        simp only
        rw [always_bind, always_log, always_bind, always_ask]
        rintro ⟨⟩
        rw [always_bind, always_update, always_bind]
        have hup {es' : Transcript} {r : Except IoError Unit} {client : Stream}
            (h : w.session.client.stream.Announces ctx.turns
              (Reply.encode ⟨.success, Address.ofEndpoint bound⟩) es' r client) :
            Establishes ctx w.session out stream peer _ (verdict r) _ :=
          .established (.resumed h₁ h₂) h
        refine always_sendClient fun es₃ r₃ client₃ h₃ => ?_
        cases r₃ with
        | error e => exact (hup (.refused h₃)).of_eq (by simp)
        | ok _ =>
          simp only
          rw [always_onClientStream]
          intro es₄ r₄ client₄ h₄
          cases r₄ <;> exact (hup (.resumed h₃ h₄)).of_eq (by simp)

/-- Behind calls by which the attempt was found to have succeeded, each of them is one step. -/
theorem Establishes.step {es₁ : Transcript} {r : Except SessionError Unit} {s' : Session}
    (h : Establishes ctx t out stream peer es r s') (hst : t.stage = .connecting)
    (hrem : t.remote = some (.stream out)) (hout : out.stream = some stream)
    (hpeer : Run (Talk.peerOf stream) es₁ (.ok (some peer))) :
    Step ctx origin t (es₁ ++ es) r s' := by
  cases h with
  | unbound => exact .unbound hst hrem hout hpeer (Transcript.all_singleton rfl)
  | unstarted h =>
    rw [← List.append_assoc]
    exact .unstarted hst hrem hout hpeer (Transcript.all_singleton rfl) h
  | established h₁ h₂ =>
    rw [← List.append_assoc, ← List.append_assoc, ← List.append_assoc]
    exact .established hst hrem hout hpeer (Transcript.all_singleton rfl) h₁
      (Transcript.All.cons rfl (Transcript.all_singleton rfl)) h₂

/-- Puts a stream into service whose attempt was found to have succeeded by the calls `es₁`. -/
theorem establish_walks {es₁ : Transcript} (hs : Steps ctx origin s es (.ok ()) w.session)
    (hst : w.session.stage = .connecting) (hrem : w.session.remote = some (.stream out))
    (hout : out.stream = some stream) (hpeer : Run (Talk.peerOf stream) es₁ (.ok (some peer))) :
    (establish ctx out stream peer).Walks ctx origin s w (es ++ es₁) := by
  refine (establish_cases.shift (es ++ es₁)).imp ?_ ?_
  · rintro _ w' _ ⟨es₂, rfl, h⟩
    exact (hs.snoc (h.step hst hrem hout hpeer)).of_eq (List.append_assoc ..)
  · rintro e w' _ ⟨es₂, rfl, h⟩
    exact (hs.snoc (h.step hst hrem hout hpeer)).of_eq (List.append_assoc ..)

end

theorem onAttempt_walks {r : Readiness} {out : Outgoing}
    (hs : Steps ctx origin s es (.ok ()) w.session) (hst : w.session.stage = .connecting)
    (hrem : w.session.remote = some (.stream out)) :
    (onAttempt ctx r out).Walks ctx origin s w es := by
  rw [Walks, onAttempt]
  cases hout : out.stream with
  | none => exact abandonFailed_walks hs hst hrem
  | some stream =>
    rw [always_bind, always_talk]
    intro es₁ x hrun
    have hs' := hs.snoc (.aside (Talk.peerOf_all hrun))
    rcases x with e | _ | peer
    · exact abandonFailed_walks hs' hst hrem
    · simp only
      split
      · exact abandon_walks hs' hst hrem
      · rw [always_pure]
        exact hs'
    · exact establish_walks hs hst hrem hout hrun

/-! ## Opening an association -/

/-- What comes of opening an association. The socket that is to face the client cannot be opened or has no
    address, or the other one cannot be opened; or both stand, and the client takes the answer or does
    not. -/
inductive OpensAssociation (ctx : Context) (s : Session) :
    Transcript → Except SessionError Unit → Session → Prop where
  | unopened {addr : Endpoint} {es : Transcript} {e : IoError} :
      Run (Talk.openDatagram ⟨.relay, 0⟩ addr) es (.error e) →
      OpensAssociation ctx s es (.error (.transport e)) s
  | unbound {addr : Endpoint} {es : Transcript} {e : IoError} :
      Run (Talk.openDatagram ⟨.relay, 0⟩ addr) es (.ok ()) →
      OpensAssociation ctx s (es ++ [⟨.localAddress ⟨.relay, 0⟩, (.error e : Except IoError Endpoint)⟩])
        (.error (.transport e)) s
  | halfOpened {addr addr' bound : Endpoint} {es₁ es₂ : Transcript} {e : IoError} :
      Run (Talk.openDatagram ⟨.relay, 0⟩ addr) es₁ (.ok ()) →
      Run (Talk.openDatagram ⟨.remote, 0⟩ addr') es₂ (.error e) →
      OpensAssociation ctx s
        (es₁ ++ [⟨.localAddress ⟨.relay, 0⟩, (.ok bound : Except IoError Endpoint)⟩] ++ es₂)
        (.error (.transport e)) { s with relay := some ⟨⟨.relay, 0⟩, PortMap.new s.client.peer.ip⟩ }
  | opened {addr addr' bound : Endpoint} {es₁ es₂ es₃ : Transcript} {r : Except IoError Unit}
      {client : Stream} :
      Run (Talk.openDatagram ⟨.relay, 0⟩ addr) es₁ (.ok ()) →
      Run (Talk.openDatagram ⟨.remote, 0⟩ addr') es₂ (.ok ()) →
      s.client.stream.Delivers ctx.turns (Reply.encode ⟨.success, Address.ofEndpoint bound⟩) es₃ r
        client →
      OpensAssociation ctx s
        (es₁ ++ [⟨.localAddress ⟨.relay, 0⟩, (.ok bound : Except IoError Endpoint)⟩] ++ es₂ ++
          [⟨.log .session ⟨.info, .session, s!"UDP relay bound on {bound.text}"⟩, ()⟩] ++ es₃) (verdict r)
        { s.withClientStream client with
          relay := some ⟨⟨.relay, 0⟩, PortMap.new s.client.peer.ip⟩
          remote := some (.datagram ⟨.remote, 0⟩)
          inbound := []
          stage := .associated }

/-- An association is opened in one of these ways. -/
theorem associate_cases :
    (associate ctx).Always w []
      (fun _ w' es' => OpensAssociation ctx w.session es' (.ok ()) w'.session)
      (fun e w' es' => OpensAssociation ctx w.session es' (.error e) w'.session) := by
  rw [associate, always_bind, always_session]
  simp only
  rw [always_bind, always_attempt]
  intro es₁ r₁ h₁
  cases r₁ with
  | error e => exact .unopened h₁
  | ok _ =>
    simp only
    rw [always_bind, always_ask]
    intro (bound : Except IoError Endpoint)
    rw [always_bind, always_check]
    cases bound with
    | error e => exact .unbound h₁
    | ok bound =>
      simp only
      rw [always_bind, always_update, always_bind, always_attempt]
      intro es₂ r₂ h₂
      cases r₂ with
      | error e => exact .halfOpened h₁ h₂
      | ok _ =>
        simp only
        rw [always_bind, always_update, always_bind, always_log]
        have hopened {es' : Transcript} {r : Except IoError Unit} {client : Stream}
            (h : w.session.client.stream.Delivers ctx.turns
              (Reply.encode ⟨.success, Address.ofEndpoint bound⟩) es' r client) :
            OpensAssociation ctx w.session _ (verdict r) _ :=
          .opened h₁ h₂ h
        refine always_sendClient fun es₃ r₃ client h₃ => ?_
        cases r₃ <;> exact hopened h₃

/-- Behind a request for it, each of them is one step. -/
theorem OpensAssociation.step {t' : Session} {r : Except SessionError Unit}
    (h : OpensAssociation ctx t' es r s) (hreq : Requested t .associate t') :
    Step ctx origin t es r s := by
  have hopened {role : Role} {addr : Endpoint} {es : Transcript} {r : Except IoError Unit}
      (hr : role ≠ .client) (h : Run (Talk.openDatagram ⟨role, 0⟩ addr) es r) : es.All Verb.IsOffStream :=
    Talk.openDatagram_all hr h
  have haddress (bound : Except IoError Endpoint) :
      Transcript.All Verb.IsOffStream [⟨.localAddress ⟨.relay, 0⟩, bound⟩] := Transcript.all_singleton trivial
  cases h with
  | unopened h₁ => exact .unassociated hreq (hopened (by nofun) h₁)
  | unbound h₁ => exact .unassociated hreq ((hopened (by nofun) h₁).append (haddress _))
  | halfOpened h₁ h₂ =>
    exact .unassociated hreq (((hopened (by nofun) h₁).append (haddress _)).append (hopened (by nofun) h₂))
  | @opened _ _ bound _ _ _ _ _ h₁ h₂ h₃ =>
    have hall := ((hopened (by nofun) h₁).append (haddress (.ok bound))).append (hopened (by nofun) h₂)
    exact .associated hreq (hall.append (Transcript.all_singleton trivial)) h₃

theorem associate_walks (hs : Steps ctx origin s es (.ok ()) t)
    (hreq : Requested t .associate w.session) : (associate ctx).Walks ctx origin s w es := by
  refine (associate_cases.shift es).imp ?_ ?_
  · rintro _ w' _ ⟨es₁, rfl, h⟩
    exact hs.snoc (h.step hreq)
  · rintro e w' _ ⟨es₁, rfl, h⟩
    exact hs.snoc (h.step hreq)

theorem fulfil_walks {intent : Intent} {candidates : List Endpoint}
    (hs : Steps ctx origin s es (.ok ()) t) (hreq : Requested t intent w.session) :
    (fulfil ctx intent candidates).Walks ctx origin s w es := by
  cases intent with
  | connect => exact startConnect_walks hs hreq
  | associate => exact associate_walks hs hreq

end Handler

end SocksProxy
