/-
  What an event leads to.

  A step is one thing that a handler does. A turn is all that comes of an event: which candidates were
  tried, what a name server was asked, whom the session listened to.

  * `Session.Represented` is what a session looks like between two turns;
  * `Obeys` lists what a request leads to, `Turn` what an event leads to in each stage;
  * `onEvent_turn`, `turn_goes` and `turn_ends` say that there is nothing else.
-/
import SocksProxy.Proofs.Bursts
import SocksProxy.Proofs.Pursuits

namespace SocksProxy

open Dialogue

/-! ## Between turns -/

/-- What a session has in each stage, when no handler is at work. -/
def Session.Represented (s : Session) : Prop :=
  match s.stage with
  | .accepted | .authRequested | .authenticated =>
    s.remote = none ∧ s.relay = none ∧ s.NoLookups ∧ s.pending = none ∧ s.inbound = []
  | .resolving => s.remote = none ∧ s.relay = none ∧ s.pending.isSome = true ∧
    ∃ (slot : Fin Role.maxQueries) (lookup : Lookup),
      s.lookups = (Vector.replicate _ none).set slot.val (some lookup) slot.isLt
  | .connecting => s.inbound = [] ∧ s.pending = none ∧ s.NoLookups ∧
    ∃ out stream target, s.remote = some (.stream out) ∧ out.stream = some stream ∧
      out.attempts.current = some target ∧ out.attempts.peer = none
  | .connected => ∃ out stream peer, s.remote = some (.stream out) ∧ out.stream = some stream ∧
    out.attempts.peer = some peer ∧ out.early = []
  | .associated => s.Associates ∧ s.inbound = []

namespace Session

variable {s : Session}

theorem Represented.connecting (h : s.Represented) (hst : s.stage = .connecting) :
    s.inbound = [] ∧ s.pending = none ∧ s.NoLookups ∧
      ∃ out stream target, s.remote = some (.stream out) ∧ out.stream = some stream ∧
        out.attempts.current = some target ∧ out.attempts.peer = none := by
  unfold Represented at h
  rw [hst] at h
  exact h

theorem Represented.resolving (h : s.Represented) (hst : s.stage = .resolving) :
    s.remote = none ∧ s.relay = none ∧ s.pending.isSome = true ∧
      ∃ (slot : Fin Role.maxQueries) (lookup : Lookup),
        s.lookups = (Vector.replicate _ none).set slot.val (some lookup) slot.isLt := by
  unfold Represented at h
  rw [hst] at h
  exact h

theorem Represented.connected (h : s.Represented) (hst : s.stage = .connected) :
    ∃ out stream peer, s.remote = some (.stream out) ∧ out.stream = some stream ∧
      out.attempts.peer = some peer ∧ out.early = [] := by
  unfold Represented at h
  rw [hst] at h
  exact h

theorem Represented.associated (h : s.Represented) (hst : s.stage = .associated) :
    s.Associates ∧ s.inbound = [] := by
  unfold Represented at h
  rw [hst] at h
  exact h

theorem represented_handshake (hst : s.stage.isHandshake = true) :
    s.Represented ↔ s.remote = none ∧ s.relay = none ∧ s.NoLookups ∧ s.pending = none ∧
      s.inbound = [] := by
  unfold Represented
  cases h : s.stage <;> rw [h] at hst <;> first | exact Iff.rfl | nomatch hst

end Session

/-! ## Requests -/

namespace Transcript

/-- The calls of a request that is refused: no attempt is made, and no query leaves. -/
structure Refuses (es : Transcript) : Prop where
  untried : ¬ Tried es
  sockets : es.querySockets ≤ 1
  queries : es.queries = 0

variable {es es' : Transcript} {n : Nat}

theorem Minor.refuses (h : Minor es) : Refuses es :=
  ⟨h.untried, by rw [h.asksNothing.querySockets]; exact Nat.zero_le 1, h.asksNothing.queries⟩

theorem refuses_nil : Refuses [] :=
  (OfClient.minor ofClient_nil).refuses

theorem Refuses.append (h : Refuses es) (h' : Minor es') : Refuses (es ++ es') where
  untried ht := (tried_append.1 ht).elim h.untried h'.untried
  sockets := by
    rw [querySockets_append, h'.asksNothing.querySockets]
    exact h.sockets
  queries := by
    rw [queries_append, h'.asksNothing.queries, h.queries]

theorem Refuses.behind (h : Refuses es') (h' : Minor es) : Refuses (es ++ es') where
  untried ht := (tried_append.1 ht).elim h'.untried h.untried
  sockets := by
    rw [querySockets_append, h'.asksNothing.querySockets, Nat.zero_add]
    exact h.sockets
  queries := by
    rw [queries_append, h'.asksNothing.queries, h.queries]

theorem Inquires.untried (h : Inquires n es) : ¬ Tried es :=
  not_tried_of_plain (plain_of_offStream h.offStream)

theorem Inquires.refuses (h : Inquires 0 es) : Refuses es :=
  ⟨h.untried, h.sockets, h.queries⟩

end Transcript

/-- What becomes of a session whose client has made a request. -/
inductive Obeys (s : Session) :
    Transcript → Except SessionError Unit → Session → Prop where
  | refused {es : Transcript} {e : SessionError} {s' : Session} :
      es.Refuses → Obeys s es (.error e) s'
  | resolving {es es₁ : Transcript} {request : Request} {n : Nat} {intent : Intent}
      {name : DomainName} {query : Dns.Query} {slot : Fin Role.maxQueries} {id : UInt16}
      {server : Endpoint} :
      Request.decode s.inbound = .ok (request, n) → request.command = intent.command →
      request.address.host = .domain name → Dns.Query.ofText id name.text .a = .ok query →
      ⟨.sendTo ⟨.query slot, 0⟩ query.encode server, (.ok () : Except IoError Unit)⟩ ∈ es₁ →
      es.Logs → es₁.Inquires 1 →
      Obeys s (es ++ es₁) (.ok ())
        { s with
          inbound := s.inbound.drop n
          lookups := s.lookups.set slot.val (some ⟨⟨.query slot, 0⟩, server, id, name⟩) slot.isLt
          pending := some ⟨intent, request.address.port⟩
          stage := .resolving }
  | fulfilled {es es₁ : Transcript} {request : Request} {n : Nat} {intent : Intent}
      {endpoint : Endpoint} {x : Except SessionError Unit} {s' : Session} :
      Request.decode s.inbound = .ok (request, n) → request.command = intent.command →
      request.address.endpoint? = some endpoint → es.Logs →
      Fulfils { s with inbound := s.inbound.drop n } intent [endpoint] es₁ x s' →
      Obeys s (es ++ es₁) x s'

/-! ## Turns -/

/-- What becomes of a session with an event for a role. -/
inductive Turn (ctx : Context) (s : Session) (role : Role) (r : Readiness) :
    Transcript → Except SessionError Unit → Session → Prop where
  /-- The session has no socket of the role. -/
  | idle : (role = .remote → s.stage ≠ .connecting) → Turn ctx s role r [] (.ok ()) s
  /-- The client is listened to, though it has to wait. -/
  | tended {es : Transcript} {x : Except SessionError Unit} {stream : Stream} :
      role = .client → s.stage.isHandshake = false → es.OfClient →
      Turn ctx s role r es x (s.withClientStream stream)
  | negotiated {w : Work} {es : Transcript} {x : Except SessionError Unit} :
      s.stage.isHandshake = true → Handshakes ctx s x w es →
      (x = .ok () → w.session.inbound = []) → Turn ctx s role r es x w.session
  | requested {w : Work} {es es₁ : Transcript} {x : Except SessionError Unit} {s' : Session} :
      s.stage.isHandshake = true → Handshakes ctx s (.ok ()) w es →
      w.session.stage = .authenticated → Obeys w.session es₁ x s' →
      Turn ctx s role r (es ++ es₁) x s'
  /-- Behind its request the client is registered anew. -/
  | resumed {w : Work} {es es₁ es₂ : Transcript} {x : Except SessionError Unit} {s' : Session}
      {stream : Stream} :
      s.stage.isHandshake = true → Handshakes ctx s (.ok ()) w es →
      w.session.stage = .authenticated → Obeys w.session es₁ (.ok ()) s' → es₂.OfClient →
      Turn ctx s role r (es ++ es₁ ++ es₂) x (s'.withClientStream stream)
  | awaited {es : Transcript} :
      s.stage = .resolving → es.Minor → Turn ctx s role r es (.ok ()) s
  | unresolved {es : Transcript} {e : SessionError} {s' : Session} :
      s.stage = .resolving → es.Minor → Turn ctx s role r es (.error e) s'
  | resolved {es es₁ : Transcript} {slot : Nat} {lookup : Lookup} {addresses : List Ip}
      {request : PendingRequest} {x : Except SessionError Unit} {s' : Session} :
      s.stage = .resolving → s.lookups[slot]? = some (some lookup) →
      s.pending = some request → Handler.Answered lookup es addresses → es.Minor → es.Quiet →
      Fulfils { s with lookups := .replicate _ none, pending := none } request.intent
        (addresses.map (⟨·, request.port⟩)) es₁ x s' →
      Turn ctx s role r (es ++ es₁) x s'
  | attempted {es : Transcript} {out : Outgoing} {stream : Stream} {x : Except SessionError Unit}
      {s' : Session} :
      role = .remote → s.stage = .connecting → s.remote = some (.stream out) →
      out.stream = some stream → Attempted s r out stream es x s' → Turn ctx s role r es x s'
  | tunnelled {es : Transcript} {x : Except SessionError Unit} {s' : Session} :
      s.stage = .connected → es.All Verb.IsTunnel → s'.stage = .connected →
      s'.attempts? = s.attempts? → Turn ctx s role r es x s'
  | carried {es : Transcript} {x : Except SessionError Unit} {s' : Session} :
      s.stage = .associated → es.Minor → s'.Associates → Turn ctx s role r es x s'

/-! ## Handlers -/

section
variable {ctx : Context} {s s' : Session} {es : Transcript} {x : Except SessionError Unit}

theorem Proceeds.stage {a : Attempts} {early : Bytes} (h : Proceeds s a early es x s') :
    s'.stage = s.stage := by
  cases h <;> rfl

/-- A request that is being fulfilled ends the handshake. -/
theorem Fulfils.isHandshake {intent : Intent} {candidates : List Endpoint}
    (h : Fulfils s intent candidates es (.ok ()) s') : s'.stage.isHandshake = false := by
  cases h with
  | connect h => rw [h.stage]; rfl
  | associate _ h _ => rw [(h rfl).stage]; rfl

theorem Fulfils.isFinal {intent : Intent} {candidates : List Endpoint} {e : SessionError}
    (h : Fulfils s intent candidates es (.error e) s') : e.IsFinal := by
  cases h with
  | connect h =>
    cases h
    nofun
  | associate _ _ h => exact h e rfl

theorem Obeys.isHandshake (h : Obeys s es (.ok ()) s') : s'.stage.isHandshake = false := by
  cases h with
  | resolving => rfl
  | fulfilled _ _ _ _ h => exact h.isHandshake

end

namespace Handler

variable {ctx : Context} {w : Work} {es : Transcript}

/-- A client is told that its request is refused. -/
theorem reject_refuses {α : Type} {code : ReplyCode} {e : SessionError}
    {Q : α → Work → Transcript → Prop} (hc : w.session.client.stream.socket.role = .client)
    (hes : es.Refuses) :
    (do reject ctx code; fail e : Handler α).Always w es Q
      (fun e' _ es' => e' = e ∧ es'.Refuses) := by
  rw [always_bind]
  refine always_sendLast fun es₁ es₂ r stream h₁ h₂ => always_fail.2 ⟨rfl, hes.append ?_⟩
  exact (Transcript.ofClient_of_work (Stream.send_cases h₁).1.calls hc).minor.append
    (Transcript.minor_of_aside h₂)

theorem resolve_inquires {name : DomainName} {request : PendingRequest} (hl : w.session.NoLookups)
    (hc : w.session.client.stream.socket.role = .client) :
    (resolve ctx name request).Always w []
      (fun _ w' es' => ∃ (slot : Fin Role.maxQueries) (id : UInt16) (server : Endpoint)
        (query : Dns.Query), Dns.Query.ofText id name.text .a = .ok query ∧
          ⟨.sendTo ⟨.query slot, 0⟩ query.encode server, (.ok () : Except IoError Unit)⟩ ∈ es' ∧
          es'.Inquires 1 ∧
          w'.session = { w.session with
            lookups :=
              w.session.lookups.set slot.val (some ⟨⟨.query slot, 0⟩, server, id, name⟩) slot.isLt
            pending := some request
            stage := .resolving })
      (fun e _ es' => e.IsFinal ∧ es'.Refuses) := by
  unfold resolve
  cases ctx.nameServer with
  | none =>
    refine (reject_refuses hc Transcript.refuses_nil).imp (fun _ _ _ h => h) ?_
    rintro _ w₁ es₁ ⟨rfl, h⟩
    exact ⟨nofun, h⟩
  | some server =>
    simp only
    rw [always_bind, always_outcome]
    refine (startLookup_inquires hl).imp ?_ ?_
    · rintro _ w₁ _ ⟨es₁, slot, id, query, rfl, hquery, hsent, hask, heq⟩
      simp only
      rw [always_update]
      exact ⟨slot, id, server, query, hquery, hsent, hask, by rw [heq]⟩
    · rintro e w₁ _ ⟨heq, hfinal, hne, es₁, rfl, hask⟩
      have hc₁ : w₁.session.client.stream.socket.role = .client := by
        rw [heq]
        exact hc
      cases e with
      | exhausted what => exact absurd rfl (hne what)
      | _ =>
        refine (reject_refuses hc₁ hask.refuses).imp (fun _ _ _ h => h) ?_
        rintro _ w₂ es₂ ⟨rfl, h⟩
        exact ⟨hfinal, h⟩

/-- What a request asks for is begun behind lines of the log. -/
theorem start_obeys {s : Session} {request : Request} {n : Nat} (intent : Intent)
    (hs : w.session = { s with inbound := s.inbound.drop n }) (hl : s.NoLookups)
    (hc : s.client.stream.socket.role = .client) (hd : Request.decode s.inbound = .ok (request, n))
    (hcommand : request.command = intent.command) (hlog : es.Logs) :
    (match request.address.host with
      | .domain name => resolve ctx name ⟨intent, request.address.port⟩
      | .ipv4 ip => fulfil ctx intent [⟨.v4 ip, request.address.port⟩]
      | .ipv6 ip => fulfil ctx intent [⟨.v6 ip, request.address.port⟩] : Handler Unit).Always w es
      (fun _ w' es' => Obeys s es' (.ok ()) w'.session)
      (fun e w' es' => e.IsFinal ∧ Obeys s es' (.error e) w'.session) := by
  have hliteral {endpoint : Endpoint} (he : request.address.endpoint? = some endpoint) :
      (fulfil ctx intent [endpoint]).Always w es
        (fun _ w' es' => Obeys s es' (.ok ()) w'.session)
        (fun e w' es' => e.IsFinal ∧ Obeys s es' (.error e) w'.session) := by
    refine (fulfil_fulfils.shift _).imp ?_ ?_
    · rintro _ w₁ _ ⟨es₁, rfl, h⟩
      exact .fulfilled hd hcommand he hlog (hs ▸ h)
    · rintro e w₁ _ ⟨es₁, rfl, h⟩
      exact ⟨h.isFinal, .fulfilled hd hcommand he hlog (hs ▸ h)⟩
  cases hhost : request.address.host with
  | domain name =>
    have hl₀ : w.session.NoLookups := by rw [hs]; exact hl
    have hc₀ : w.session.client.stream.socket.role = .client := by rw [hs]; exact hc
    refine ((resolve_inquires hl₀ hc₀).shift _).imp ?_ ?_
    · rintro _ w₁ _ ⟨es₁, rfl, slot, id, server, query, hquery, hsent, hask, heq⟩
      have h := Obeys.resolving hd hcommand hhost hquery hsent hlog hask
      rw [heq, hs]
      exact h
    · rintro e w₁ _ ⟨es₁, rfl, hfinal, h⟩
      exact ⟨hfinal, .refused (h.behind (Transcript.minor_of_aside hlog.aside))⟩
  | ipv4 ip => exact hliteral (by unfold Address.endpoint?; rw [hhost])
  | ipv6 ip => exact hliteral (by unfold Address.endpoint?; rw [hhost])

/-- What is asked for is done, if it can be. A request that is cut short changes nothing. -/
theorem onRequest_obeys (hw : w.session.Shaped) (hst : w.session.stage = .authenticated) :
    (onRequest ctx).Always w []
      (fun _ w' es' => Obeys w.session es' (.ok ()) w'.session)
      (fun e w' es' => (∀ needed available, e = .violation (.truncated needed available) →
        w' = w ∧ es' = []) ∧ (e.IsFinal → Obeys w.session es' (.error e) w'.session)) := by
  have hc : w.session.client.stream.socket.role = .client := congrArg Socket.role hw.client
  obtain ⟨hl, -⟩ := (Session.holds_handshake (by rw [hst]; rfl)).1 hw.holds
  unfold onRequest
  rw [always_bind, always_session]
  split
  · next fault hd =>
    cases fault with
    | truncated needed available =>
      exact always_refuse.2 ⟨fun _ _ _ => ⟨rfl, rfl⟩, fun h => absurd rfl (h needed available)⟩
    | addressTypeNotSupported t =>
      refine (reject_refuses hc Transcript.refuses_nil).imp (fun _ _ _ h => h) ?_
      rintro e w₁ es₁ ⟨rfl, h⟩
      exact ⟨nofun, fun _ => .refused h⟩
    | _ => exact always_refuse.2 ⟨nofun, fun _ => .refused Transcript.refuses_nil⟩
  · next request n hd =>
    rw [always_bind]
    unfold consume
    rw [always_update, always_bind, always_log]
    generalize hw₀ : { w with session := { w.session with inbound := w.session.inbound.drop n } } = w₀
    have hs₀ : w₀.session = { w.session with inbound := w.session.inbound.drop n } := by rw [← hw₀]
    have hc₀ : w₀.session.client.stream.socket.role = .client := by rw [hs₀]; exact hc
    have hlog (text : String) : Transcript.Logs [⟨.log .session ⟨.info, .session, text⟩, ()⟩] :=
      Transcript.logs_singleton
    have hend {e : SessionError} {w' : Work} {es' : Transcript}
        (h : e.IsFinal ∧ Obeys w.session es' (.error e) w'.session) :
        (∀ needed available, e = .violation (.truncated needed available) → w' = w ∧ es' = []) ∧
          (e.IsFinal → Obeys w.session es' (.error e) w'.session) :=
      ⟨fun needed available he => absurd he (h.1 needed available), fun _ => h.2⟩
    have hunknown {code : ReplyCode} {fault : WireError} {text : String}
        (hf : (SessionError.violation fault).IsFinal) :
        (do reject ctx code; refuse fault : Handler Unit).Always
          w₀ [⟨.log .session ⟨.info, .session, text⟩, ()⟩]
          (fun _ w' es' => Obeys w.session es' (.ok ()) w'.session)
          (fun e w' es' => e.IsFinal ∧ Obeys w.session es' (.error e) w'.session) := by
      refine (reject_refuses hc₀ (Transcript.minor_of_aside (hlog text).aside).refuses).imp
        (fun _ _ _ h => h) ?_
      rintro e w₁ es₁ ⟨rfl, h⟩
      exact ⟨hf, .refused h⟩
    cases hcommand : request.command with
    | connect =>
      exact (start_obeys .connect hs₀ hl hc hd hcommand (hlog _)).imp (fun _ _ _ h => h)
        fun _ _ _ => hend
    | associate =>
      exact (start_obeys .associate hs₀ hl hc hd hcommand (hlog _)).imp (fun _ _ _ h => h)
        fun _ _ _ => hend
    | bind | other =>
      refine (hunknown ?_).imp (fun _ _ _ h => h) fun _ _ _ => hend
      nofun

/-! ## Answers -/

theorem onLookup_turn {slot : Nat} {r : Readiness} (hw : w.session.Shaped)
    (hst : w.session.stage = .resolving) :
    (onLookup ctx slot r).Always w []
      (fun _ w' es' => Turn ctx w.session (.query slot) r es' (.ok ()) w'.session)
      (fun e w' es' => Turn ctx w.session (.query slot) r es' (.error e) w'.session) := by
  have hc : w.session.client.stream.socket.role = .client := congrArg Socket.role hw.client
  obtain ⟨-, -, hpending⟩ := (Session.holds_resolving hst).1 hw.holds
  unfold onLookup
  rw [always_bind, always_session]
  split
  · next lookup hlookup =>
    rw [always_bind, always_outcome]
    refine lookupResult_spares.imp ?_ ?_
    · rintro a _ es₁ ⟨rfl, ⟨_, rfl, hall, hask⟩, hanswer⟩
      have hwaited := Transcript.minor_of_offStream hall hask
      cases a with
      | none =>
        simp only
        exact always_pure.2 (.awaited hst hwaited)
      | some addresses =>
        obtain ⟨datagram, hdatagram, haddresses⟩ := hanswer addresses rfl
        unfold closeLookups
        simp only [always_bind, always_log, always_session, always_talk, always_update]
        intro es₂ _ h₂
        obtain ⟨request, hrequest⟩ := Option.isSome_iff_exists.1 hpending
        unfold onResolved
        simp only [always_bind, always_session, hrequest, always_update]
        have hclosed := (hwaited.append (Transcript.minor_of_aside (Transcript.all_singleton
          (e := ⟨.log .session ⟨.debug, .session, s!"Resolved {addresses.length} addresses"⟩, ()⟩)
          rfl))).append (Transcript.minor_of_upkeep (deregisterAll_upkeep h₂))
        have hquiet := ((Transcript.quiet_of_offStream hall).append
          (Transcript.quiet_of_aside (Transcript.all_singleton (e := ⟨.log .session ⟨.debug, .session,
            s!"Resolved {addresses.length} addresses"⟩, ()⟩) rfl))).append
          (Transcript.quiet_of_upkeep (deregisterAll_upkeep h₂))
        have hanswered : Answered lookup (es₁ ++ [⟨.log .session ⟨.debug, .session,
            s!"Resolved {addresses.length} addresses"⟩, ()⟩] ++ es₂) addresses :=
          ⟨datagram, List.mem_append_left _ (List.mem_append_left _ hdatagram), haddresses⟩
        refine (fulfil_fulfils.shift _).imp ?_ ?_
        · rintro _ w₁ _ ⟨es₃, rfl, h⟩
          exact .resolved hst hlookup hrequest hanswered hclosed hquiet h
        · rintro e w₁ _ ⟨es₃, rfl, h⟩
          exact .resolved hst hlookup hrequest hanswered hclosed hquiet h
    · rintro e _ _ ⟨rfl, es₁, rfl, hall, hask⟩
      unfold closeLookups
      simp only [always_bind, always_session, always_talk, always_update]
      intro es₂ _ h₂
      refine always_sendLast fun es₃ es₄ x stream h₃ h₄ => always_fail.2 (.unresolved hst ?_)
      have hclosed := (Transcript.minor_of_offStream hall hask).append
        (Transcript.minor_of_upkeep (deregisterAll_upkeep h₂))
      exact hclosed.append
        ((Transcript.ofClient_of_work (Stream.send_cases h₃).1.calls hc).minor.append
          (Transcript.minor_of_aside h₄))
  · exact always_pure.2 (.idle nofun)

end Handler

/-! ## Tunnels -/

section
variable {ctx : Context} {origin : Stage} {s s' : Session} {es : Transcript}
  {x : Except SessionError Unit}

theorem Farewell.ne_connected {settings : Settings} {data : Bytes} (h : Farewell settings s data) :
    s.stage ≠ .connected := by
  intro hst
  cases h with
  | version h | method h | credentials h => exact absurd (hst.symm.trans h) nofun
  | reply h => rcases h with h | h | h <;> exact absurd (hst.symm.trans h) nofun

theorem Requested.ne_connected {s₁ : Session} {intent : Intent} (h : Requested s intent s₁) :
    s.stage ≠ .connected := by
  intro hst
  cases h with
  | literal h | resolved h => exact absurd (hst.symm.trans h) nofun

/-- A tunnel stays a tunnel, and opens nothing. -/
theorem Step.tunnels (h : Step ctx origin s es x s') (hst : s.stage = .connected) :
    es.All Verb.IsTunnel ∧ s'.stage = .connected ∧ s'.attempts? = s.attempts? := by
  have hhandshake (h : s.stage.isHandshake = true) : False := by
    rw [hst] at h
    nomatch h
  cases h with
  | aside h | ended _ h => exact ⟨Transcript.tunnel_of_aside h, hst, rfl⟩
  | clientPolled _ _ h => exact ⟨Transcript.tunnel_of_receive (Stream.receive_all h), hst, rfl⟩
  | clientFlushed h => exact ⟨Transcript.tunnel_of_work h.worked.calls, hst, rfl⟩
  | clientResumed h => exact ⟨Transcript.tunnel_of_work (Stream.resume_cases h).1.calls, hst, rfl⟩
  | cut => exact ⟨Transcript.all_nil, hst, rfl⟩
  | relayedUp _ _ _ _ h₁ h₂ =>
    exact ⟨(Transcript.tunnel_of_receive (Stream.receive_all h₁)).append
      (Transcript.tunnel_of_work h₂.worked.calls), Session.withRemoteStream_stage.trans hst,
      Session.withRemoteStream_attempts?⟩
  | remotePolled _ _ _ h => exact ⟨Transcript.tunnel_of_receive (Stream.receive_all h), hst, rfl⟩
  | relayedDown _ _ _ h₁ h₂ =>
    exact ⟨(Transcript.tunnel_of_receive (Stream.receive_all h₁)).append
      (Transcript.tunnel_of_work h₂.worked.calls), hst, rfl⟩
  | clientDrained _ _ h₁ h₂ =>
    exact ⟨(Transcript.tunnel_of_work h₁.worked.calls).append
      (Transcript.tunnel_of_work (Stream.resume_cases h₂).1.calls),
      Session.withRemoteStream_stage.trans hst, Session.withRemoteStream_attempts?⟩
  | remoteFlushed _ _ h =>
    exact ⟨Transcript.tunnel_of_work h.worked.calls, Session.withRemoteStream_stage.trans hst,
      Session.withRemoteStream_attempts?⟩
  | remoteDrained _ _ h₁ h₂ =>
    exact ⟨(Transcript.tunnel_of_work h₁.worked.calls).append
      (Transcript.tunnel_of_work (Stream.resume_cases h₂).1.calls),
      Session.withRemoteStream_stage.trans hst, Session.withRemoteStream_attempts?⟩
  | heard _ h => exact (hhandshake h).elim
  | answered h | unanswered h => exact (hhandshake h.isHandshake.1).elim
  | farewell _ h => exact absurd hst h.ne_connected
  | connectStarted h | unassociated h | associated h => exact absurd hst h.ne_connected
  | queried h | discarded h => rcases h with h | h <;> exact absurd (hst.symm.trans h) nofun
  | lookupStarted h | lookupsClosed h | attemptStarted h | attemptFailed h | abandoned h
  | unbound h | unstarted h | established h | datagrams h => exact absurd (hst.symm.trans h) nofun

theorem Steps.tunnels (h : Steps ctx origin s es x s') (hst : s.stage = .connected) :
    es.All Verb.IsTunnel ∧ s'.stage = .connected ∧ s'.attempts? = s.attempts? := by
  induction h with
  | nil => exact ⟨Transcript.all_nil, hst, rfl⟩
  | snoc _ h₂ ih =>
    obtain ⟨hall₁, hst₁, ha₁⟩ := ih
    obtain ⟨hall₂, hst₂, ha₂⟩ := h₂.tunnels hst₁
    exact ⟨hall₁.append hall₂, hst₂, ha₂.trans ha₁⟩

end

/-! ## Events -/

namespace Handler

variable {ctx : Context} {w : Work} {es : Transcript}

/-- A client that has to wait is listened to. -/
theorem onClient_turn {r : Readiness} (hw : w.session.Shaped)
    (hst : w.session.stage = .resolving ∨ w.session.stage = .connecting ∨
      w.session.stage = .associated) :
    (onClient ctx r).Always w []
      (fun _ w' es' => Turn ctx w.session .client r es' (.ok ()) w'.session)
      (fun e w' es' => Turn ctx w.session .client r es' (.error e) w'.session) := by
  have hne : w.session.stage.isHandshake = false := by
    rcases hst with h | h | h <;> rw [h] <;> rfl
  refine (onClient_tends (congrArg Socket.role hw.client) hst).imp ?_ ?_
  · rintro _ _ es₁ ⟨stream, _, rfl, -, rfl, h⟩
    exact .tended rfl hne h
  · rintro _ _ es₁ ⟨stream, _, rfl, -, rfl, h⟩
    exact .tended rfl hne h

/-- An event for a query that is not out. -/
theorem onLookup_idle {slot : Nat} {r : Readiness} (hl : w.session.NoLookups) :
    (onLookup ctx slot r).Always w []
      (fun _ w' es' => Turn ctx w.session (.query slot) r es' (.ok ()) w'.session)
      (fun e w' es' => Turn ctx w.session (.query slot) r es' (.error e) w'.session) := by
  unfold onLookup
  rw [always_bind, always_session]
  split
  · next lookup hlookup => exact absurd hlookup (hl.getElem? slot lookup)
  · exact always_pure.2 (.idle nofun)

/-- In the handshake, messages are answered, and perhaps a request is obeyed. -/
theorem onEvent_handshake_turn {role : Role} {r : Readiness} (hw : w.session.Shaped)
    (hst : w.session.stage.isHandshake = true) (hin : w.session.inbound = []) :
    (onEvent ctx role r).Always w []
      (fun _ w' es' => Turn ctx w.session role r es' (.ok ()) w'.session)
      (fun e w' es' => Turn ctx w.session role r es' (.error e) w'.session) := by
  refine onEvent_handshake hw hst hin (fun w₁ es₁ h₁ hin₁ => .negotiated hst h₁ fun _ => hin₁)
    (fun e w₁ es₁ h₁ _ => .negotiated hst h₁ nofun) fun w₁ es₁ h₁ hst₁ => ?_
  refine Always.imp (((onRequest_obeys (h₁.shaped hw) hst₁).shift es₁).and
    (onRequest_walks h₁.steps (h₁.shaped hw) hst₁)) ?_ ?_
  · rintro _ w₂ _ ⟨⟨es₂, rfl, h₂⟩, hsteps⟩
    have hc : w₂.session.client.stream.socket.role = .client :=
      congrArg Socket.role (hsteps.shaped rfl hw).client
    refine ⟨h₂.isHandshake, .requested hst h₁ hst₁ h₂, (resumeClient_perseveres hc).tends.imp ?_ ?_⟩
    · rintro _ _ _ ⟨stream, es₃, rfl, -, rfl, h₃⟩
      exact .resumed hst h₁ hst₁ h₂ h₃
    · rintro e _ _ ⟨stream, es₃, rfl, -, rfl, h₃⟩
      exact .resumed hst h₁ hst₁ h₂ h₃
  · rintro e w₂ _ ⟨⟨es₂, rfl, hcut, h₂⟩, -⟩
    refine ⟨fun needed available he => ?_, fun he => .requested hst h₁ hst₁ (h₂ he)⟩
    obtain ⟨rfl, rfl⟩ := hcut needed available he
    exact ⟨rfl, List.append_nil es₁⟩

theorem onEvent_turn {role : Role} {r : Readiness} (hw : w.session.Shaped)
    (hr : w.session.Represented) :
    (onEvent ctx role r).Always w []
      (fun _ w' es' => Turn ctx w.session role r es' (.ok ()) w'.session)
      (fun e w' es' => Turn ctx w.session role r es' (.error e) w'.session) := by
  cases hst : w.session.stage with
  | accepted | authRequested | authenticated =>
    have hhandshake : w.session.stage.isHandshake = true := by rw [hst]; rfl
    exact onEvent_handshake_turn hw hhandshake
      ((Session.represented_handshake hhandshake).1 hr).2.2.2.2
  | resolving =>
    obtain ⟨hremote, hrelay, -⟩ := hr.resolving hst
    cases role with
    | client => exact onClient_turn hw (.inl hst)
    | remote =>
      unfold onEvent onRemote
      rw [always_bind, always_session, hremote]
      exact always_pure.2 (.idle fun _ => by rw [hst]; nofun)
    | relay =>
      unfold onEvent onRelay
      rw [always_bind, always_session, hrelay]
      exact always_pure.2 (.idle nofun)
    | query slot => exact onLookup_turn hw hst
  | connecting =>
    obtain ⟨hl, -, hrelay, -⟩ := (Session.holds_connecting hst).1 hw.holds
    obtain ⟨-, -, -, out, stream, target, hremote, hout, -⟩ := hr.connecting hst
    cases role with
    | client => exact onClient_turn hw (.inr (.inl hst))
    | remote =>
      unfold onEvent onRemote
      rw [always_bind, always_session, hremote]
      simp only [hst, if_true]
      exact (onAttempt_attempts hout).imp (fun _ _ _ h => .attempted rfl hst hremote hout h)
        fun _ _ _ h => .attempted rfl hst hremote hout h
    | relay =>
      unfold onEvent onRelay
      rw [always_bind, always_session, hrelay]
      exact always_pure.2 (.idle nofun)
    | query slot => exact onLookup_idle hl
  | connected =>
    refine (onEvent_walks hw).imp (fun _ w₁ es₁ ⟨h₁, _⟩ => ?_) fun e w₁ es₁ h₁ => ?_
    · obtain ⟨hall, hst₁, ha⟩ := h₁.tunnels hst
      exact .tunnelled hst hall hst₁ ha
    · obtain ⟨hall, hst₁, ha⟩ := h₁.tunnels hst
      exact .tunnelled hst hall hst₁ ha
  | associated =>
    obtain ⟨hl, -⟩ := (Session.holds_associated hst).1 hw.holds
    obtain ⟨ha, -⟩ := hr.associated hst
    have hcarried {h : Handler Unit} (hh : Carries h w []) : h.Always w []
        (fun _ w' es' => Turn ctx w.session role r es' (.ok ()) w'.session)
        (fun e w' es' => Turn ctx w.session role r es' (.error e) w'.session) := by
      refine Always.imp hh ?_ ?_
      · rintro _ w₁ es₁ ⟨ha₁, _, rfl, hall, hask⟩
        exact .carried hst (Transcript.minor_of_offStream hall hask) ha₁
      · rintro e w₁ es₁ ⟨ha₁, _, rfl, hall, hask⟩
        exact .carried hst (Transcript.minor_of_offStream hall hask) ha₁
    cases role with
    | client => exact onClient_turn hw (.inr (.inr hst))
    | remote =>
      unfold onEvent onRemote
      rw [always_bind, always_session, ha.remote]
      exact hcarried (onRemoteDatagram_carries ha)
    | relay => exact hcarried (onRelay_carries ha)
    | query slot => exact onLookup_idle hl

end Handler

section
variable {ctx : Context} {s s' : Session} {role : Role} {r : Readiness} {ids ids' : Dns.QueryIds}
  {es : Transcript}

theorem turn_goes (hs : s.Shaped) (hr : s.Represented)
    (h : Run (Session.handle ctx role r ⟨s, ids⟩) es (true, ⟨s', ids'⟩)) :
    Turn ctx s role r es (.ok ()) s' :=
  Handler.onEvent_turn hs hr es (.ok ()) _ (handle_goes h)

theorem logEnd_logs {stage : Stage} {why : SessionError} {u : Unit}
    (h : Run (Session.logEnd stage why) es u) : es.Logs := by
  cases why <;>
  · obtain rfl := Handler.run_log_iff.1 h
    exact Transcript.logs_singleton

theorem turn_ends (hs : s.Shaped) (hr : s.Represented)
    (h : Run (Session.handle ctx role r ⟨s, ids⟩) es (false, ⟨s', ids'⟩)) :
    ∃ es₁ es₂ e, es = es₁ ++ es₂ ∧ Turn ctx s role r es₁ (.error e) s' ∧ es₂.Logs := by
  obtain ⟨es₁, es₂, e, rfl, h₁, h₂⟩ := handle_fails h
  exact ⟨es₁, es₂, e, rfl, Handler.onEvent_turn hs hr es₁ (.error e) _ h₁, logEnd_logs h₂⟩

end

end SocksProxy
