/-
  What handlers do to a session, one step at a time.

  * `Step` says everything a step can do: the calls it makes, whether the session goes on, and what
    it is like then. A step is so long that what holds of sessions holds again behind it;
  * `Steps` puts steps one after the other;
  * `Handler.Walks` says of a handler that its runs are made of steps.

  The stage in which the turn began is given, since a client is read for the handshake, for a tunnel
  or for nothing, each in a turn of its own.
-/
import SocksProxy.Proofs.SocketRuns

namespace SocksProxy

open Dialogue

/-! ## Results -/

/-- What the result of an operation on a stream means for the session. -/
def verdict {α : Type} : Except IoError α → Except SessionError Unit
  | .ok _ => .ok ()
  | .error e => .error (.transport e)

/-- What the result of a read without data means for the session. -/
def Received.verdict : Except IoError Received → Except SessionError Unit
  | .ok .closed => .error .peerClosed
  | .ok _ => .ok ()
  | .error e => .error (.transport e)

/-- The session ends for good: not because a message is cut short, which may be the case for now. -/
def SessionError.IsFinal (e : SessionError) : Prop :=
  ∀ needed available, e ≠ .violation (.truncated needed available)

/-! ## The handshake -/

/-- The stage behind a greeting. -/
def AuthMethod.stage : AuthMethod → Stage
  | none => .authenticated
  | password => .authRequested

theorem select_eq_some {offered : Bytes} {required method : AuthMethod}
    (h : AuthMethod.select offered required = some method) :
    method = required ∧ required.byte ∈ offered := by
  unfold AuthMethod.select at h
  split at h
  · next hm =>
    cases h
    exact ⟨rfl, hm⟩
  · nomatch h

/-- The command behind an intent. -/
def Intent.command : Intent → Command
  | connect => .connect
  | associate => .associate

/-- A message that the session accepts, with its size, the answer to it and the stage behind it. -/
inductive Accepts (settings : Settings) (s : Session) : Nat → Bytes → Stage → Prop where
  | greeting {offered : Bytes} {n : Nat} {method : AuthMethod} :
      s.stage = .accepted → Greeting.decode s.inbound = .ok (offered, n) →
      AuthMethod.select offered settings.authMethod = some method →
      Accepts settings s n (selection (some method)) method.stage
  | credentials {c : Credentials} {n : Nat} :
      s.stage = .authRequested → Credentials.decode s.inbound = .ok (c, n) →
      c.isFor settings.username settings.password = true →
      Accepts settings s n (authStatus true) .authenticated

/-- What the session says last when it cannot go on. -/
inductive Farewell (settings : Settings) (s : Session) : Bytes → Prop where
  | version {v : UInt8} :
      s.stage = .accepted → Greeting.decode s.inbound = .error (.unsupportedVersion v) →
      Farewell settings s (selection none)
  | method {offered : Bytes} {n : Nat} :
      s.stage = .accepted → Greeting.decode s.inbound = .ok (offered, n) →
      AuthMethod.select offered settings.authMethod = none → Farewell settings s (selection none)
  | credentials {c : Credentials} {n : Nat} :
      s.stage = .authRequested → Credentials.decode s.inbound = .ok (c, n) →
      c.isFor settings.username settings.password = false →
      Farewell settings s (authStatus false)
  | reply {reply : Reply} :
      s.stage = .authenticated ∨ s.stage = .resolving ∨ s.stage = .connecting →
      reply.code ≠ .success → Farewell settings s reply.encode

/-- The session can do what the client asked for, as the second session. -/
inductive Requested (s : Session) (intent : Intent) : Session → Prop where
  | literal {request : Request} {n : Nat} :
      s.stage = .authenticated → Request.decode s.inbound = .ok (request, n) →
      request.command = intent.command →
      Requested s intent { s with inbound := s.inbound.drop n }
  | resolved {port : UInt16} :
      s.stage = .resolving → s.pending = some ⟨intent, port⟩ → s.lookups = .replicate _ none →
      Requested s intent { s with pending := none }

/-! ## Steps -/

/-- A turn that began in the stage `origin` reads from the client in the stage `now`. -/
def Stage.Listens (origin now : Stage) : Prop :=
  now ≠ .connecting ∧ (origin = now ∨ origin.isHandshake = true ∧ now.isHandshake = true)

/-- What a step of a handler can do, in a turn that began in the stage `origin`. -/
inductive Step (ctx : Context) (origin : Stage) (s : Session) :
    Transcript → Except SessionError Unit → Session → Prop where
  | aside {es : Transcript} : es.All (· = .aside) → Step ctx origin s es (.ok ()) s
  | ended {es : Transcript} {e : SessionError} :
      e.IsFinal → es.All (· = .aside) → Step ctx origin s es (.error e) s
  -- The stream of the client.
  | clientPolled {es : Transcript} {x : Except IoError Received} :
      origin.Listens s.stage →
      (s.stage = .connected → ∀ stream, s.remoteStream? = some stream → stream.hasPending = false) →
      Run (s.client.stream.receive ctx.turns) es x → (∀ b, x ≠ .ok (.data b)) →
      Step ctx origin s es (Received.verdict x) s
  | clientFlushed {es : Transcript} {x : Except IoError Flush} {stream : Stream} :
      s.client.stream.Flushes ctx.turns es x stream → (x = .ok .drained → s.stage ≠ .connected) →
      Step ctx origin s es (verdict x) (s.withClientStream stream)
  | clientResumed {es : Transcript} {r : Except IoError Unit} {stream : Stream} :
      Run s.client.stream.resume es (r, stream) →
      Step ctx origin s es (verdict r) (s.withClientStream stream)
  -- The handshake.
  | heard {es : Transcript} {b : Bytes} :
      origin.isHandshake = true → s.stage.isHandshake = true →
      Run (s.client.stream.receive ctx.turns) es (.ok (.data b)) →
      Step ctx origin s es (.ok ()) { s with inbound := s.inbound ++ b }
  | cut {needed available : Nat} :
      Step ctx origin s [] (.error (.violation (.truncated needed available))) s
  | answered {es₁ es₂ : Transcript} {n : Nat} {data : Bytes} {next : Stage} {stream : Stream} :
      Accepts ctx.settings s n data next → es₁.All (· = .aside) →
      s.client.stream.Delivers ctx.turns data es₂ (.ok ()) stream →
      Step ctx origin s (es₁ ++ es₂) (.ok ())
        { s.withClientStream stream with inbound := s.inbound.drop n, stage := next }
  | unanswered {es₁ es₂ : Transcript} {n : Nat} {data : Bytes} {next : Stage} {e : IoError}
      {stream : Stream} :
      Accepts ctx.settings s n data next → es₁.All (· = .aside) →
      s.client.stream.Delivers ctx.turns data es₂ (.error e) stream →
      Step ctx origin s (es₁ ++ es₂) (.error (.transport e))
        { s.withClientStream stream with inbound := s.inbound.drop n }
  | farewell {es₁ es₂ es₃ : Transcript} {data inbound : Bytes} {r : Except IoError Flush}
      {e : SessionError} {stream : Stream} :
      e.IsFinal → Farewell ctx.settings s data → es₁.All (· = .aside) →
      Run (s.client.stream.send ctx.turns data) es₂ (r, stream) → es₃.All (· = .aside) →
      Step ctx origin s (es₁ ++ es₂ ++ es₃) (.error e) { s.withClientStream stream with inbound }
  -- Looking a name up.
  | queried {es : Transcript} :
      s.stage = .authenticated ∨ s.stage = .resolving → es.All Verb.IsOffStream →
      Step ctx origin s es (.ok ()) s
  | lookupStarted {es : Transcript} {request : Request} {n : Nat} {slot : Fin Role.maxQueries}
      {lookup : Lookup} {pending : PendingRequest} :
      s.stage = .authenticated → Request.decode s.inbound = .ok (request, n) →
      request.command = pending.intent.command → lookup.socket.role = .query slot →
      es.All Verb.IsOffStream →
      Step ctx origin s es (.ok ())
        { s with
          inbound := s.inbound.drop n
          lookups := s.lookups.set slot.val (some lookup) slot.isLt
          pending := some pending
          stage := .resolving }
  | lookupsClosed {es : Transcript} :
      s.stage = .resolving → es.All Verb.IsOffStream →
      Step ctx origin s es (.ok ()) { s with lookups := .replicate _ none }
  -- Connecting.
  | connectStarted {s₁ : Session} {candidates : List Endpoint} :
      Requested s .connect s₁ →
      Step ctx origin s [] (.ok ())
        { s₁ with
          stage := .connecting
          inbound := []
          remote := some (.stream ⟨Attempts.new candidates, none, s₁.inbound⟩) }
  | attemptStarted {es : Transcript} {attempts : Attempts} {early : Bytes} {target : Endpoint}
      {rest : List Endpoint} {stream : Stream} :
      s.stage = .connecting → s.remote = some (.stream ⟨attempts, none, early⟩) →
      Run (Talk.openStream ⟨.remote, attempts.started⟩ target ctx.settings.remoteTcp) es
        (.ok stream) →
      Step ctx origin s es (.ok ())
        (s.withOutgoing ⟨attempts.begin target rest, some stream, early⟩)
  | attemptFailed {es : Transcript} {attempts : Attempts} {early : Bytes} {target : Endpoint}
      {rest : List Endpoint} {e : IoError} :
      s.stage = .connecting → s.remote = some (.stream ⟨attempts, none, early⟩) →
      Run (Talk.openStream ⟨.remote, attempts.started⟩ target ctx.settings.remoteTcp) es
        (.error e) →
      Step ctx origin s es (.ok ())
        (s.withOutgoing ⟨(attempts.begin target rest).failed e, none, early⟩)
  | abandoned {es : Transcript} {out : Outgoing} {why : IoError} :
      s.stage = .connecting → s.remote = some (.stream out) →
      (∀ stream, out.stream = some stream → Run stream.close es ()) →
      (out.stream = none → es = []) →
      Step ctx origin s es (.ok ()) (s.withOutgoing ⟨out.attempts.failed why, none, out.early⟩)
  | unbound {es₁ es₂ : Transcript} {out : Outgoing} {stream : Stream} {peer : Endpoint}
      {e : IoError} :
      s.stage = .connecting → s.remote = some (.stream out) → out.stream = some stream →
      Run (Talk.peerOf stream) es₁ (.ok (some peer)) → es₂.All (· = .aside) →
      Step ctx origin s (es₁ ++ es₂) (.error (.transport e))
        (s.withOutgoing ⟨out.attempts.connected peer, some (stream.queue out.early), []⟩)
  | unstarted {es₁ es₂ es₃ : Transcript} {out : Outgoing} {stream stream' : Stream}
      {peer : Endpoint} {e : IoError} :
      s.stage = .connecting → s.remote = some (.stream out) → out.stream = some stream →
      Run (Talk.peerOf stream) es₁ (.ok (some peer)) → es₂.All (· = .aside) →
      (stream.queue out.early).Starts ctx.turns es₃ (.error e) stream' →
      Step ctx origin s (es₁ ++ es₂ ++ es₃) (.error (.transport e))
        (s.withOutgoing ⟨out.attempts.connected peer, some stream', []⟩)
  | established {es₁ es₂ es₃ es₄ es₅ : Transcript} {out : Outgoing} {stream stream' client : Stream}
      {peer bound : Endpoint} {r : Except IoError Unit} :
      s.stage = .connecting → s.remote = some (.stream out) → out.stream = some stream →
      Run (Talk.peerOf stream) es₁ (.ok (some peer)) → es₂.All (· = .aside) →
      (stream.queue out.early).Starts ctx.turns es₃ (.ok ()) stream' → es₄.All (· = .aside) →
      s.client.stream.Announces ctx.turns (Reply.encode ⟨.success, Address.ofEndpoint bound⟩) es₅ r
        client →
      Step ctx origin s (es₁ ++ es₂ ++ es₃ ++ es₄ ++ es₅) (verdict r)
        { (s.withClientStream client).withOutgoing
            ⟨out.attempts.connected peer, some stream', []⟩ with
          stage := .connected }
  -- Relaying a stream.
  | relayedUp {es₁ es₂ : Transcript} {b : Bytes} {stream stream' : Stream}
      {r : Except IoError Unit} :
      origin = .connected → s.stage = .connected → s.remoteStream? = some stream →
      stream.hasPending = false → Run (s.client.stream.receive ctx.turns) es₁ (.ok (.data b)) →
      stream.Delivers ctx.turns b es₂ r stream' →
      Step ctx origin s (es₁ ++ es₂) (verdict r) (s.withRemoteStream stream')
  | remotePolled {es : Transcript} {stream : Stream} {x : Except IoError Received} :
      s.stage = .connected → s.remoteStream? = some stream →
      s.client.stream.hasPending = false → Run (stream.receive ctx.turns) es x →
      (∀ b, x ≠ .ok (.data b)) → Step ctx origin s es (Received.verdict x) s
  | relayedDown {es₁ es₂ : Transcript} {b : Bytes} {stream client : Stream}
      {r : Except IoError Unit} :
      s.stage = .connected → s.remoteStream? = some stream →
      s.client.stream.hasPending = false → Run (stream.receive ctx.turns) es₁ (.ok (.data b)) →
      s.client.stream.Delivers ctx.turns b es₂ r client →
      Step ctx origin s (es₁ ++ es₂) (verdict r) (s.withClientStream client)
  | clientDrained {es₁ es₂ : Transcript} {stream stream' client : Stream}
      {r : Except IoError Unit} :
      s.stage = .connected → s.remoteStream? = some stream →
      s.client.stream.Flushes ctx.turns es₁ (.ok .drained) client →
      Run stream.resume es₂ (r, stream') →
      Step ctx origin s (es₁ ++ es₂) (verdict r)
        ((s.withClientStream client).withRemoteStream stream')
  | remoteFlushed {es : Transcript} {stream stream' : Stream} {x : Except IoError Flush} :
      s.stage = .connected → s.remoteStream? = some stream →
      stream.Flushes ctx.turns es x stream' → x ≠ .ok .drained →
      Step ctx origin s es (verdict x) (s.withRemoteStream stream')
  | remoteDrained {es₁ es₂ : Transcript} {stream stream' client : Stream}
      {r : Except IoError Unit} :
      s.stage = .connected → s.remoteStream? = some stream →
      stream.Flushes ctx.turns es₁ (.ok .drained) stream' →
      Run s.client.stream.resume es₂ (r, client) →
      Step ctx origin s (es₁ ++ es₂) (verdict r)
        ((s.withClientStream client).withRemoteStream stream')
  -- Relaying datagrams, and passing over what a client has no business to say.
  | unassociated {es : Transcript} {s₁ : Session} {relay : Option Relay} {e : IoError} :
      Requested s .associate s₁ → es.All Verb.IsOffStream →
      Step ctx origin s es (.error (.transport e)) { s₁ with relay }
  | associated {es₁ es₂ : Transcript} {s₁ : Session} {relay : Relay} {remote : Socket}
      {bound : Endpoint} {r : Except IoError Unit} {client : Stream} :
      Requested s .associate s₁ → es₁.All Verb.IsOffStream →
      s₁.client.stream.Delivers ctx.turns (Reply.encode ⟨.success, Address.ofEndpoint bound⟩) es₂ r
        client →
      Step ctx origin s (es₁ ++ es₂) (verdict r)
        { s₁.withClientStream client with
          relay := some relay
          remote := some (.datagram remote)
          inbound := []
          stage := .associated }
  | datagrams {es : Transcript} {relay : Option Relay} :
      s.stage = .associated → relay.isSome = s.relay.isSome → es.All Verb.IsOffStream →
      Step ctx origin s es (.ok ()) { s with relay }
  | discarded {es : Transcript} {b : Bytes} :
      s.stage = .resolving ∨ s.stage = .associated → origin = s.stage →
      Run (s.client.stream.receive ctx.turns) es (.ok (.data b)) → Step ctx origin s es (.ok ()) s

/-- Steps one after the other. Only the last one can end the session. -/
inductive Steps (ctx : Context) (origin : Stage) (s : Session) :
    Transcript → Except SessionError Unit → Session → Prop where
  | nil : Steps ctx origin s [] (.ok ()) s
  | snoc {es₁ es₂ : Transcript} {s₁ s₂ : Session} {r : Except SessionError Unit} :
      Steps ctx origin s es₁ (.ok ()) s₁ → Step ctx origin s₁ es₂ r s₂ →
      Steps ctx origin s (es₁ ++ es₂) r s₂

section
variable {ctx : Context} {origin : Stage} {s s' : Session} {es es' : Transcript}
  {r : Except SessionError Unit}

theorem Steps.call {e : SessionEvent} (h : Steps ctx origin s es (.ok ()) s')
    (he : e.1.verb = .aside) : Steps ctx origin s (es ++ [e]) (.ok ()) s' :=
  h.snoc (.aside (Transcript.all_singleton he))

/-- The calls can be put together in another way. -/
theorem Steps.of_eq (h : Steps ctx origin s es r s') (he : es' = es) :
    Steps ctx origin s es' r s' :=
  he ▸ h

theorem Steps.fails (h : Steps ctx origin s es (.ok ()) s') {e : SessionError} (he : e.IsFinal) :
    Steps ctx origin s es (.error e) s' :=
  (h.snoc (.ended he Transcript.all_nil)).of_eq (List.append_nil es).symm

theorem Steps.cut (h : Steps ctx origin s es (.ok ()) s') (needed available : Nat) :
    Steps ctx origin s es (.error (.violation (.truncated needed available))) s' :=
  (h.snoc .cut).of_eq (List.append_nil es).symm

theorem verdict_ne_violation {α : Type} {x : Except IoError α} {fault : WireError} :
    verdict x ≠ .error (.violation fault) := by
  cases x <;> nofun

theorem Received.verdict_ne_violation {x : Except IoError Received} {fault : WireError} :
    Received.verdict x ≠ .error (.violation fault) := by
  rcases x with e | _ | _ | _ <;> nofun

/-- A message that is cut short leaves the session as it was. -/
theorem Step.of_cut {needed available : Nat} (h : Step ctx origin s es r s')
    (hr : r = .error (.violation (.truncated needed available))) : es = [] ∧ s' = s := by
  cases h with
  | cut => exact ⟨rfl, rfl⟩
  | ended he => exact absurd (Except.error.inj hr) (he _ _)
  | farewell he => exact absurd (Except.error.inj hr) (he _ _)
  | clientPolled | remotePolled => exact absurd hr Received.verdict_ne_violation
  | clientFlushed | clientResumed | established | relayedUp | relayedDown | clientDrained
  | remoteFlushed | remoteDrained | associated => exact absurd hr verdict_ne_violation
  | _ => nomatch hr

theorem Steps.of_cut {needed available : Nat}
    (h : Steps ctx origin s es (.error (.violation (.truncated needed available))) s') :
    Steps ctx origin s es (.ok ()) s' := by
  cases h with
  | snoc h hstep =>
    obtain ⟨rfl, rfl⟩ := hstep.of_cut rfl
    exact h.of_eq (List.append_nil _)

end

/-- Every run of the handler from `w`, behind the calls `es` that led the session `s` there, is made
    of steps. -/
def Handler.Walks {α : Type} (ctx : Context) (origin : Stage) (s : Session) (h : Handler α) (w : Work)
    (es : Transcript) : Prop :=
  h.Always w es (fun _ w' es' => Steps ctx origin s es' (.ok ()) w'.session)
    (fun e w' es' => Steps ctx origin s es' (.error e) w'.session)

end SocksProxy
