/-
  The bytes of a client reach the remote side unchanged.

  What the client sends behind its request, and what it sends while the tunnel is up, passes through
  what was read of the handshake, the early bytes of the tunnel and the schedule of the remote
  stream. `Upstream` says where it is in each stage.

  * `Step.upstream`, `upstream_invariant`: no step loses, doubles or moves a byte.
-/
import SocksProxy.Proofs.Invariant
import SocksProxy.Proofs.Prefix

namespace SocksProxy

open Dialogue

/-! ## What is to arrive -/

/-- What a client has sent behind the negotiation, once all of that is there. -/
def behindNegotiation (settings : Settings) (heard : Bytes) : Option Bytes :=
  (behind Greeting.decode heard).bind fun rest =>
    match settings.authMethod with
    | .none => some rest
    | .password => behind Credentials.decode rest

/-- What a client has sent behind its request, once all of that is there. -/
def behindRequest (settings : Settings) (heard : Bytes) : Option Bytes :=
  (behindNegotiation settings heard).bind (behind Request.decode)

variable {settings : Settings}

theorem behindNegotiation_takesFront : TakesFront (behindNegotiation settings) := by
  refine .bind (.message Greeting.decode_front Greeting.decode_only) ?_
  cases settings.authMethod with
  | none => exact .nothing
  | password => exact .message Credentials.decode_front Credentials.decode_only

theorem behindRequest_takesFront : TakesFront (behindRequest settings) :=
  behindNegotiation_takesFront.bind (.message Request.decode_front Request.decode_only)

/-! ## The invariant -/

/-- Where the bytes of the client are, of which `heard` were read in the handshake and `relayed` while
    the tunnel was up; `taken` are those that the remote side has taken. -/
def Upstream (settings : Settings) (s : Session) (heard relayed taken : Bytes) : Prop :=
  match s.stage with
  | .accepted => heard = s.inbound ∧ relayed = [] ∧ taken = []
  | .authRequested => settings.authMethod = .password ∧
    behind Greeting.decode heard = some s.inbound ∧ relayed = [] ∧ taken = []
  | .authenticated => behindNegotiation settings heard = some s.inbound ∧ relayed = [] ∧ taken = []
  | .resolving => behindRequest settings heard = some s.inbound ∧ relayed = [] ∧ taken = []
  | .connecting => ∃ out, s.remote = some (.stream out) ∧
    behindRequest settings heard = some out.early ∧ relayed = [] ∧ taken = []
  | .connected => ∃ stream early, s.remoteStream? = some stream ∧
    behindRequest settings heard = some early ∧ taken ++ stream.outbound.pending = early ++ relayed
  | .associated => relayed = [] ∧ taken = []

/-- What the remote side has taken of a session that has ended, and whether the end of the client was
    seen while the tunnel was up. -/
def UpstreamEnd (settings : Settings) (heard relayed taken : Bytes) (sawEnd : Bool) : Prop :=
  taken <+: (behindRequest settings heard).getD [] ++ relayed ∧
    (sawEnd = true → taken = (behindRequest settings heard).getD [] ++ relayed)

/-- What a step leaves, whether the session goes on or not. It does not when the client has ended. -/
def UpstreamAfter (settings : Settings) (r : Except SessionError Unit) (s : Session)
    (heard relayed taken : Bytes) (sawEnd : Bool) : Prop :=
  match r with
  | .ok _ => Upstream settings s heard relayed taken ∧ sawEnd = false
  | .error _ => UpstreamEnd settings heard relayed taken sawEnd

variable {s s' : Session} {heard relayed taken : Bytes}

theorem Upstream.isPrefix (h : Upstream settings s heard relayed taken) :
    taken <+: (behindRequest settings heard).getD [] ++ relayed := by
  unfold Upstream at h
  cases hst : s.stage <;> rw [hst] at h
  case connected =>
    obtain ⟨stream, early, -, he, heq⟩ := h
    rw [he, Option.getD_some, ← heq]
    exact List.prefix_append _ _
  case connecting =>
    obtain ⟨out, -, -, -, rfl⟩ := h
    exact List.nil_prefix
  case authRequested =>
    obtain ⟨-, -, -, rfl⟩ := h
    exact List.nil_prefix
  case associated =>
    obtain ⟨-, rfl⟩ := h
    exact List.nil_prefix
  all_goals
    obtain ⟨-, -, rfl⟩ := h
    exact List.nil_prefix

theorem Upstream.after {r : Except SessionError Unit}
    (h : Upstream settings s heard relayed taken) :
    UpstreamAfter settings r s heard relayed taken false := by
  cases r with
  | ok _ => exact ⟨h, rfl⟩
  | error e => exact ⟨h.isPrefix, nofun⟩

/-! ## Steps -/

variable {ctx : Context} {origin : Stage} {es : Transcript} {r : Except SessionError Unit}

/-- A step that neither reads from the client nor sends to the remote side. -/
theorem UpstreamAfter.of_quiet (hm : Transcript.Mute .remote es) (hd : Transcript.Deaf .client es)
    (h : UpstreamAfter settings r s' heard relayed taken false) :
    UpstreamAfter settings r s' (heard ++ heardIn origin es) (relayed ++ relayedIn origin es)
      (taken ++ Transcript.taken .remote es) (sawEndIn origin es) := by
  rw [heardIn_nil hd.read, relayedIn_nil hd.read, hm.taken, hd.sawEndIn, List.append_nil,
    List.append_nil, List.append_nil]
  exact h

/-- What goes before and neither reads from the client nor sends to the remote side can be left out. -/
theorem UpstreamAfter.behind {es₁ : Transcript} (hm : Transcript.Mute .remote es₁)
    (hd : Transcript.Deaf .client es₁)
    (h : UpstreamAfter settings r s' (heard ++ heardIn origin es) (relayed ++ relayedIn origin es)
      (taken ++ Transcript.taken .remote es) (sawEndIn origin es)) :
    UpstreamAfter settings r s' (heard ++ heardIn origin (es₁ ++ es))
      (relayed ++ relayedIn origin (es₁ ++ es)) (taken ++ Transcript.taken .remote (es₁ ++ es))
      (sawEndIn origin (es₁ ++ es)) := by
  simpa only [heardIn, relayedIn, sawEndIn, Transcript.read_append, Transcript.taken_append,
    Transcript.sawEnd_append, hm.taken, hd.read, hd.sawEnd, List.nil_append, Bool.false_or] using h

/-- What follows and neither reads from the client nor sends to the remote side can be left out. -/
theorem UpstreamAfter.ahead {es₁ : Transcript} (hm : Transcript.Mute .remote es₁)
    (hd : Transcript.Deaf .client es₁)
    (h : UpstreamAfter settings r s' (heard ++ heardIn origin es) (relayed ++ relayedIn origin es)
      (taken ++ Transcript.taken .remote es) (sawEndIn origin es)) :
    UpstreamAfter settings r s' (heard ++ heardIn origin (es ++ es₁))
      (relayed ++ relayedIn origin (es ++ es₁)) (taken ++ Transcript.taken .remote (es ++ es₁))
      (sawEndIn origin (es ++ es₁)) := by
  simpa only [heardIn, relayedIn, sawEndIn, Transcript.read_append, Transcript.taken_append,
    Transcript.sawEnd_append, hm.taken, hd.read, hd.sawEnd, List.append_nil, Bool.or_false] using h

/-- An accepted message is taken off what was heard. -/
theorem Upstream.accepts {n : Nat} {data : Bytes} {next : Stage} {stream : Stream}
    (hu : Upstream settings s heard relayed taken) (ha : Accepts settings s n data next) :
    Upstream settings { s.withClientStream stream with inbound := s.inbound.drop n, stage := next }
      heard relayed taken := by
  unfold Upstream at hu
  cases ha with
  | @greeting offered n method hst hd hm =>
    rw [hst] at hu
    obtain ⟨rfl, hr, ht⟩ := hu
    obtain ⟨rfl, -⟩ := select_eq_some hm
    have hb := behind_of_ok hd
    cases hmethod : settings.authMethod with
    | none => exact ⟨by rw [behindNegotiation, hb, Option.bind_some, hmethod], hr, ht⟩
    | password => exact ⟨hmethod, hb, hr, ht⟩
  | credentials hst hd hc =>
    rw [hst] at hu
    obtain ⟨hmethod, hb, hr, ht⟩ := hu
    exact ⟨by rw [behindNegotiation, hb, Option.bind_some, hmethod]; exact behind_of_ok hd, hr, ht⟩

/-- What is read in the handshake waits behind what was read before. -/
theorem Upstream.hears {b : Bytes} (hu : Upstream settings s heard relayed taken)
    (hst : s.stage.isHandshake = true) :
    Upstream settings { s with inbound := s.inbound ++ b } (heard ++ b) relayed taken := by
  unfold Upstream at hu ⊢
  cases h : s.stage <;> rw [h] at hu hst <;> simp only
  case accepted => exact ⟨by rw [hu.1], hu.2⟩
  case authRequested => exact ⟨hu.1, Greeting.decode_front.behind_append hu.2.1 b, hu.2.2⟩
  case authenticated => exact ⟨behindNegotiation_takesFront.append hu.1 b, hu.2⟩
  all_goals nomatch hst

/-- What is behind a request becomes the early bytes of the tunnel. -/
theorem Upstream.requested {intent : Intent} {s₁ : Session}
    (hu : Upstream settings s heard relayed taken) (hreq : Requested s intent s₁) :
    behindRequest settings heard = some s₁.inbound ∧ relayed = [] ∧ taken = [] := by
  unfold Upstream at hu
  cases hreq with
  | literal hst hd =>
    rw [hst] at hu
    obtain ⟨hb, hr, ht⟩ := hu
    exact ⟨by rw [behindRequest, hb, Option.bind_some]; exact behind_of_ok hd, hr, ht⟩
  | resolved hst =>
    rw [hst] at hu
    exact hu

theorem Upstream.of_connecting {out : Outgoing} (hst : s.stage = .connecting)
    (hrem : s.remote = some (.stream out)) (he : behindRequest settings heard = some out.early)
    (hr : relayed = []) (ht : taken = []) : Upstream settings s heard relayed taken := by
  unfold Upstream
  rw [hst]
  exact ⟨out, hrem, he, hr, ht⟩

theorem Upstream.connecting (hu : Upstream settings s heard relayed taken)
    (hst : s.stage = .connecting) {out : Outgoing} (hrem : s.remote = some (.stream out)) :
    behindRequest settings heard = some out.early ∧ relayed = [] ∧ taken = [] := by
  unfold Upstream at hu
  rw [hst] at hu
  obtain ⟨out', hrem', h⟩ := hu
  rw [hrem] at hrem'
  cases hrem'
  exact h

/-- Attempts come and go, and the early bytes stay. -/
theorem Upstream.withOutgoing (hu : Upstream settings s heard relayed taken)
    (hst : s.stage = .connecting) {out out' : Outgoing} (hrem : s.remote = some (.stream out))
    (hearly : out'.early = out.early) :
    Upstream settings (s.withOutgoing out') heard relayed taken := by
  obtain ⟨he, hr, ht⟩ := hu.connecting hst hrem
  refine .of_connecting (s := s.withOutgoing out') hst rfl ?_ hr ht
  rw [hearly]
  exact he

theorem Upstream.connected (hu : Upstream settings s heard relayed taken)
    (hst : s.stage = .connected) {stream : Stream} (hrem : s.remoteStream? = some stream) :
    ∃ early, behindRequest settings heard = some early ∧
      taken ++ stream.outbound.pending = early ++ relayed := by
  unfold Upstream at hu
  rw [hst] at hu
  obtain ⟨stream', early, hrem', h⟩ := hu
  rw [hrem] at hrem'
  cases hrem'
  exact ⟨early, h⟩

theorem Upstream.of_connected {early : Bytes} {stream : Stream} (hst : s.stage = .connected)
    (hrem : s.remoteStream? = some stream) (he : behindRequest settings heard = some early)
    (heq : taken ++ stream.outbound.pending = early ++ relayed) :
    Upstream settings s heard relayed taken := by
  unfold Upstream
  rw [hst]
  exact ⟨stream, early, hrem, he, heq⟩

/-- The remote stream has taken a part of what it was to take, or all of it but what is scheduled. A session
    that goes on behind that has a tunnel. -/
theorem UpstreamAfter.of_remote {α : Type} {data early : Bytes} {stream stream' : Stream}
    {q : Except IoError α} (hw : stream.Worked data es q stream') (hrole : stream.socket.role = .remote)
    (he : behindRequest settings heard = some early)
    (heq : taken ++ (stream.outbound.pending ++ data) = early ++ relayed)
    (hok : r = .ok () →
      (∃ a, q = .ok a) ∧ s'.stage = .connected ∧ s'.remoteStream? = some stream') :
    UpstreamAfter settings r s' (heard ++ heardIn origin es) (relayed ++ relayedIn origin es)
      (taken ++ Transcript.taken .remote es) (sawEndIn origin es) := by
  rw [heardIn_nil hw.deaf.read, relayedIn_nil hw.deaf.read, hw.deaf.sawEndIn, List.append_nil,
    List.append_nil]
  have hc := hw.conserved
  rw [hrole] at hc
  cases r with
  | ok _ =>
    obtain ⟨⟨a, ha⟩, hst, hrem⟩ := hok rfl
    have hf := hw.complete a ha
    rw [hrole] at hf
    rw [hf, Option.getD_none] at hc
    exact ⟨.of_connected hst hrem he (by rw [List.append_assoc, hc, heq]), rfl⟩
  | error e =>
    refine ⟨?_, nofun⟩
    rw [he, Option.getD_some, ← heq, ← hc, ← List.append_assoc]
    exact List.prefix_append _ _

/-- A client from which nothing comes. Its end is looked for in a tunnel only while nothing is scheduled
    for the remote side, which has taken everything then. -/
theorem Upstream.polls {turns : Nat} {x : Except IoError Received}
    (hu : Upstream settings s heard relayed taken) (hs : s.Shaped) (hl : origin.Listens s.stage)
    (hidle : s.stage = .connected → ∀ stream, s.remoteStream? = some stream → stream.hasPending = false)
    (h : Run (s.client.stream.receive turns) es x) (hx : ∀ b, x ≠ .ok (.data b)) :
    UpstreamAfter settings (Received.verdict x) s (heard ++ heardIn origin es)
      (relayed ++ relayedIn origin es) (taken ++ Transcript.taken .remote es) (sawEndIn origin es) := by
  have hd := Stream.receive_empty h hx .client
  have hm : Transcript.Mute .remote es := Stream.receive_mute h
  rw [heardIn_nil hd, relayedIn_nil hd, hm.taken, List.append_nil, List.append_nil, List.append_nil]
  rcases x with e | b | _ | _
  · rw [sawEndIn_of_not_sawEnd ((Stream.receive_error h).2 _)]
    exact hu.after
  · exact absurd rfl (hx b)
  · rw [sawEndIn_of_not_sawEnd ((Stream.receive_wouldBlock h).2.1 _)]
    exact hu.after
  · refine ⟨hu.isPrefix, fun hsaw => ?_⟩
    have ho := connected_of_sawEndIn hsaw
    have hst : s.stage = .connected := by
      rcases hl.2 with h | ⟨h, -⟩
      · exact h.symm.trans ho
      · rw [ho] at h
        nomatch h
    obtain ⟨stream, hrem, -⟩ := hs.connected hst
    obtain ⟨early, he, heq⟩ := hu.connected hst hrem
    rw [Stream.hasPending_eq_false.1 (hidle hst stream hrem), List.append_nil] at heq
    rw [he, Option.getD_some, heq]

/-- A client that is heard in the handshake. -/
theorem Upstream.heardFurther {turns : Nat} {b : Bytes} (hu : Upstream settings s heard relayed taken)
    (hs : s.Shaped) (ho : origin.isHandshake = true) (hst : s.stage.isHandshake = true)
    (h : Run (s.client.stream.receive turns) es (.ok (.data b))) :
    UpstreamAfter settings (.ok ()) { s with inbound := s.inbound ++ b } (heard ++ heardIn origin es)
      (relayed ++ relayedIn origin es) (taken ++ Transcript.taken .remote es) (sawEndIn origin es) := by
  obtain ⟨-, -, hsaw, hread⟩ := Stream.receive_data h
  have hne : origin ≠ .connected := by
    rintro rfl
    nomatch ho
  have hb : heardIn origin es = b := by
    rw [heardIn_of_handshake ho, hread, hs.client, if_pos rfl]
  rw [hb, relayedIn_of_ne hne, sawEndIn_of_not_sawEnd (hsaw _), (Stream.receive_mute h).taken,
    List.append_nil, List.append_nil]
  exact (hu.hears hst).after

/-- A client that is not heard, while a name is looked up or datagrams are relayed. -/
theorem Upstream.unheard {turns : Nat} {b : Bytes} (hu : Upstream settings s heard relayed taken)
    (ho : origin = .resolving ∨ origin = .associated)
    (h : Run (s.client.stream.receive turns) es (.ok (.data b))) :
    UpstreamAfter settings (.ok ()) s (heard ++ heardIn origin es) (relayed ++ relayedIn origin es)
      (taken ++ Transcript.taken .remote es) (sawEndIn origin es) := by
  obtain ⟨-, -, hsaw, -⟩ := Stream.receive_data h
  have hno : origin.isHandshake = false ∧ origin ≠ .connected := by
    rcases ho with rfl | rfl <;> exact ⟨rfl, nofun⟩
  rw [heardIn_of_not_handshake hno.1, relayedIn_of_ne hno.2, sawEndIn_of_not_sawEnd (hsaw _),
    (Stream.receive_mute h).taken, List.append_nil, List.append_nil, List.append_nil]
  exact hu.after

/-- The early bytes are offered to a candidate that has a peer. -/
theorem Upstream.starts {turns : Nat} {out : Outgoing} {stream stream' : Stream} {q : Except IoError Unit}
    (hu : Upstream settings s heard relayed taken) (hs : s.Shaped) (hst : s.stage = .connecting)
    (hrem : s.remote = some (.stream out)) (hout : out.stream = some stream)
    (h : (stream.queue out.early).Starts turns es q stream')
    (hok : r = .ok () → q = .ok () ∧ s'.stage = .connected ∧ s'.remoteStream? = some stream') :
    UpstreamAfter settings r s' (heard ++ heardIn origin es) (relayed ++ relayedIn origin es)
      (taken ++ Transcript.taken .remote es) (sawEndIn origin es) := by
  obtain ⟨hrole, hempty⟩ := hs.connecting hst hrem hout
  obtain ⟨he, rfl, rfl⟩ := hu.connecting hst hrem
  refine .of_remote h.worked hrole he ?_ fun hr => ⟨⟨_, (hok hr).1⟩, (hok hr).2⟩
  rw [Stream.queue_pending_of_empty hempty]
  rfl

/-- What is scheduled for the remote side of a tunnel is offered to it, and `data` behind that, which was
    read from the client before. -/
theorem Upstream.delivers {α : Type} {data : Bytes} {stream stream' : Stream} {q : Except IoError α}
    (hu : Upstream settings s heard relayed taken) (hs : s.Shaped) (hst : s.stage = .connected)
    (hrem : s.remoteStream? = some stream) (hw : stream.Worked data es q stream')
    (hok : r = .ok () →
      (∃ a, q = .ok a) ∧ s'.stage = .connected ∧ s'.remoteStream? = some stream') :
    UpstreamAfter settings r s' (heard ++ heardIn origin es) (relayed ++ data ++ relayedIn origin es)
      (taken ++ Transcript.taken .remote es) (sawEndIn origin es) := by
  obtain ⟨early, he, heq⟩ := hu.connected hst hrem
  refine .of_remote hw (hs.connected_role hst hrem) he ?_ hok
  rw [← List.append_assoc, heq, List.append_assoc]

/-- What is read from the client of a tunnel is delivered to the remote side. -/
theorem Upstream.relays {turns : Nat} {b : Bytes} {es₁ es₂ : Transcript} {stream stream' : Stream}
    {q : Except IoError Unit} (hu : Upstream settings s heard relayed taken) (hs : s.Shaped)
    (ho : origin = .connected) (hst : s.stage = .connected) (hrem : s.remoteStream? = some stream)
    (h₁ : Run (s.client.stream.receive turns) es₁ (.ok (.data b)))
    (h₂ : stream.Delivers turns b es₂ q stream') :
    UpstreamAfter settings (verdict q) (s.withRemoteStream stream') (heard ++ heardIn origin (es₁ ++ es₂))
      (relayed ++ relayedIn origin (es₁ ++ es₂)) (taken ++ Transcript.taken .remote (es₁ ++ es₂))
      (sawEndIn origin (es₁ ++ es₂)) := by
  subst ho
  obtain ⟨-, -, hsaw, hread⟩ := Stream.receive_data h₁
  have hb : Transcript.read .client es₁ = b := by rw [hread, hs.client, if_pos rfl]
  have hno {es : Transcript} : heardIn .connected es = [] := heardIn_of_not_handshake rfl
  have hmove : UpstreamAfter settings (verdict q) (s.withRemoteStream stream')
      (heard ++ heardIn .connected es₂) (relayed ++ b ++ relayedIn .connected es₂)
      (taken ++ Transcript.taken .remote es₂) (sawEndIn .connected es₂) :=
    hu.delivers hs hst hrem h₂.worked fun hr => ⟨verdict_eq_ok hr,
      Session.withRemoteStream_stage.trans hst, Session.withRemoteStream_remoteStream? _ hrem⟩
  simpa only [hno, relayedIn_connected, sawEndIn_connected, Transcript.read_append,
    Transcript.taken_append, Transcript.sawEnd_append, (Stream.receive_mute h₁).taken, hsaw, hb,
    List.nil_append, Bool.false_or, ← List.append_assoc] using hmove

/-- What is scheduled for the remote side of a tunnel is offered to it. -/
theorem Upstream.flushes {turns : Nat} {stream stream' : Stream} {x : Except IoError Flush}
    (hu : Upstream settings s heard relayed taken) (hs : s.Shaped) (hst : s.stage = .connected)
    (hrem : s.remoteStream? = some stream) (h : stream.Flushes turns es x stream')
    (hok : r = .ok () →
      (∃ f, x = .ok f) ∧ s'.stage = .connected ∧ s'.remoteStream? = some stream') :
    UpstreamAfter settings r s' (heard ++ heardIn origin es) (relayed ++ relayedIn origin es)
      (taken ++ Transcript.taken .remote es) (sawEndIn origin es) := by
  have hmove : UpstreamAfter settings r s' (heard ++ heardIn origin es)
      (relayed ++ [] ++ relayedIn origin es) (taken ++ Transcript.taken .remote es) (sawEndIn origin es) :=
    hu.delivers hs hst hrem h.worked hok
  rwa [List.append_nil] at hmove

/-- No step loses a byte of the client, doubles one or moves it. -/
theorem Step.upstream (h : Step ctx origin s es r s') (hs : s.Shaped)
    (hu : Upstream ctx.settings s heard relayed taken) :
    UpstreamAfter ctx.settings r s' (heard ++ heardIn origin es) (relayed ++ relayedIn origin es)
      (taken ++ Transcript.taken .remote es) (sawEndIn origin es) := by
  cases h with
  | aside h | ended _ h => exact .of_quiet (Transcript.mute_of_aside h) (Transcript.deaf_of_aside h) hu.after
  | cut => exact .of_quiet Transcript.mute_nil Transcript.deaf_nil hu.after
  | queried _ h => exact .of_quiet (Transcript.mute_of_offStream h) (Transcript.deaf_of_offStream h) hu.after
  | clientPolled hl hidle h hx => exact hu.polls hs hl hidle h hx
  | clientFlushed h =>
    exact .of_quiet (hs.mute_client _ h.worked nofun) h.worked.deaf (Upstream.after hu)
  | clientResumed h =>
    have hw := (Stream.resume_cases h).1
    exact .of_quiet (hs.mute_client _ hw nofun) hw.deaf (Upstream.after hu)
  | heard ho hst h => exact hu.heardFurther hs ho hst h
  | answered ha h₁ h₂ =>
    exact .of_quiet ((Transcript.mute_of_aside h₁).append (hs.mute_client _ h₂.worked nofun))
      ((Transcript.deaf_of_aside h₁).append h₂.worked.deaf) (hu.accepts ha).after
  | unanswered ha h₁ h₂ =>
    exact .of_quiet ((Transcript.mute_of_aside h₁).append (hs.mute_client _ h₂.worked nofun))
      ((Transcript.deaf_of_aside h₁).append h₂.worked.deaf) ⟨hu.isPrefix, nofun⟩
  | farewell _ _ h₁ h₂ h₃ =>
    have hw := (Stream.send_cases h₂).1
    exact .of_quiet
      (((Transcript.mute_of_aside h₁).append (hs.mute_client .remote hw nofun)).append
        (Transcript.mute_of_aside h₃))
      (((Transcript.deaf_of_aside h₁).append hw.deaf).append (Transcript.deaf_of_aside h₃))
      ⟨hu.isPrefix, nofun⟩
  | lookupStarted hst hd hc _ h =>
    have hrest := hu.requested (.literal hst hd hc)
    exact .of_quiet (Transcript.mute_of_offStream h) (Transcript.deaf_of_offStream h)
      (Upstream.after hrest)
  | lookupsClosed _ h | datagrams _ _ h =>
    exact .of_quiet (Transcript.mute_of_offStream h) (Transcript.deaf_of_offStream h)
      (Upstream.after hu)
  | connectStarted hreq =>
    obtain ⟨he, hr, ht⟩ := hu.requested hreq
    exact .of_quiet Transcript.mute_nil Transcript.deaf_nil (Upstream.of_connecting rfl rfl he hr ht).after
  | attemptStarted hst hrem h | attemptFailed hst hrem h =>
    have hall := (Talk.openStream_cases h).1
    exact .of_quiet (Transcript.mute_of_setup hall) (Transcript.deaf_of_setup hall)
      (hu.withOutgoing hst hrem (by rfl)).after
  | abandoned hst hrem hsome hnone =>
    have hall := Outgoing.abandon_upkeep hsome hnone
    exact .of_quiet (Transcript.mute_of_upkeep hall) (Transcript.deaf_of_upkeep hall)
      (hu.withOutgoing hst hrem (by rfl)).after
  | unbound hst hrem _ h₁ h₂ =>
    have hall := (Talk.peerOf_all h₁).append h₂
    exact .of_quiet (Transcript.mute_of_aside hall) (Transcript.deaf_of_aside hall)
      ⟨hu.isPrefix, nofun⟩
  | unstarted hst hrem hout h₁ h₂ h₃ =>
    have hall := (Talk.peerOf_all h₁).append h₂
    exact .behind (Transcript.mute_of_aside hall) (Transcript.deaf_of_aside hall)
      (hu.starts hs hst hrem hout h₃ nofun)
  | established hst hrem hout h₁ h₂ h₃ h₄ h₅ =>
    have hall := (Talk.peerOf_all h₁).append h₂
    refine .ahead (hs.mute_client _ h₅.worked nofun) h₅.worked.deaf ?_
    refine .ahead (Transcript.mute_of_aside h₄) (Transcript.deaf_of_aside h₄) ?_
    refine .behind (Transcript.mute_of_aside hall) (Transcript.deaf_of_aside hall) ?_
    exact hu.starts hs hst hrem hout h₃ fun _ => ⟨rfl, rfl, rfl⟩
  | relayedUp ho hst hrem _ h₁ h₂ => exact hu.relays hs ho hst hrem h₁ h₂
  | remotePolled hst hrem _ h _ =>
    have hd := Stream.receive_deaf .client h (by rw [(hs.connected_role hst hrem)]; nofun)
    exact .of_quiet (Stream.receive_mute h) hd hu.after
  | relayedDown hst hrem _ h₁ h₂ =>
    have hd := Stream.receive_deaf .client h₁ (by rw [(hs.connected_role hst hrem)]; nofun)
    exact .of_quiet ((Stream.receive_mute h₁).append (hs.mute_client _ h₂.worked nofun))
      (hd.append h₂.worked.deaf) (Upstream.after hu)
  | clientDrained hst hrem h₁ h₂ =>
    obtain ⟨early, he, heq⟩ := hu.connected hst hrem
    obtain ⟨hw, ho, hreg, -⟩ := Stream.resume_cases h₂
    refine .of_quiet
      ((hs.mute_client .remote h₁.worked nofun).append (Stream.mute_of_registers hreg))
      (h₁.worked.deaf.append hw.deaf) (Upstream.after ?_)
    exact .of_connected (Session.withRemoteStream_stage.trans hst)
      (Session.withRemoteStream_remoteStream? _ hrem) he (by rw [ho]; exact heq)
  | remoteFlushed hst hrem h =>
    exact hu.flushes hs hst hrem h fun hr => ⟨verdict_eq_ok hr,
      Session.withRemoteStream_stage.trans hst, Session.withRemoteStream_remoteStream? _ hrem⟩
  | remoteDrained hst hrem h₁ h₂ =>
    have hw := (Stream.resume_cases h₂).1
    exact .ahead (hs.mute_client _ hw nofun) hw.deaf (hu.flushes hs hst hrem h₁ fun _ => ⟨⟨_, rfl⟩,
      Session.withRemoteStream_stage.trans hst, Session.withRemoteStream_remoteStream? _ hrem⟩)
  | unassociated _ h =>
    exact .of_quiet (Transcript.mute_of_offStream h) (Transcript.deaf_of_offStream h)
      ⟨hu.isPrefix, nofun⟩
  | associated hreq h₁ h₂ =>
    obtain ⟨-, hrest⟩ := hu.requested hreq
    rw [(hreq.frame hs).1] at h₂
    exact .of_quiet ((Transcript.mute_of_offStream h₁).append (hs.mute_client _ h₂.worked nofun))
      ((Transcript.deaf_of_offStream h₁).append h₂.worked.deaf) (Upstream.after hrest)
  | discarded hst ho h => exact hu.unheard (by rwa [ho]) h

/-! ## Lives -/

theorem upstream_invariant : Invariant ctx
    (fun h s => Upstream ctx.settings s h.heard h.relayed (h.taken .remote) ∧ h.sawClientEnd = false)
    (fun h _ => UpstreamEnd ctx.settings h.heard h.relayed (h.taken .remote) h.sawClientEnd) where
  fresh := @fun peer localAddress _ hopens => by
    have hu : Upstream ctx.settings (Session.fresh peer localAddress) [] [] [] := ⟨rfl, rfl, rfl⟩
    rw [← List.nil_append (History.turn _ _), History.heard_turn, History.relayed_turn,
      History.taken_turn, History.sawClientEnd_turn]
    exact UpstreamAfter.of_quiet (r := .ok ()) (Transcript.mute_of_upkeep hopens.upkeep)
      (Transcript.deaf_of_upkeep hopens.upkeep) hu.after
  event hi := by
    rw [History.heard_event, History.relayed_event, History.taken_event, History.sawClientEnd_event]
    exact hi
  goes hs hi hstep := by
    rw [History.heard_turn, History.relayed_turn, History.taken_turn, History.sawClientEnd_turn, hi.2,
      Bool.false_or]
    exact hstep.upstream hs hi.1
  ends hs hi hstep := by
    rw [History.heard_turn, History.relayed_turn, History.taken_turn, History.sawClientEnd_turn, hi.2,
      Bool.false_or]
    exact hstep.upstream hs hi.1
  stops hi := ⟨hi.1.isPrefix, by rw [hi.2]; nofun⟩
  closes he hall := by
    have hm : Transcript.Mute .remote _ := Transcript.mute_of_upkeep hall
    have hd : Transcript.Deaf .client _ := Transcript.deaf_of_upkeep hall
    rw [History.heard_turn, History.relayed_turn, History.taken_turn, History.sawClientEnd_turn,
      heardIn_nil hd.read, relayedIn_nil hd.read, hm.taken, hd.sawEndIn, List.append_nil,
      List.append_nil, List.append_nil, Bool.or_false]
    exact he

end SocksProxy
