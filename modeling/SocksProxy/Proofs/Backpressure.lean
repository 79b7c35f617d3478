/-
  How much a session holds back, and when it reads.

  Nothing limits a schedule. It stays short because of when the session is willing to read: a message
  of the handshake only once, a side of a tunnel only when the other side has taken everything.

  * `Step.readsIdly`: a step reads before it sends, and from a side of a tunnel only when nothing is
    scheduled for the other side;
  * `Step.held`, `Utterance.sized`: what a step adds to what is held back;
  * `tailLength_kept`: behind a request less is heard than one read gives.

  **`backpressure_bounds_memory`** puts them together.
-/
import SocksProxy.Proofs.Conversation
import SocksProxy.Proofs.Intake

namespace SocksProxy

open Dialogue

/-! ## Reads -/

section
variable {es es₁ es₂ : Transcript} {e : SessionEvent} {socket : Socket} {max : Nat}

theorem Transcript.Deaf.not_receive {role : Role} (h : Transcript.Deaf role (es₁ ++ e :: es₂))
    (he : e.1 = .receive socket max) : socket.role ≠ role := by
  intro hr
  have hv := h e (List.mem_append_right es₁ List.mem_cons_self)
  simp [he, SessionCall.verb, Verb.receives, hr] at hv

theorem SessionEvent.receive_of_read {role : Role} (h : e.read role ≠ []) :
    ∃ socket max, e.1 = .receive socket max ∧ socket.role = role := by
  unfold SessionEvent.read at h
  split at h
  · next socket max b =>
    refine ⟨socket, max, rfl, ?_⟩
    split at h
    · next hrole => exact hrole
    · exact absurd rfl h
  · exact absurd rfl h

/-- No stream has moved anything so far. -/
def Transcript.Unmoved (es : Transcript) : Prop :=
  ∀ role, Transcript.read role es = [] ∧ Transcript.taken role es = []

/-- A read moves nothing before its last call. -/
theorem Stream.receive_unmoved {turns : Nat} {stream : Stream} {x : Except IoError Received}
    (h : Run (stream.receive turns) es x) (heq : es = es₁ ++ e :: es₂)
    (he : e.1 = .receive socket max) : stream.socket = socket ∧ es₁.Unmoved := by
  obtain ⟨es₀, a, rfl, hf, -⟩ := receive_cases h
  have hsocket : e.1.verb = .receive stream.socket :=
    receive_all h e (heq ▸ List.mem_append_right es₁ List.mem_cons_self)
  rw [he] at hsocket
  cases hsocket
  refine ⟨rfl, fun role => ?_⟩
  have hmute : Transcript.Mute role es₀ := hf.receives.imp fun v hv => by rw [hv]; rfl
  have hread := hf.read role
  have htaken := hmute.taken
  rcases Transcript.append_split heq with ⟨rest, rfl⟩ | ⟨front, rfl, hlast⟩
  · rw [Transcript.read_append] at hread
    rw [Transcript.taken_append] at htaken
    exact ⟨(List.append_eq_nil_iff.1 hread).1, (List.append_eq_nil_iff.1 htaken).1⟩
  · cases front with
    | nil =>
      rw [List.append_nil]
      exact ⟨hread, htaken⟩
    | cons x front => simp at hlast

/-- A stream of the socket is read, behind calls of the step that have moved nothing: a client not while a
    tunnel is to come up, and while it is up, a side only when nothing is scheduled for the other one. -/
structure Session.ReadsIdly (s : Session) (origin : Stage) (front : Transcript) (socket : Socket) : Prop where
  unmoved : front.Unmoved
  listens : socket.role = .client → origin ≠ .connecting
  client : socket.role = .client → origin = .connected →
    s.stage = .connected ∧ ∀ stream, s.remoteStream? = some stream → stream.hasPending = false
  remote : socket.role = .remote → s.stage = .connected ∧ s.client.stream.hasPending = false

variable {ctx : Context} {origin : Stage} {s s' : Session} {r : Except SessionError Unit}

theorem Session.ReadsIdly.of_client {turns : Nat} {es' : Transcript} {x : Except IoError Received}
    (hs : s.Shaped) (h : Run (s.client.stream.receive turns) es x)
    (hd : Transcript.Deaf socket.role es') (heq : es ++ es' = es₁ ++ e :: es₂)
    (he : e.1 = .receive socket max) (ho : origin ≠ .connecting)
    (hidle : origin = .connected → s.stage = .connected ∧
      ∀ stream, s.remoteStream? = some stream → stream.hasPending = false) :
    s.ReadsIdly origin es₁ socket := by
  rcases Transcript.append_split heq with ⟨rest, hes⟩ | ⟨front, rfl, rfl⟩
  · obtain ⟨hsocket, hunmoved⟩ := Stream.receive_unmoved h hes he
    have hrole : socket.role = .client := by rw [← hsocket, hs.client]
    exact ⟨hunmoved, fun _ => ho, fun _ => hidle, fun h => nomatch hrole.symm.trans h⟩
  · exact absurd rfl (hd.not_receive he)

theorem Session.ReadsIdly.of_remote {turns : Nat} {stream : Stream} {es' : Transcript}
    {x : Except IoError Received} (hs : s.Shaped) (hst : s.stage = .connected)
    (hrem : s.remoteStream? = some stream) (hidle : s.client.stream.hasPending = false)
    (h : Run (stream.receive turns) es x) (hd : Transcript.Deaf socket.role es')
    (heq : es ++ es' = es₁ ++ e :: es₂) (he : e.1 = .receive socket max) :
    s.ReadsIdly origin es₁ socket := by
  rcases Transcript.append_split heq with ⟨rest, hes⟩ | ⟨front, rfl, rfl⟩
  · obtain ⟨hsocket, hunmoved⟩ := Stream.receive_unmoved h hes he
    have hrole : socket.role = .remote := by rw [← hsocket, hs.connected_role hst hrem]
    exact ⟨hunmoved, fun h => (nomatch hrole.symm.trans h), fun h => (nomatch hrole.symm.trans h),
      fun _ => ⟨hst, hidle⟩⟩
  · exact absurd rfl (hd.not_receive he)

/-- A step reads before it does anything else, and from a side of a tunnel only when nothing is scheduled
    for the other side. -/
theorem Step.readsIdly (h : Step ctx origin s es r s') (hs : s.Shaped) (heq : es = es₁ ++ e :: es₂)
    (he : e.1 = .receive socket max) : s.ReadsIdly origin es₁ socket := by
  have hdeaf (hd : Transcript.Deaf socket.role es) : s.ReadsIdly origin es₁ socket :=
    absurd rfl ((heq ▸ hd).not_receive he)
  have hpolled {es : Transcript} : es ++ [] = es := List.append_nil es
  cases h with
  | aside h | ended _ h => exact hdeaf (Transcript.deaf_of_aside h)
  | cut | connectStarted => exact hdeaf Transcript.deaf_nil
  | clientPolled hl hidle h =>
    have horigin {stage : Stage} (ho : origin = stage) (hst : stage.isHandshake = false) :
        s.stage = stage := by
      rcases hl.2 with h | ⟨h, -⟩
      · exact h.symm.trans ho
      · exact absurd (ho ▸ h) (by rw [hst]; nofun)
    refine .of_client hs h Transcript.deaf_nil (hpolled.trans heq) he (fun ho => ?_) fun ho => ?_
    · exact hl.1 (horigin ho rfl)
    · exact ⟨horigin ho rfl, hidle (horigin ho rfl)⟩
  | heard ho _ h =>
    refine .of_client hs h Transcript.deaf_nil (hpolled.trans heq) he ?_ ?_ <;>
    · rintro rfl
      nomatch ho
  | discarded hst ho h =>
    refine .of_client hs h Transcript.deaf_nil (hpolled.trans heq) he ?_ ?_ <;>
    · intro hc
      rcases hst with hst | hst <;> nomatch hc.symm.trans (ho.trans hst)
  | relayedUp ho hst hrem hidle h₁ h₂ =>
    refine .of_client hs h₁ h₂.worked.deaf heq he (by rw [ho]; nofun) fun _ =>
      ⟨hst, fun stream' hrem' => ?_⟩
    rw [hrem] at hrem'
    cases hrem'
    exact hidle
  | remotePolled hst hrem hidle h _ =>
    exact .of_remote hs hst hrem hidle h Transcript.deaf_nil (hpolled.trans heq) he
  | relayedDown hst hrem hidle h₁ h₂ =>
    exact .of_remote hs hst hrem hidle h₁ h₂.worked.deaf heq he
  | clientFlushed h | remoteFlushed _ _ h => exact hdeaf h.worked.deaf
  | clientResumed h => exact hdeaf (Stream.resume_cases h).1.deaf
  | answered _ h₁ h₂ | unanswered _ h₁ h₂ =>
    exact hdeaf ((Transcript.deaf_of_aside h₁).append h₂.worked.deaf)
  | farewell _ _ h₁ h₂ h₃ =>
    exact hdeaf (((Transcript.deaf_of_aside h₁).append (Stream.send_cases h₂).1.deaf).append
      (Transcript.deaf_of_aside h₃))
  | queried _ h | lookupStarted _ _ _ _ h | lookupsClosed _ h | unassociated _ h | datagrams _ _ h =>
    exact hdeaf (Transcript.deaf_of_offStream h)
  | attemptStarted _ _ h | attemptFailed _ _ h =>
    exact hdeaf (Transcript.deaf_of_setup (Talk.openStream_cases h).1)
  | abandoned _ _ hsome hnone =>
    exact hdeaf (Transcript.deaf_of_upkeep (Outgoing.abandon_upkeep hsome hnone))
  | unbound _ _ _ h₁ h₂ => exact hdeaf (Transcript.deaf_of_aside ((Talk.peerOf_all h₁).append h₂))
  | unstarted _ _ _ h₁ h₂ h₃ =>
    exact hdeaf ((Transcript.deaf_of_aside ((Talk.peerOf_all h₁).append h₂)).append h₃.worked.deaf)
  | established _ _ _ h₁ h₂ h₃ h₄ h₅ =>
    exact hdeaf ((((Transcript.deaf_of_aside ((Talk.peerOf_all h₁).append h₂)).append
      h₃.worked.deaf).append (Transcript.deaf_of_aside h₄)).append h₅.worked.deaf)
  | clientDrained _ _ h₁ h₂ | remoteDrained _ _ h₁ h₂ =>
    exact hdeaf (h₁.worked.deaf.append (Stream.resume_cases h₂).1.deaf)
  | associated _ h₁ h₂ => exact hdeaf ((Transcript.deaf_of_offStream h₁).append h₂.worked.deaf)

/-- A call is made in one of the steps. -/
theorem Steps.at (h : Steps ctx origin s es r s') (heq : es = es₁ ++ e :: es₂) :
    ∃ before front s₁ step r₁ s₂ back, es₁ = before ++ front ∧
      Steps ctx origin s before (.ok ()) s₁ ∧ Step ctx origin s₁ step r₁ s₂ ∧
      step = front ++ e :: back := by
  induction h generalizing es₂ with
  | nil => simp at heq
  | snoc h₁ h₂ ih =>
    rcases Transcript.append_split heq with ⟨rest, hes⟩ | ⟨front, rfl, hes⟩
    · exact ih hes
    · exact ⟨_, front, _, _, _, _, es₂, rfl, h₁, h₂, hes⟩

/-- All calls of a turn before its last line in the log are made in steps. -/
theorem turn_at {role : Role} {readiness : Readiness} {ids ids' : Dns.QueryIds} {goes : Bool}
    (hs : s.Shaped) (hrun : Run (Session.handle ctx role readiness ⟨s, ids⟩) es (goes, ⟨s', ids'⟩))
    (heq : es = es₁ ++ e :: es₂) (he : e.1 = .receive socket max) :
    ∃ before front s₁, es₁ = before ++ front ∧ Steps ctx s.stage s before (.ok ()) s₁ ∧
      s₁.ReadsIdly s.stage front socket := by
  have hsteps {es r s' back} (h : Steps ctx s.stage s es r s') (heq : es = es₁ ++ e :: back) :
      ∃ before front s₁, es₁ = before ++ front ∧ Steps ctx s.stage s before (.ok ()) s₁ ∧
        s₁.ReadsIdly s.stage front socket := by
    obtain ⟨before, front, s₁, step, r₁, s₂, back, hes₁, h₁, h₂, hstep⟩ := h.at heq
    exact ⟨before, front, s₁, hes₁, h₁, h₂.readsIdly (h₁.shaped rfl hs) hstep he⟩
  cases goes with
  | true => exact hsteps (turn_steps hs hrun).1 heq
  | false =>
    obtain ⟨es₃, es₄, _, rfl, h₃, h₄⟩ := turn_fails hs hrun
    rcases Transcript.append_split heq with ⟨rest, hes⟩ | ⟨front, rfl, rfl⟩
    · exact hsteps h₃ hes
    · have hd : Transcript.Deaf socket.role (front ++ e :: es₂) := Transcript.deaf_of_aside h₄
      exact absurd rfl (hd.not_receive he)

end

/-- The remote side has taken all that the client has sent for it. -/
def RemoteKeepsUp (settings : Settings) (h : History) (es : Transcript) : Prop :=
  Transcript.taken .remote (h.calls ++ es) =
    (behindRequest settings h.heard).getD [] ++ h.relayed ++ Transcript.read .client es

/-- The client has taken the whole conversation, with all that the remote side has sent for it. -/
def ClientKeepsUp (settings : Settings) (h : History) (es : Transcript) : Prop :=
  ∃ c : Conversation, c.Fits settings .connected ∧ Transcript.taken .client (h.calls ++ es) = c.bytes ∧
    c.data = Transcript.read .remote (h.calls ++ es)

section
variable {ctx : Context} {h : History} {s s₁ : Session} {before front : Transcript} {socket : Socket}

theorem Transcript.Unmoved.taken (hf : front.Unmoved) {role : Role} {es : Transcript} :
    Transcript.taken role (es ++ front) = Transcript.taken role es := by
  rw [Transcript.taken_append, (hf role).2, List.append_nil]

theorem Transcript.Unmoved.read (hf : front.Unmoved) {role : Role} {es : Transcript} :
    Transcript.read role (es ++ front) = Transcript.read role es := by
  rw [Transcript.read_append, (hf role).1, List.append_nil]

/-- The client is read for a tunnel only when nothing is held back for the remote side. -/
theorem Session.ReadsIdly.remoteKeepsUp (hr : s₁.ReadsIdly s.stage front socket) (hl : Life ctx h s)
    (hsteps : Steps ctx s.stage s before (.ok ()) s₁) (hst : s.stage = .connected)
    (hrole : socket.role = .client) : RemoteKeepsUp ctx.settings h (before ++ front) := by
  obtain ⟨hst₁, hidle⟩ := hr.client hrole hst
  obtain ⟨stream, hrem, -⟩ := (hsteps.shaped rfl hl.shaped).connected hst₁
  have hu := (upstream_invariant.steps hl.shaped (upstream_invariant.life hl) hsteps).1
  rw [hst, History.heard_turn, History.relayed_turn, History.taken_turn,
    heardIn_of_not_handshake rfl, relayedIn_connected, List.append_nil] at hu
  obtain ⟨early, he, heq⟩ := hu.connected hst₁ hrem
  rw [Stream.hasPending_eq_false.1 (hidle stream hrem), List.append_nil] at heq
  rw [RemoteKeepsUp, ← List.append_assoc, hr.unmoved.taken, hr.unmoved.read, he, Option.getD_some,
    Transcript.taken_append, List.append_assoc]
  exact heq

/-- The remote side is read only when nothing is held back for the client. -/
theorem Session.ReadsIdly.clientKeepsUp (hr : s₁.ReadsIdly s.stage front socket) (hl : Life ctx h s)
    (hsteps : Steps ctx s.stage s before (.ok ()) s₁) (hrole : socket.role = .remote) :
    ClientKeepsUp ctx.settings h (before ++ front) := by
  obtain ⟨hst₁, hidle⟩ := hr.remote hrole
  have hd := (downstream_invariant.steps hl.shaped (downstream_invariant.life hl) hsteps).1
  rw [History.calls_append, History.calls_turn] at hd
  obtain ⟨c, hc, hdata, htaken⟩ := hd.conversation
  rw [Stream.hasPending_eq_false.1 hidle, List.append_nil] at htaken
  rw [hst₁] at hc
  refine ⟨c, hc, ?_, ?_⟩
  · rw [← List.append_assoc, hr.unmoved.taken, htaken]
  · rw [← List.append_assoc, hr.unmoved.read, hdata]

end

/-! ## What is held back for the remote side -/

/-- At most `limit` bytes are held until a tunnel is up, and then at most as many as one read gives are
    scheduled besides. -/
structure Outgoing.Held (limit : Nat) (out : Outgoing) : Prop where
  early : out.early.length ≤ limit
  scheduled : ∀ stream, out.stream = some stream →
    stream.outbound.size ≤ max Stream.bufferSize limit

/-- A session that has an outbound stream holds back no more than `limit` bytes for it. -/
def Session.Held (limit : Nat) (s : Session) : Prop :=
  ∀ out, s.remote = some (.stream out) → out.Held limit

/-- Streams are asked to take at most `limit` bytes, but for that of the client. -/
def Transcript.Measured (limit : Nat) (es : Transcript) : Prop :=
  ∀ e ∈ es, ∀ socket data, e.1 = .send socket data → socket.role = .client ∨ data.length ≤ limit

section
variable {limit limit' : Nat} {s s' : Session} {out : Outgoing} {stream stream' : Stream}
  {es es' : Transcript} {data : Bytes}

theorem Outgoing.held_of_none {attempts : Attempts} {early : Bytes} (h : early.length ≤ limit) :
    Outgoing.Held limit ⟨attempts, none, early⟩ where
  early := h
  scheduled _ hstream := absurd hstream.symm (Option.some_ne_none _)

theorem Session.Held.mono (h : s.Held limit) (hle : limit ≤ limit') : s.Held limit' := by
  intro out hout
  obtain ⟨hearly, hscheduled⟩ := h out hout
  refine ⟨Nat.le_trans hearly hle, fun stream hstream => ?_⟩
  exact Nat.le_trans (hscheduled stream hstream) (by omega)

theorem Session.Held.of_remote (h : s.Held limit) (hr : s'.remote = s.remote) : s'.Held limit := by
  rw [Session.Held, hr]
  exact h

theorem Session.held_of_none (hr : s.remote = none) : s.Held limit := by
  intro out hout
  nomatch hr.symm.trans hout

theorem Session.held_of_datagram {socket : Socket} (hr : s.remote = some (.datagram socket)) :
    s.Held limit := by
  intro out hout
  nomatch hr.symm.trans hout

theorem Session.held_withOutgoing (h : out.Held limit) : (s.withOutgoing out).Held limit := by
  rintro _ ⟨⟩
  exact h

theorem Session.Held.withRemoteStream (h : s.Held limit) (hrem : s.remoteStream? = some stream)
    (hle : stream'.outbound.size ≤ max Stream.bufferSize limit) :
    (s.withRemoteStream stream').Held limit := by
  obtain ⟨out, hout, -⟩ := Session.remoteStream?_eq_some.1 hrem
  rw [Session.withRemoteStream_of_remote hout]
  refine Session.held_withOutgoing ⟨(h out hout).early, ?_⟩
  rintro _ ⟨⟩
  exact hle

theorem Session.Held.scheduled (h : s.Held limit) (hrem : s.remoteStream? = some stream) :
    stream.outbound.size ≤ max Stream.bufferSize limit := by
  obtain ⟨out, hout, hstream⟩ := Session.remoteStream?_eq_some.1 hrem
  exact (h out hout).scheduled stream hstream

theorem Transcript.measured_of_mute (h : ∀ role, Transcript.Mute role es) : es.Measured limit := by
  intro e he socket data hsend
  have hv := h socket.role e he
  simp [hsend, SessionCall.verb, Verb.sends] at hv

theorem Transcript.Measured.append (h : es.Measured limit) (h' : es'.Measured limit) :
    (es ++ es').Measured limit := by
  intro e he
  rcases List.mem_append.1 he with he | he
  · exact h e he
  · exact h' e he

/-- Work on a stream sends on it only. -/
theorem Stream.Worked.socket_eq {α : Type} {q : Except IoError α} {e : SessionEvent} {socket : Socket}
    {data' : Bytes} (hw : stream.Worked data es q stream') (he : e ∈ es)
    (hsend : e.1 = .send socket data') : socket = stream.socket := by
  have hv := hw.calls e he
  rw [hsend] at hv
  rcases hv with hv | hv
  · cases hv
    rfl
  · nomatch hv

theorem Stream.Worked.measured {α : Type} {q : Except IoError α}
    (hw : stream.Worked data es q stream') (hle : stream.outbound.size + data.length ≤ limit) :
    es.Measured limit := by
  intro e he socket data' hsend
  obtain ⟨es₁, es₂, rfl⟩ := List.append_of_mem he
  have hlength := congrArg List.length
    (hw.asked es₁ e es₂ rfl socket data' hsend (congrArg Socket.role (hw.socket_eq he hsend)))
  rw [List.length_append, List.length_append] at hlength
  rw [Schedule.size] at hle
  exact .inr (by omega)

theorem Session.Shaped.measured {α : Type} {q : Except IoError α} (hs : s.Shaped)
    (hw : s.client.stream.Worked data es q stream') : es.Measured limit := by
  intro e he socket data' hsend
  exact .inl (by rw [hw.socket_eq he hsend, hs.client])

/-- What is read while nothing is scheduled is no more than one read gives. -/
theorem Stream.receive_size {turns : Nat} {source : Stream} {b : Bytes}
    (h : Run (source.receive turns) es (.ok (.data b))) (hidle : stream.hasPending = false) :
    stream.outbound.size + b.length ≤ bufferSize := by
  rw [Schedule.size, hasPending_eq_false.1 hidle, List.length_nil, Nat.zero_add]
  exact (receive_data h).2.1

variable {ctx : Context} {origin : Stage} {r : Except SessionError Unit}

/-- The early bytes are scheduled for a candidate that has nothing else to take. -/
theorem Session.Held.queued (hh : s.Held limit) (hs : s.Shaped) (hst : s.stage = .connecting)
    (hrem : s.remote = some (.stream out)) (hout : out.stream = some stream) :
    (stream.queue out.early).outbound.size ≤ max Stream.bufferSize limit := by
  rw [Schedule.size, Stream.queue_pending_of_empty (hs.connecting hst hrem hout).2]
  exact Nat.le_trans (hh out hrem).early (Nat.le_max_right _ _)

theorem Session.Held.started {α : Type} {q : Except IoError α} (hh : s.Held limit) (hs : s.Shaped)
    (hst : s.stage = .connecting) (hrem : s.remote = some (.stream out)) (hout : out.stream = some stream)
    (hw : (stream.queue out.early).Worked [] es q stream') (attempts : Attempts) :
    Outgoing.Held limit ⟨attempts, some stream', []⟩ ∧ es.Measured (max Stream.bufferSize limit) := by
  have hle := hh.queued hs hst hrem hout
  refine ⟨⟨Nat.zero_le _, ?_⟩, hw.measured hle⟩
  rintro _ ⟨⟩
  exact Nat.le_trans hw.sized hle

/-- A step holds no more back for the remote side than the limit, when a request for a tunnel does not. -/
theorem Step.held (h : Step ctx origin s es r s') (hs : s.Shaped) (hh : s.Held limit)
    (hreq : ∀ s₁, Requested s .connect s₁ → s₁.inbound.length ≤ limit) :
    s'.Held limit ∧ es.Measured (max Stream.bufferSize limit) := by
  cases h with
  | aside h | ended _ h =>
    exact ⟨hh, Transcript.measured_of_mute fun _ => Transcript.mute_of_aside h⟩
  | cut => exact ⟨hh, Transcript.measured_of_mute fun _ => Transcript.mute_nil⟩
  | clientPolled _ _ h | heard _ _ h | remotePolled _ _ _ h | discarded _ _ h =>
    exact ⟨hh, Transcript.measured_of_mute fun _ => Stream.receive_mute h⟩
  | clientFlushed h => exact ⟨hh.of_remote rfl, hs.measured h.worked⟩
  | clientResumed h => exact ⟨hh.of_remote rfl, hs.measured (Stream.resume_cases h).1⟩
  | answered _ h₁ h₂ | unanswered _ h₁ h₂ =>
    exact ⟨hh.of_remote rfl, (Transcript.measured_of_mute fun _ => Transcript.mute_of_aside h₁).append
      (hs.measured h₂.worked)⟩
  | farewell _ _ h₁ h₂ h₃ =>
    exact ⟨hh.of_remote rfl, ((Transcript.measured_of_mute fun _ => Transcript.mute_of_aside h₁).append
      (hs.measured (Stream.send_cases h₂).1)).append
      (Transcript.measured_of_mute fun _ => Transcript.mute_of_aside h₃)⟩
  | queried _ h | lookupStarted _ _ _ _ h | lookupsClosed _ h | datagrams _ _ h =>
    exact ⟨hh.of_remote rfl, Transcript.measured_of_mute fun _ => Transcript.mute_of_offStream h⟩
  | connectStarted h =>
    refine ⟨?_, Transcript.measured_of_mute fun _ => Transcript.mute_nil⟩
    rintro _ ⟨⟩
    exact Outgoing.held_of_none (hreq _ h)
  | @attemptStarted _ attempts early target rest stream _ hrem h =>
    obtain ⟨hall, hstream⟩ := Talk.openStream_cases h
    obtain ⟨rfl, -⟩ := hstream _ rfl
    refine ⟨Session.held_withOutgoing ⟨(hh _ hrem).early, ?_⟩,
      Transcript.measured_of_mute fun _ => Transcript.mute_of_setup hall⟩
    rintro _ ⟨⟩
    exact Nat.zero_le _
  | attemptFailed _ hrem h =>
    exact ⟨Session.held_withOutgoing (Outgoing.held_of_none (hh _ hrem).early),
      Transcript.measured_of_mute fun _ => Transcript.mute_of_setup (Talk.openStream_cases h).1⟩
  | abandoned _ hrem hsome hnone =>
    have hall := Outgoing.abandon_upkeep hsome hnone
    exact ⟨Session.held_withOutgoing (Outgoing.held_of_none (hh _ hrem).early),
      Transcript.measured_of_mute fun _ => Transcript.mute_of_upkeep hall⟩
  | unbound hst hrem hout h₁ h₂ =>
    refine ⟨Session.held_withOutgoing ⟨Nat.zero_le _, ?_⟩, Transcript.measured_of_mute fun _ =>
      Transcript.mute_of_aside ((Talk.peerOf_all h₁).append h₂)⟩
    rintro _ ⟨⟩
    exact hh.queued hs hst hrem hout
  | unstarted hst hrem hout h₁ h₂ h₃ =>
    obtain ⟨hheld, hmeasured⟩ := hh.started hs hst hrem hout h₃.worked _
    exact ⟨Session.held_withOutgoing hheld, (Transcript.measured_of_mute fun _ =>
      Transcript.mute_of_aside ((Talk.peerOf_all h₁).append h₂)).append hmeasured⟩
  | @established _ _ _ _ _ out _ _ _ peer _ _ hst hrem hout h₁ h₂ h₃ h₄ h₅ =>
    obtain ⟨hheld, hmeasured⟩ := hh.started hs hst hrem hout h₃.worked (out.attempts.connected peer)
    refine ⟨?_, ((((Transcript.measured_of_mute fun _ => Transcript.mute_of_aside
      ((Talk.peerOf_all h₁).append h₂)).append hmeasured).append
      (Transcript.measured_of_mute fun _ => Transcript.mute_of_aside h₄)).append
      (hs.measured h₅.worked))⟩
    rintro _ ⟨⟩
    exact hheld
  | relayedUp _ hst hrem hidle h₁ h₂ =>
    have hle := Nat.le_trans (Stream.receive_size h₁ hidle) (Nat.le_max_left _ limit)
    exact ⟨hh.withRemoteStream hrem (Nat.le_trans h₂.worked.sized hle),
      (Transcript.measured_of_mute fun _ => Stream.receive_mute h₁).append (h₂.worked.measured hle)⟩
  | relayedDown _ _ _ h₁ h₂ =>
    exact ⟨hh.of_remote rfl, (Transcript.measured_of_mute fun _ => Stream.receive_mute h₁).append
      (hs.measured h₂.worked)⟩
  | clientDrained _ hrem h₁ h₂ =>
    obtain ⟨hw, -, hreg, -⟩ := Stream.resume_cases h₂
    exact ⟨Session.Held.withRemoteStream (hh.of_remote rfl) hrem
      (Nat.le_trans hw.sized (hh.scheduled hrem)), (hs.measured h₁.worked).append
      (Transcript.measured_of_mute fun _ => Stream.mute_of_registers hreg)⟩
  | remoteFlushed _ hrem h =>
    have hle := hh.scheduled hrem
    exact ⟨hh.withRemoteStream hrem (Nat.le_trans h.worked.sized hle), h.worked.measured hle⟩
  | remoteDrained _ hrem h₁ h₂ =>
    have hle := hh.scheduled hrem
    exact ⟨Session.Held.withRemoteStream (hh.of_remote rfl) hrem (Nat.le_trans h₁.worked.sized hle),
      (h₁.worked.measured hle).append (hs.measured (Stream.resume_cases h₂).1)⟩
  | unassociated h hall =>
    exact ⟨Session.held_of_none (h.frame hs).2.2.1,
      Transcript.measured_of_mute fun _ => Transcript.mute_of_offStream hall⟩
  | associated h h₁ h₂ =>
    have hw := h₂.worked
    rw [(h.frame hs).1] at hw
    exact ⟨Session.held_of_datagram rfl, (Transcript.measured_of_mute fun _ =>
      Transcript.mute_of_offStream h₁).append (hs.measured hw)⟩

end

/-! ## What is held back for the client -/

/-- How many bytes wait for the client at most in a stage: the answers that it may not have taken yet, or
    what one read of the remote side gives. -/
def Stage.room : Stage → Nat
  | accepted => 0
  | authRequested => 2
  | authenticated | resolving | connecting => 4
  | associated => 266
  | connected => Stream.bufferSize

theorem Stage.room_le (stage : Stage) : stage.room ≤ Stream.bufferSize := by
  cases stage <;> decide

theorem Stage.IsAgreed.room {stage : Stage} (h : stage.IsAgreed) : stage.room = 4 := by
  rcases h with rfl | rfl | rfl <;> rfl

theorem Reply.length_encode_le (reply : Reply) : reply.encode.length ≤ 262 := by
  have hle : reply.bound.wireLength ≤ 259 := by
    rw [Address.wireLength]
    split
    · decide
    · next name _ => exact Nat.add_le_add_left name.size_le 4
    · decide
  simp only [Reply.encode, List.length_cons, Address.length_encode]
  omega

section
variable {settings : Settings} {s s' : Session} {said got : Bytes} {r : Except SessionError Unit}
  {next : Stage}

theorem Accepts.sized {n : Nat} {data : Bytes} (h : Accepts settings s n data next) :
    s.stage.room + data.length ≤ next.room := by
  cases h with
  | @greeting _ _ method hst =>
    rw [hst]
    cases method <;> decide
  | credentials hst =>
    rw [hst]
    decide

theorem Farewell.sized {data : Bytes} (h : Farewell settings s data) :
    s.stage.room + data.length ≤ Stream.bufferSize := by
  cases h with
  | version hst | method hst | credentials hst =>
    rw [hst]
    decide
  | @reply reply hst =>
    have hroom : s.stage.room = 4 := Stage.IsAgreed.room hst
    have hle := reply.length_encode_le
    rw [Stream.bufferSize]
    omega

/-- What is said has room, and leaves what the next stage has room for. -/
theorem Utterance.sized (h : Utterance settings s said got r next)
    (hle : s.client.stream.outbound.size ≤ s.stage.room) :
    s.client.stream.outbound.size + said.length ≤ Stream.bufferSize ∧
      (r = .ok () → s.client.stream.outbound.size + said.length ≤ next.room) := by
  cases h with
  | nothing hnext =>
    refine ⟨Nat.le_trans hle s.stage.room_le, fun _ => ?_⟩
    rcases hnext with rfl | ⟨hst, hnext⟩
    · exact hle
    · rw [hnext.room, ← hst.room]
      exact hle
  | answer ha =>
    have hsized := Nat.le_trans (Nat.add_le_add_right hle _) ha.sized
    exact ⟨Nat.le_trans hsized next.room_le, fun _ => hsized⟩
  | unanswered ha =>
    exact ⟨Nat.le_trans (Nat.le_trans (Nat.add_le_add_right hle _) ha.sized) (Stage.room_le _), nofun⟩
  | farewell hf => exact ⟨Nat.le_trans (Nat.add_le_add_right hle _) hf.sized, nofun⟩
  | @tunnel bound _ hst =>
    have hroom : s.stage.room = 4 := Stage.IsAgreed.room (.inr (.inr hst))
    have hreply := Reply.length_encode_le ⟨.success, bound⟩
    simp only [Stage.room, Stream.bufferSize]
    omega
  | @association bound _ hst =>
    have hroom : s.stage.room = 4 := hst.room
    have hreply := Reply.length_encode_le ⟨.success, bound⟩
    simp only [Stage.room, Stream.bufferSize]
    omega
  | data hst hidle hb =>
    have hempty : s.client.stream.outbound.size = 0 := by
      rw [Schedule.size, Stream.hasPending_eq_false.1 hidle, List.length_nil]
    rw [hempty, Nat.zero_add]
    exact ⟨hb, fun _ => hb⟩

variable {ctx : Context} {origin : Stage} {es : Transcript}

theorem Step.sized (h : Step ctx origin s es r s') (hs : s.Shaped)
    (hle : s.client.stream.outbound.size ≤ s.stage.room) :
    s'.client.stream.outbound.size ≤ Stream.bufferSize ∧
      (r = .ok () → s'.client.stream.outbound.size ≤ s'.stage.room) ∧
      ∀ e ∈ es, ∀ socket data, e.1 = .send socket data → socket.role = .client →
        data.length ≤ Stream.bufferSize := by
  obtain ⟨said, hspoken, hutter⟩ := h.speaks hs
  obtain ⟨hall, hroom⟩ := hutter.sized hle
  refine ⟨Nat.le_trans hspoken.sized hall, fun hr => Nat.le_trans hspoken.sized (hroom hr), ?_⟩
  intro e he socket data hsend hrole
  obtain ⟨es₁, es₂, rfl⟩ := List.append_of_mem he
  have hlength := congrArg List.length (hspoken.asked es₁ e es₂ rfl socket data hsend hrole).1
  rw [List.length_append, List.length_append] at hlength
  rw [Schedule.size] at hall
  omega

end

/-! ## What is heard behind a request -/

/-- How many bytes were heard behind a request. -/
def tailLength (settings : Settings) (heard : Bytes) : Nat :=
  ((behindRequest settings heard).getD []).length

section
variable {settings : Settings} {heard x : Bytes}

theorem tailLength_of_some {rest : Bytes} (h : behindRequest settings heard = some rest) :
    tailLength settings heard = rest.length := by
  rw [tailLength, h, Option.getD_some]

theorem tailLength_of_none (h : behindRequest settings heard = none) : tailLength settings heard = 0 := by
  rw [tailLength, h, Option.getD_none, List.length_nil]

theorem tailLength_append : tailLength settings heard ≤ tailLength settings (heard ++ x) := by
  cases h : behindRequest settings heard with
  | none =>
    rw [tailLength_of_none h]
    exact Nat.zero_le _
  | some rest =>
    rw [tailLength_of_some h, tailLength_of_some (behindRequest_takesFront.append h x), List.length_append]
    exact Nat.le_add_right _ _

/-- What ends a request has its last byte, and the tail is behind it. -/
theorem tailLength_append_lt {n : Nat} (h : behindRequest settings heard = none) (hn : 0 < n)
    (hx : x.length ≤ n) : tailLength settings (heard ++ x) < n := by
  cases hrest : behindRequest settings (heard ++ x) with
  | none =>
    rw [tailLength_of_none hrest]
    exact hn
  | some rest =>
    rw [tailLength_of_some hrest]
    exact Nat.lt_of_lt_of_le (behindRequest_takesFront.length_lt h hrest) hx

/-- While a message of the handshake is not there as a whole, no request is. -/
theorem Upstream.behindRequest_eq_none {s : Session} {relayed taken : Bytes}
    (hu : Upstream settings s heard relayed taken) (hst : s.stage.isHandshake = true)
    (hl : s.stage.Lacks s.inbound) : behindRequest settings heard = none := by
  unfold Upstream at hu
  cases h : s.stage <;> rw [h] at hu hst hl <;> simp only at hu
  case accepted =>
    have hnone : behind Greeting.decode s.inbound = none := hl
    rw [behindRequest, behindNegotiation, hu.1, hnone]
    rfl
  case authRequested =>
    have hnone : behind Credentials.decode s.inbound = none := hl
    rw [behindRequest, behindNegotiation, hu.2.1, Option.bind_some, hu.1]
    simp only [hnone, Option.bind_none]
  case authenticated =>
    have hnone : behind Request.decode s.inbound = none := hl
    rw [behindRequest, hu.1, Option.bind_some, hnone]
  all_goals cases hst

end

theorem Stream.receive_length {turns : Nat} {stream : Stream} {es : Transcript}
    {x : Except IoError Received} (h : Run (stream.receive turns) es x) (role : Role) :
    (Transcript.read role es).length ≤ bufferSize := by
  by_cases hx : ∃ b, x = .ok (.data b)
  · obtain ⟨b, rfl⟩ := hx
    obtain ⟨-, hle, -, hread⟩ := receive_data h
    rw [hread]
    split
    · exact hle
    · exact Nat.zero_le _
  · rw [receive_empty h (fun b hb => hx ⟨b, hb⟩)]
    exact Nat.zero_le _

/-- While more of the handshake is waited for, no request was heard. -/
theorem AwaitsMore.no_request {ctx : Context} {h : History} {s : Session} {w : Work} {es : Transcript}
    (hw : AwaitsMore ctx s w es) (hl : Life ctx h s) :
    behindRequest ctx.settings (h.heard ++ Transcript.read .client es) = none := by
  have hu := (upstream_invariant.steps hl.shaped (upstream_invariant.life hl) hw.steps).1
  rw [History.heard_turn, heardIn_of_handshake hw.origin] at hu
  exact hu.behindRequest_eq_none hw.isHandshake hw.stalls.lacks

/-- Behind a request less is heard than one read gives: the read that has brought the end of the request
    was the last one. -/
theorem tailLength_kept {ctx : Context} : KeptByReading ctx fun es =>
    tailLength ctx.settings (Transcript.read .client es) < Stream.bufferSize where
  empty := Nat.lt_of_le_of_lt (Nat.le_of_eq (tailLength_of_none rfl)) (by decide)
  awaits {h s w es} hl hw := by
    rw [Transcript.read_append]
    exact Nat.lt_of_le_of_lt (Nat.le_of_eq (tailLength_of_none (hw.no_request hl))) (by decide)
  read {h s w es es₁ x} hl hw h₁ := by
    rw [← List.append_assoc, Transcript.read_append, Transcript.read_append]
    exact tailLength_append_lt (hw.no_request hl) (by decide) (Stream.receive_length h₁ _)
  deaf hle hd := by
    rw [Transcript.read_append, hd.read, List.append_nil]
    exact hle

/-! ## Sessions -/

/-- Not much is held back, and no stream was ever asked to take much: what was heard behind the request
    is held until the tunnel is up, and `room` bytes are scheduled for the client. -/
structure Thrifty (settings : Settings) (room : Nat) (h : History) (s : Session) : Prop where
  held : s.Held (tailLength settings h.heard)
  client : s.client.stream.outbound.size ≤ room
  offers : ∀ e ∈ h.calls, ∀ socket data, e.1 = .send socket data →
    data.length ≤ max Stream.bufferSize (tailLength settings h.heard)

section
variable {settings : Settings} {ctx : Context} {origin : Stage} {h : History} {s s' : Session}
  {es : Transcript} {r : Except SessionError Unit} {room : Nat}

theorem Thrifty.upkeep (ht : Thrifty settings room h s) (hall : Transcript.All Verb.IsUpkeep es) :
    Thrifty settings room (h ++ History.turn origin es) s := by
  have hd : Transcript.Deaf .client es := Transcript.deaf_of_upkeep hall
  have hheard : History.heard (h ++ History.turn origin es) = h.heard := by
    rw [History.heard_turn, heardIn_nil hd.read, List.append_nil]
  refine ⟨hheard ▸ ht.held, ht.client, ?_⟩
  rw [hheard, History.calls_append, History.calls_turn]
  intro e he socket data hsend
  rcases List.mem_append.1 he with he | he
  · exact ht.offers e he socket data hsend
  · have hv : e.1.verb.sends socket.role = false := (hall e he).sends
    simp [hsend, SessionCall.verb, Verb.sends] at hv

theorem Thrifty.step (ht : Thrifty ctx.settings s.stage.room h s) (hs : s.Shaped)
    (hu : Upstream ctx.settings s h.heard h.relayed (h.taken .remote)) (hstep : Step ctx origin s es r s') :
    Thrifty ctx.settings Stream.bufferSize (h ++ History.turn origin es) s' ∧
      (r = .ok () → s'.client.stream.outbound.size ≤ s'.stage.room) := by
  have hle : tailLength ctx.settings h.heard ≤
      tailLength ctx.settings (History.heard (h ++ History.turn origin es)) := by
    rw [History.heard_turn]
    exact tailLength_append
  obtain ⟨hheld, hmeasured⟩ := hstep.held hs ht.held fun s₁ hreq =>
    Nat.le_of_eq (tailLength_of_some (hu.requested hreq).1).symm
  obtain ⟨hclient, hroom, hsent⟩ := hstep.sized hs ht.client
  refine ⟨⟨hheld.mono hle, hclient, ?_⟩, hroom⟩
  rw [History.calls_append, History.calls_turn]
  intro e he socket data hsend
  rcases List.mem_append.1 he with he | he
  · exact Nat.le_trans (ht.offers e he socket data hsend) (by omega)
  · rcases hmeasured e he socket data hsend with hrole | hdata
    · exact Nat.le_trans (hsent e he socket data hsend hrole) (Nat.le_max_left _ _)
    · exact Nat.le_trans hdata (by omega)

theorem thrifty_invariant : Invariant ctx
    (fun h s => (Upstream ctx.settings s h.heard h.relayed (h.taken .remote) ∧ h.sawClientEnd = false) ∧
      Thrifty ctx.settings s.stage.room h s)
    (Thrifty ctx.settings Stream.bufferSize) where
  fresh hopens := by
    refine ⟨upstream_invariant.fresh hopens, ?_⟩
    rw [← List.nil_append (History.turn _ _)]
    exact Thrifty.upkeep ⟨Session.held_of_none rfl, Nat.le_refl 0,
      fun _ he => absurd he List.not_mem_nil⟩ hopens.upkeep
  event hi := by
    refine ⟨upstream_invariant.event hi.1, ?_, hi.2.client, ?_⟩
    · rw [History.heard_event]
      exact hi.2.held
    · rw [History.heard_event, History.calls_event]
      exact hi.2.offers
  goes hs hi hstep := by
    obtain ⟨ht, hroom⟩ := hi.2.step hs hi.1.1 hstep
    exact ⟨upstream_invariant.goes hs hi.1 hstep, ht.held, hroom rfl, ht.offers⟩
  ends hs hi hstep := (hi.2.step hs hi.1.1 hstep).1
  stops hi := ⟨hi.2.held, Nat.le_trans hi.2.client (Stage.room_le _), hi.2.offers⟩
  closes ht hall := ht.upkeep hall

/-- What holds of sessions that go on and of those that have ended. -/
theorem thrifty_of_life (hl : Life ctx h s ∨ Ended ctx h s) :
    Thrifty ctx.settings Stream.bufferSize h s ∧
      tailLength ctx.settings h.heard < Stream.bufferSize := by
  rcases hl with hl | he
  · exact ⟨thrifty_invariant.stops (thrifty_invariant.life hl), tailLength_kept.life hl⟩
  · exact ⟨thrifty_invariant.ended he, tailLength_kept.ended he⟩

/-- While a name is looked up, what was heard behind the request is kept to be sent first. -/
theorem Life.inbound_lt (hl : Life ctx h s) (hst : s.stage = .resolving) :
    s.inbound.length < Stream.bufferSize := by
  have hu := (upstream_invariant.life hl).1
  unfold Upstream at hu
  rw [hst] at hu
  rw [← tailLength_of_some hu.1]
  exact tailLength_kept.life hl

end

/-- **A slow side is not outrun.** Whatever both sides send and take, and whenever:

    * less than 16384 bytes are held for a tunnel that is not up yet, and at most 16384 bytes are scheduled
      for the client and for the remote side, whether the session goes on or has ended;
    * nor was a stream ever asked to take more at once, so that no more was scheduled within a turn;
    * a client is not read in a turn in which the tunnel comes up; while it is up, a client is read only
      when the remote side has taken all that the client has sent for it, and a remote side only when the
      client has taken all that there is for it. -/
theorem backpressure_bounds_memory {ctx : Context} :
    (∀ h s, Life ctx h s ∨ Ended ctx h s →
      (∀ out, s.outgoing? = some out → out.early.length < 16384) ∧
      s.client.stream.outbound.size ≤ 16384 ∧
      (∀ stream, s.remoteStream? = some stream → stream.outbound.size ≤ 16384) ∧
      ∀ e ∈ h.calls, ∀ socket data, e.1 = .send socket data → data.length ≤ 16384) ∧
    (∀ h s, Life ctx h s → s.stage = .resolving → s.inbound.length < 16384) ∧
    ∀ h s role readiness ids es goes s' ids', Life ctx h s →
      Run (Session.handle ctx role readiness ⟨s, ids⟩) es (goes, ⟨s', ids'⟩) →
      ∀ es₁ e es₂ socket max, es = es₁ ++ e :: es₂ → e.1 = .receive socket max →
        (socket.role = .client → s.stage ≠ .connecting) ∧
        (socket.role = .client → s.stage = .connected → RemoteKeepsUp ctx.settings h es₁) ∧
        (socket.role = .remote → ClientKeepsUp ctx.settings h es₁) := by
  refine ⟨fun h s hl => ?_, fun h s hl hst => hl.inbound_lt hst, ?_⟩
  · obtain ⟨ht, htail⟩ := thrifty_of_life hl
    have hmax : max Stream.bufferSize (tailLength ctx.settings h.heard) = 16384 :=
      Nat.max_eq_left (Nat.le_of_lt htail)
    refine ⟨fun out hout => ?_, ht.client, fun stream hstream => ?_, fun e he socket data hsend => ?_⟩
    · have hrem : s.remote = some (.stream out) := by
        unfold Session.outgoing? at hout
        split at hout
        · next hrem =>
          cases hout
          exact hrem
        · nomatch hout
      exact Nat.lt_of_le_of_lt (ht.held out hrem).early htail
    · exact Nat.le_trans (ht.held.scheduled hstream) (Nat.le_of_eq hmax)
    · exact Nat.le_trans (ht.offers e he socket data hsend) (Nat.le_of_eq hmax)
  · intro h s role readiness ids es goes s' ids' hl hrun es₁ e es₂ socket max heq he
    obtain ⟨before, front, s₁, rfl, hsteps, hreads⟩ := turn_at hl.shaped hrun heq he
    exact ⟨hreads.listens, fun hrole hst => hreads.remoteKeepsUp hl hsteps hst hrole,
      fun hrole => hreads.clientKeepsUp hl hsteps hrole⟩

/-- What a hasty client sends behind its request is held until the tunnel is up. When the client is read
    then, the remote side has taken it. -/
theorem hasty_client_is_held_back :
    let ctx : Context := ⟨{}, none, 9⟩
    (∃ h s out, Life ctx h s ∧ s.outgoing? = some out ∧ out.early = [104, 105] ∧
      out.early.length < 16384) ∧
    ∃ h s ids es₁ e es₂ goes s' ids', Life ctx h s ∧ s.stage = .connected ∧
      Run (Session.handle ctx .client { readable := true } ⟨s, ids⟩) (es₁ ++ e :: es₂)
        (goes, ⟨s', ids'⟩) ∧
      SessionEvent.read .client e = [121, 111] ∧ RemoteKeepsUp {} h es₁ := by
  intro ctx
  obtain ⟨hheld, -, hreads⟩ := @backpressure_bounds_memory ctx
  constructor
  · obtain ⟨h, s, hl, hx⟩ := exists_life_of_rehearse ctx hastyClient (handshake 2)
      (fun _ s => s.outgoing?.any fun out => out.early = [104, 105]) (by decide +kernel)
    obtain ⟨out, hout, hearly⟩ := (Option.any_eq_true ..).1 hx
    exact ⟨h, s, out, hl, hout, of_decide_eq_true hearly, (hheld h s (.inl hl)).1 out hout⟩
  · obtain ⟨h, s, ids, es, goes, s', ids', hl, hrun, hx⟩ := exists_turn_of_rehearse ctx hastyClient
      (handshake 2 ++ [attemptDone]) .client { readable := true }
      (fun _ s es => s.stage = .connected ∧ es.any fun e => SessionEvent.read .client e = [121, 111])
      (by decide +kernel)
    obtain ⟨hst, hany⟩ := of_decide_eq_true hx
    obtain ⟨e, he, hread⟩ := List.any_eq_true.1 hany
    obtain ⟨es₁, es₂, rfl⟩ := List.append_of_mem he
    have hread : SessionEvent.read .client e = [121, 111] := of_decide_eq_true hread
    obtain ⟨socket, max, hreceive, hrole⟩ := SessionEvent.receive_of_read (by rw [hread]; nofun)
    exact ⟨h, s, ids, es₁, e, es₂, goes, s', ids', hl, hst, hrun, hread,
      (hreads h s .client _ ids _ goes s' ids' hl hrun es₁ e es₂ socket max rfl hreceive).2.1 hrole hst⟩

end SocksProxy
