/-
  No wakeup is lost.

  The poller reports a change once. So a stream that is reported readable has to be read until nothing is
  left, or be registered anew later, unless it is excused: somebody has to take something first, and is
  watched until then.

  * `Step.clientAwake` and `Step.remoteAwake`: a step that ends the last excuse of a stream registers it
    anew;
  * **`no_lost_wakeup`**.
-/
import SocksProxy.Proofs.Watch
import SocksProxy.Proofs.Rehearsal

namespace SocksProxy

open Dialogue

/-! ## Steps that end excuses -/

namespace Session

variable {s s' : Session} {es es₁ es₂ : Transcript} {stream stream' : Stream}

/-- The client is excused, or the poller was told to report what there is to read from it. -/
def ClientAwake (s : Session) (es : Transcript) : Prop :=
  s.ClientExcused ∨ Transcript.rearmed s.client.stream.socket es = true

/-- The remote side is excused, or the poller was told to report what there is to read from it. -/
def RemoteAwake (s : Session) (es : Transcript) : Prop :=
  s.RemoteExcused ∨ ∃ stream, s.remoteStream? = some stream ∧
    Transcript.rearmed stream.socket es = true

theorem ClientAwake.behind (h : s.ClientAwake es₂) : s.ClientAwake (es₁ ++ es₂) :=
  h.imp_right fun h => by rw [Transcript.rearmed_append, h, Bool.or_true]

theorem ClientAwake.ahead (h : s.ClientAwake es₁) : s.ClientAwake (es₁ ++ es₂) :=
  h.imp_right fun h => by rw [Transcript.rearmed_append, h, Bool.true_or]

theorem RemoteAwake.behind (h : s.RemoteAwake es₂) : s.RemoteAwake (es₁ ++ es₂) :=
  h.imp_right fun ⟨stream, hs, h⟩ =>
    ⟨stream, hs, by rw [Transcript.rearmed_append, h, Bool.or_true]⟩

theorem RemoteAwake.ahead (h : s.RemoteAwake es₁) : s.RemoteAwake (es₁ ++ es₂) :=
  h.imp_right fun ⟨stream, hs, h⟩ =>
    ⟨stream, hs, by rw [Transcript.rearmed_append, h, Bool.true_or]⟩

/-- Except for a tunnel, only a client that does not take what it is to take is excused. -/
theorem ClientExcused.pending (h : s.ClientExcused) (hst : s.stage ≠ .connecting)
    (hc : s.stage ≠ .connected) : s.client.stream.hasPending = true := by
  rcases h with h | h | h
  · exact h
  · exact absurd h hst
  · exact absurd h.1 hc

theorem ClientExcused.tunnel (h : s.ClientExcused) (hst : s.stage = .connected)
    (hrem : s.remoteStream? = some stream) :
    s.client.stream.hasPending = true ∨ stream.hasPending = true := by
  rcases h with h | h | ⟨-, found, hfound, h⟩
  · exact .inl h
  · rw [hst] at h
    nomatch h
  · rw [hrem] at hfound
    cases hfound
    exact .inr h

theorem RemoteExcused.tunnel (h : s.RemoteExcused) (hst : s.stage = .connected)
    (hrem : s.remoteStream? = some stream) :
    s.client.stream.hasPending = true ∨ stream.hasPending = true := by
  rcases h with h | h | ⟨found, hfound, h⟩
  · exact absurd hst h
  · exact .inl h
  · rw [hrem] at hfound
    cases hfound
    exact .inr h

theorem clientAwake_of_staysAwake (h : s.client.stream.StaysAwake es s'.client.stream)
    (hsock : s'.client.stream.socket = s.client.stream.socket)
    (hp : s.client.stream.hasPending = true) : s'.ClientAwake es := by
  cases hp' : s'.client.stream.hasPending with
  | true => exact .inl (.inl hp')
  | false => exact .inr (by rw [hsock]; exact h.rearmed hp hp')

theorem clientAwake_of_wakes (h : s.client.stream.Wakes es s'.client.stream)
    (hsock : s'.client.stream.socket = s.client.stream.socket) : s'.ClientAwake es := by
  cases hp : s'.client.stream.hasPending with
  | true => exact .inl (.inl hp)
  | false => exact .inr (by rw [hsock]; exact h.rearmed hp)

theorem remoteAwake_of_wakes (h : stream.Wakes es stream') (hsock : stream'.socket = stream.socket)
    (hs : s'.remoteStream? = some stream') : s'.RemoteAwake es := by
  cases hp : stream'.hasPending with
  | true => exact .inl (.inr (.inr ⟨stream', hs, hp⟩))
  | false => exact .inr ⟨stream', hs, by rw [hsock]; exact h.rearmed hp⟩

end Session

variable {ctx : Context} {origin : Stage} {s s' : Session} {es : Transcript}
  {r : Except SessionError Unit}

theorem Requested.not_tunnel {s₁ : Session} {intent : Intent} (h : Requested s intent s₁) :
    s.stage ≠ .connecting ∧ s.stage ≠ .connected := by
  cases h with
  | literal hst | resolved hst =>
    rw [hst]
    exact ⟨nofun, nofun⟩

theorem Step.clientAwake (h : Step ctx origin s es r s') (hr : r = .ok ()) (hs : s.Shaped)
    (he : s.ClientExcused) : s'.ClientAwake es := by
  cases h with
  | aside | clientPolled | heard | queried | lookupsClosed | remotePolled | datagrams | discarded =>
    exact .inl he
  | ended | cut | unanswered | farewell | unbound | unstarted | unassociated => nomatch hr
  | clientFlushed h hx =>
    obtain ⟨f, rfl⟩ := verdict_eq_ok hr
    cases f with
    | drained => exact Session.clientAwake_of_wakes h.drained.1 h.worked.socket
    | pending => exact .inl (.inl h.pending_staysAwake.2)
  | clientResumed h =>
    obtain ⟨_, rfl⟩ := verdict_eq_ok hr
    obtain ⟨hw, -, -, hwake⟩ := Stream.resume_cases h
    exact Session.clientAwake_of_wakes (hwake rfl) hw.socket
  | answered ha h₁ h₂ =>
    have hst := ha.isHandshake.1
    have hp := he.pending (fun h => by rw [h] at hst; nomatch hst)
      (fun h => by rw [h] at hst; nomatch hst)
    exact (Session.clientAwake_of_staysAwake h₂.staysAwake h₂.worked.socket hp).behind
  | lookupStarted hst =>
    exact .inl (.inl (he.pending (by rw [hst]; nofun) (by rw [hst]; nofun)))
  | connectStarted => exact .inl (.inr (.inl rfl))
  | attemptStarted hst | attemptFailed hst | abandoned hst => exact .inl (.inr (.inl hst))
  | established _ _ _ _ _ _ _ h₅ =>
    obtain ⟨_, rfl⟩ := verdict_eq_ok hr
    exact (Session.clientAwake_of_wakes h₅.wakes h₅.worked.socket).behind
  | relayedUp _ hst hrem hp =>
    rcases he.tunnel hst hrem with h | h
    · exact .inl (.inl (by rw [Session.withRemoteStream_client]; exact h))
    · rw [hp] at h
      nomatch h
  | relayedDown hst hrem hp =>
    rcases he.tunnel hst hrem with h | h
    · rw [hp] at h
      nomatch h
    · exact .inl (.inr (.inr ⟨hst, _, hrem, h⟩))
  | clientDrained _ _ h₁ =>
    refine (Session.clientAwake_of_wakes (s := s) ?_ ?_).ahead <;>
      rw [Session.withRemoteStream_client]
    · exact h₁.drained.1
    · exact h₁.worked.socket
  | remoteFlushed hst hrem h hx =>
    obtain ⟨f, rfl⟩ := verdict_eq_ok hr
    cases f with
    | drained => exact absurd rfl hx
    | pending =>
      exact .inl (.inr (.inr ⟨Session.withRemoteStream_stage.trans hst, _,
        Session.withRemoteStream_remoteStream? _ hrem, h.pending_staysAwake.2⟩))
  | remoteDrained _ _ _ h₂ =>
    obtain ⟨_, rfl⟩ := verdict_eq_ok hr
    obtain ⟨hw, -, -, hwake⟩ := Stream.resume_cases h₂
    refine (Session.clientAwake_of_wakes (s := s) ?_ ?_).behind <;>
      rw [Session.withRemoteStream_client]
    · exact hwake rfl
    · exact hw.socket
  | associated hreq _ h₂ =>
    obtain ⟨_, rfl⟩ := verdict_eq_ok hr
    rw [(hreq.frame hs).1] at h₂
    have hp := he.pending hreq.not_tunnel.1 hreq.not_tunnel.2
    exact (Session.clientAwake_of_staysAwake h₂.staysAwake h₂.worked.socket hp).behind

theorem Step.remoteAwake (h : Step ctx origin s es r s') (hr : r = .ok ()) (he : s.RemoteExcused) :
    s'.RemoteAwake es := by
  cases h with
  | aside | clientPolled | heard | queried | lookupsClosed | remotePolled | datagrams | discarded =>
    exact .inl he
  | ended | cut | unanswered | farewell | unbound | unstarted | unassociated => nomatch hr
  | clientFlushed h hx =>
    obtain ⟨f, rfl⟩ := verdict_eq_ok hr
    cases f with
    | drained => exact .inl (.inl (hx rfl))
    | pending => exact .inl (.inr (.inl h.pending_staysAwake.2))
  | clientResumed h =>
    have hp := Stream.hasPending_of_outbound (Stream.resume_cases h).2.1
    exact .inl (he.imp_right (.imp_left hp.trans))
  | @answered _ _ _ _ next _ ha =>
    refine .inl (.inl fun (hc : next = .connected) => ?_)
    have hnext := ha.isHandshake.2
    rw [hc] at hnext
    nomatch hnext
  | lookupStarted | connectStarted | associated => exact .inl (.inl nofun)
  | attemptStarted hst | attemptFailed hst | abandoned hst =>
    exact .inl (.inl (by rw [Session.withOutgoing_stage, hst]; nofun))
  | established _ _ _ _ _ h₃ =>
    exact (Session.remoteAwake_of_wakes h₃.wakes h₃.worked.socket rfl).behind.ahead.ahead
  | relayedUp _ hst hrem hp =>
    rcases he.tunnel hst hrem with h | h
    · exact .inl (.inr (.inl (by rw [Session.withRemoteStream_client]; exact h)))
    · rw [hp] at h
      nomatch h
  | relayedDown hst hrem hp =>
    rcases he.tunnel hst hrem with h | h
    · rw [hp] at h
      nomatch h
    · exact .inl (.inr (.inr ⟨_, hrem, h⟩))
  | clientDrained _ hrem _ h₂ =>
    obtain ⟨_, rfl⟩ := verdict_eq_ok hr
    obtain ⟨hw, -, -, hwake⟩ := Stream.resume_cases h₂
    refine (Session.remoteAwake_of_wakes (hwake rfl) hw.socket ?_).behind
    exact Session.withRemoteStream_remoteStream? _ hrem
  | remoteFlushed hst hrem h hx =>
    obtain ⟨f, rfl⟩ := verdict_eq_ok hr
    cases f with
    | drained => exact absurd rfl hx
    | pending =>
      exact .inl (.inr (.inr ⟨_, Session.withRemoteStream_remoteStream? _ hrem,
        h.pending_staysAwake.2⟩))
  | remoteDrained _ hrem h₁ =>
    refine (Session.remoteAwake_of_wakes h₁.drained.1 h₁.worked.socket ?_).ahead
    exact Session.withRemoteStream_remoteStream? _ hrem

/-- A tunnel that is up stays up on the same socket. -/
theorem Step.tunnel {stream : Stream} (h : Step ctx origin s es r s') (hr : r = .ok ())
    (hst : s.stage = .connected) (hrem : s.remoteStream? = some stream) :
    s'.stage = .connected ∧ ∃ stream', s'.remoteStream? = some stream' ∧
      stream'.socket = stream.socket := by
  have hno {p : Prop} {stage : Stage} (h : s.stage = stage) (hne : stage ≠ .connected) : p :=
    absurd (h.symm.trans hst) hne
  have hsame {stream' found : Stream} (hfound : s.remoteStream? = some found)
      (hs : stream'.socket = found.socket) : stream'.socket = stream.socket := by
    rw [hrem] at hfound
    cases hfound
    exact hs
  cases h with
  | aside | clientPolled | heard | remotePolled | discarded | clientFlushed | clientResumed
  | relayedDown | datagrams => exact ⟨hst, stream, hrem, rfl⟩
  | ended | cut | unanswered | farewell | unbound | unstarted | unassociated => nomatch hr
  | answered ha =>
    have hh := ha.isHandshake.1
    rw [hst] at hh
    nomatch hh
  | queried h => rcases h with h | h <;> exact hno h nofun
  | lookupStarted h | lookupsClosed h | attemptStarted h | attemptFailed h | abandoned h
  | established h => exact hno h nofun
  | connectStarted hreq | associated hreq => exact absurd hst hreq.not_tunnel.2
  | relayedUp _ _ hfound _ _ h =>
    exact ⟨Session.withRemoteStream_stage.trans hst, _,
      Session.withRemoteStream_remoteStream? _ hfound, hsame hfound h.worked.socket⟩
  | remoteFlushed _ hfound h =>
    exact ⟨Session.withRemoteStream_stage.trans hst, _,
      Session.withRemoteStream_remoteStream? _ hfound, hsame hfound h.worked.socket⟩
  | clientDrained _ hfound _ h =>
    refine ⟨Session.withRemoteStream_stage.trans hst, _, ?_,
      hsame hfound (Stream.resume_cases h).1.socket⟩
    exact Session.withRemoteStream_remoteStream? _ hfound
  | remoteDrained _ hfound h =>
    refine ⟨Session.withRemoteStream_stage.trans hst, _, ?_, hsame hfound h.worked.socket⟩
    exact Session.withRemoteStream_remoteStream? _ hfound

theorem Steps.clientAwake (h : Steps ctx origin s es r s') (hr : r = .ok ()) (hs : s.Shaped)
    (he : s.ClientExcused) : s'.ClientAwake es := by
  induction h with
  | nil => exact .inl he
  | snoc h₁ h₂ ih =>
    have hs₁ := h₁.shaped rfl hs
    rcases ih rfl with he₁ | harm
    · exact (h₂.clientAwake hr hs₁ he₁).behind
    · refine .inr ?_
      rw [(h₂.shaped hr hs₁).client, ← hs₁.client, Transcript.rearmed_append, harm, Bool.true_or]

theorem Steps.remoteAwake (h : Steps ctx origin s es r s') (hr : r = .ok ())
    (he : s.RemoteExcused) : s'.RemoteAwake es := by
  induction h with
  | nil => exact .inl he
  | @snoc _ _ s₁ _ _ h₁ h₂ ih =>
    by_cases hst : s₁.stage = .connected
    · rcases ih rfl with he₁ | ⟨stream, hrem, harm⟩
      · exact (h₂.remoteAwake hr he₁).behind
      · obtain ⟨-, stream', hrem', hsock⟩ := h₂.tunnel hr hst hrem
        refine .inr ⟨stream', hrem', ?_⟩
        rw [hsock, Transcript.rearmed_append, harm, Bool.true_or]
    · exact (h₂.remoteAwake hr (.inl hst)).behind

theorem Steps.tunnel {stream : Stream} (h : Steps ctx origin s es r s') (hr : r = .ok ())
    (hst : s.stage = .connected) (hrem : s.remoteStream? = some stream) :
    s'.stage = .connected ∧ ∃ stream', s'.remoteStream? = some stream' ∧
      stream'.socket = stream.socket := by
  induction h with
  | nil => exact ⟨hst, stream, hrem, rfl⟩
  | snoc _ h₂ ih =>
    obtain ⟨hst₁, stream₁, hrem₁, hsock₁⟩ := ih rfl
    obtain ⟨hst₂, stream₂, hrem₂, hsock₂⟩ := h₂.tunnel hr hst₁ hrem₁
    exact ⟨hst₂, stream₂, hrem₂, hsock₂.trans hsock₁⟩

/-! ## What happened since the last report -/

namespace History

variable {role role' : Role} {p : SessionEvent → Bool} {h : History} {stage : Stage}
  {es : Transcript} {r : Readiness} {socket : Socket}

/-- A call of the kind was made since the poller has last reported something to read from the role. -/
def Since (role : Role) (p : SessionEvent → Bool) (h : History) : Prop :=
  ∃ (h₁ : History) (stage : Stage) (e : SessionEvent) (h₂ : History),
    h = h₁ ++ .call stage e :: h₂ ∧ p e = true ∧ ∀ x ∈ h₂, x.isReadable role = false

/-- Since the last report there was nothing left to read. -/
def Drained (role : Role) (socket : Socket) (h : History) : Prop :=
  h.Since role (SessionEvent.isDry socket)

/-- Since the last report the poller was told to report what there is to read. -/
def Rearmed (role : Role) (socket : Socket) (h : History) : Prop :=
  h.Since role (SessionEvent.isRearm socket)

/-- Bytes are scheduled, and the poller is told to report when they can be taken. -/
def Flushing (h : History) (stream : Stream) : Prop :=
  stream.hasPending = true ∧ Transcript.interest stream.socket none h.calls = some .write

theorem isReadable_turn : ∀ x ∈ turn stage es, x.isReadable role = false := by
  intro x hx
  obtain ⟨e, -, rfl⟩ := List.mem_map.1 hx
  rfl

theorem Since.turn (hs : h.Since role p) : Since role p (h ++ History.turn stage es) := by
  obtain ⟨h₁, stage', e, h₂, rfl, hp, hq⟩ := hs
  refine ⟨h₁, stage', e, h₂ ++ History.turn stage es, by simp, hp, fun x hx => ?_⟩
  rcases List.mem_append.1 hx with hx | hx
  · exact hq x hx
  · exact isReadable_turn x hx

theorem Since.event (hs : h.Since role p) (hr : (Entry.event role' r).isReadable role = false) :
    Since role p (h ++ [.event role' r]) := by
  obtain ⟨h₁, stage', e, h₂, rfl, hp, hq⟩ := hs
  refine ⟨h₁, stage', e, h₂ ++ [.event role' r], by simp, hp, fun x hx => ?_⟩
  rcases List.mem_append.1 hx with hx | hx
  · exact hq x hx
  · rw [List.mem_singleton.1 hx]
    exact hr

theorem since_turn (h : History) (hp : es.any p = true) :
    Since role p (h ++ History.turn stage es) := by
  obtain ⟨e, he, hpe⟩ := List.any_eq_true.1 hp
  obtain ⟨es₁, es₂, rfl⟩ := List.append_of_mem he
  exact ⟨h ++ History.turn stage es₁, stage, e, History.turn stage es₂, by simp [History.turn], hpe,
    isReadable_turn⟩

/-- What there was to read is read, or will be reported. -/
def Heeded (role : Role) (socket : Socket) (h : History) : Prop :=
  h.Drained role socket ∨ h.Rearmed role socket

theorem Heeded.turn (hh : h.Heeded role socket) :
    Heeded role socket (h ++ History.turn stage es) :=
  hh.imp Since.turn Since.turn

theorem Heeded.event (hh : h.Heeded role socket)
    (hr : (Entry.event role' r).isReadable role = false) :
    Heeded role socket (h ++ [.event role' r]) :=
  hh.imp (Since.event · hr) (Since.event · hr)

theorem heeded_of_rearmed (h : History) (hes : Transcript.rearmed socket es = true) :
    Heeded role socket (h ++ History.turn stage es) :=
  .inr (since_turn h hes)

theorem heeded_of_dry_or_rearmed (h : History)
    (hes : Transcript.dry socket es = true ∨ Transcript.rearmed socket es = true) :
    Heeded role socket (h ++ History.turn stage es) :=
  hes.imp (since_turn h) (since_turn h)

end History

/-! ## Turns -/

section
variable {h : History} {role : Role} {readiness : Readiness} {ids ids' : Dns.QueryIds}

/-- The client is excused, or heeded. -/
def Session.ClientHeeded (s : Session) (h : History) : Prop :=
  s.ClientExcused ∨ h.Heeded .client s.client.stream.socket

/-- The remote side is excused, or heeded. -/
def Session.RemoteHeeded (s : Session) (h : History) : Prop :=
  s.RemoteExcused ∨ ∃ stream, s.remoteStream? = some stream ∧ h.Heeded .remote stream.socket

theorem Session.ClientHeeded.turn (hh : s.ClientHeeded h) (hs : s.Shaped)
    (hrun : Run (Session.handle ctx role readiness ⟨s, ids⟩) es (true, ⟨s', ids'⟩)) :
    s'.ClientHeeded (h ++ [.event role readiness] ++ History.turn s.stage es) := by
  obtain ⟨hsteps, hserved, -⟩ := turn_steps hs hrun
  have hsock := (hsteps.shaped rfl hs).client
  by_cases hread : (Entry.event role readiness).isReadable .client = true
  · have ⟨hrole, hr⟩ := of_decide_eq_true hread
    refine (hserved hrole hr).imp_right fun hes => History.heeded_of_dry_or_rearmed _ ?_
    rw [hsock]
    exact hes
  · rcases hh with he | hh
    · exact (hsteps.clientAwake rfl hs he).imp_right (History.heeded_of_rearmed _)
    · rw [hs.client, ← hsock] at hh
      exact .inr (hh.event (Bool.eq_false_iff.2 hread)).turn

theorem Session.RemoteHeeded.turn (hh : s.RemoteHeeded h) (hs : s.Shaped)
    (hrun : Run (Session.handle ctx role readiness ⟨s, ids⟩) es (true, ⟨s', ids'⟩)) :
    s'.RemoteHeeded (h ++ [.event role readiness] ++ History.turn s.stage es) := by
  obtain ⟨hsteps, -, hserved⟩ := turn_steps hs hrun
  have hawake (he : s.RemoteExcused) :
      s'.RemoteHeeded (h ++ [.event role readiness] ++ History.turn s.stage es) :=
    (hsteps.remoteAwake rfl he).imp_right fun ⟨stream, hrem, hes⟩ =>
      ⟨stream, hrem, History.heeded_of_rearmed _ hes⟩
  by_cases hst : s.stage = .connected
  · by_cases hread : (Entry.event role readiness).isReadable .remote = true
    · have ⟨hrole, hr⟩ := of_decide_eq_true hread
      exact (hserved hrole hst hr).imp_right fun ⟨stream, hrem, hes⟩ =>
        ⟨stream, hrem, History.heeded_of_dry_or_rearmed _ hes⟩
    · rcases hh with he | ⟨stream, hrem, hh⟩
      · exact hawake he
      · obtain ⟨-, stream', hrem', hsock⟩ := hsteps.tunnel rfl hst hrem
        rw [← hsock] at hh
        exact .inr ⟨stream', hrem', (hh.event (Bool.eq_false_iff.2 hread)).turn⟩
  · exact hawake (.inl hst)

theorem Transcript.Opens.rearmed (h : Transcript.Opens es) :
    Transcript.rearmed ⟨.client, 0⟩ es = true := by
  obtain ⟨es₁, rfl, -⟩ := h
  rw [Transcript.rearmed_append]
  exact Bool.or_true _

theorem Life.heeded (hl : Life ctx h s) : s.ClientHeeded h ∧ s.RemoteHeeded h := by
  induction hl with
  | start hrun =>
    obtain ⟨⟨localAddress, rfl⟩, hopens⟩ := start_cases hrun
    exact ⟨.inr (History.heeded_of_rearmed [] hopens.rearmed), .inl (.inl nofun)⟩
  | turn hl hrun ih => exact ⟨ih.1.turn hl.shaped hrun, ih.2.turn hl.shaped hrun⟩

/-- What is scheduled is watched. -/
theorem Stream.Tended.flushing {stream : Stream} (ht : stream.Tended h.calls) (hf : stream.Fits)
    (hp : stream.hasPending = true) : h.Flushing stream := by
  refine ⟨hp, ht.trans ?_⟩
  rw [hf, Stream.fitting, hp]
  rfl

/-- **No wakeup is lost.** Since the poller has last reported something to read from the client, there
    was nothing left to read or the poller was told to report it; or the client has something to take
    and is watched for it, or an attempt is made, or the remote side of a tunnel has something to take
    and is watched for it. It is the same for the remote side of a tunnel.

    With every event that a session survives, a side that is excused no more is registered anew, and
    one that the event said something about is read until nothing is left, registered anew, or
    excused. -/
theorem no_lost_wakeup (hl : Life ctx h s) :
    (h.Heeded .client s.client.stream.socket ∨ h.Flushing s.client.stream ∨ s.stage = .connecting ∨
      (s.stage = .connected ∧ ∃ stream, s.remoteStream? = some stream ∧ h.Flushing stream)) ∧
    (s.stage = .connected → ∃ stream, s.remoteStream? = some stream ∧
      (h.Heeded .remote stream.socket ∨ h.Flushing stream ∨ h.Flushing s.client.stream)) ∧
    ∀ role readiness ids es s' ids',
      Run (Session.handle ctx role readiness ⟨s, ids⟩) es (true, ⟨s', ids'⟩) →
        (s.ClientExcused → s'.ClientAwake es) ∧ (s.RemoteExcused → s'.RemoteAwake es) ∧
        (role = .client → readiness.readable = true → Handler.ClientServed ⟨s', ids'⟩ es) ∧
        (role = .remote → s.stage = .connected → readiness.readable = true →
          Handler.RemoteServed ⟨s', ids'⟩ es) := by
  have hw := watched_invariant.life hl
  have hclient := hw.client.flushing hw.clientFits
  have hremote (hst : s.stage = .connected) (stream : Stream) (hrem : s.remoteStream? = some stream)
      (hp : stream.hasPending = true) : h.Flushing stream :=
    (hw.remote stream hrem).flushing (hw.remoteFits hst stream hrem) hp
  obtain ⟨hc, hr⟩ := hl.heeded
  refine ⟨?_, fun hst => ?_, fun role readiness ids es s' ids' hrun => ?_⟩
  · rcases hc with (hp | hst | ⟨hst, stream, hrem, hp⟩) | hh
    · exact .inr (.inl (hclient hp))
    · exact .inr (.inr (.inl hst))
    · exact .inr (.inr (.inr ⟨hst, stream, hrem, hremote hst stream hrem hp⟩))
    · exact .inl hh
  · obtain ⟨stream, hrem, -⟩ := hl.shaped.connected hst
    refine ⟨stream, hrem, ?_⟩
    rcases hr with hex | ⟨found, hfound, hh⟩
    · rcases hex.tunnel hst hrem with hp | hp
      · exact .inr (.inr (hclient hp))
      · exact .inr (.inl (hremote hst stream hrem hp))
    · rw [hrem] at hfound
      cases hfound
      exact .inl hh
  · obtain ⟨hsteps, hserved, hserved'⟩ := turn_steps hl.shaped hrun
    exact ⟨hsteps.clientAwake rfl hl.shaped, hsteps.remoteAwake rfl, hserved, hserved'⟩

end

/-- Behind data of the remote side that the client has taken, nothing excuses either side. -/
theorem keyholder_loses_no_wakeup :
    ∃ h s stream, Life ⟨lockedSettings, none, 9⟩ h s ∧ s.stage = .connected ∧
      s.remoteStream? = some stream ∧ h.Heeded .client s.client.stream.socket ∧
      h.Heeded .remote stream.socket := by
  obtain ⟨h, s, hl, hx⟩ := exists_life_of_rehearse ⟨lockedSettings, none, 9⟩
    (.between keyholderReads [[7, 8]])
    (handshake 3 ++ [attemptDone, (.remote, { readable := true })])
    (fun h s => s.stage = .connected ∧ s.client.stream.hasPending = false ∧
      s.remoteStream?.any (·.hasPending) = false ∧ Transcript.read .remote h.calls = [7, 8])
    (by decide +kernel)
  obtain ⟨hst, hp, hp', -⟩ := of_decide_eq_true hx
  obtain ⟨hc, hr, -⟩ := no_lost_wakeup hl
  obtain ⟨stream, hrem, hr⟩ := hr hst
  rw [hrem] at hp'
  have hflushing {stream : Stream} (hp : stream.hasPending = false) : ¬ h.Flushing stream :=
    fun hf => nomatch hp.symm.trans hf.1
  refine ⟨h, s, stream, hl, hst, hrem, ?_, ?_⟩
  · rcases hc with hh | hf | hst' | ⟨-, found, hfound, hf⟩
    · exact hh
    · exact absurd hf (hflushing hp)
    · rw [hst] at hst'
      nomatch hst'
    · rw [hrem] at hfound
      cases hfound
      exact absurd hf (hflushing hp')
  · rcases hr with hh | hf | hf
    · exact hh
    · exact absurd hf (hflushing hp')
    · exact absurd hf (hflushing hp)

end SocksProxy
