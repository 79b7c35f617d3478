/-
  How the poller watches the streams of a session.

  A stream knows the interest that the poller holds for it. Behind every step that the session survives
  this interest fits its schedule: to write while bytes are scheduled, else to read. The stream of an
  attempt is the exception, it waits for the attempt.

  * `Session.Tended`: the poller holds what the streams know, `Step.tended`;
  * `Session.Fitting`: that is what they are to be watched for, `Step.fitting`;
  * `watched_invariant` says both of every session.
-/
import SocksProxy.Proofs.Invariant

namespace SocksProxy

open Dialogue

/-- The poller holds the interest that the stream knows. -/
def Stream.Tended (calls : Transcript) (stream : Stream) : Prop :=
  Transcript.interest stream.socket none calls = some stream.interest

/-- A call that does not change how the poller watches any socket. -/
def Verb.IsStill (v : Verb) : Prop :=
  ∀ socket, v.registers socket = false

namespace Stream

variable {stream stream' : Stream} {before es : Transcript} {data : Bytes} {α : Type}
  {q : Except IoError α}

theorem Tended.worked (h : stream.Tended before) (hw : stream.Worked data es q stream') :
    stream'.Tended (before ++ es) := by
  rw [Tended, Transcript.interest_append, hw.socket, h, hw.watched]

theorem Tended.leave (h : stream.Tended before)
    (hes : Transcript.All (fun v => v.registers stream.socket = false) es) :
    stream.Tended (before ++ es) := by
  rw [Tended, Transcript.interest_append, Transcript.interest_of_all hes, h]

theorem Tended.still (h : stream.Tended before) (hes : Transcript.All Verb.IsStill es) :
    stream.Tended (before ++ es) :=
  h.leave (hes.imp fun _ hv => hv _)

end Stream

namespace Transcript

variable {es : Transcript}

theorem still_of_aside (h : All (· = .aside) es) : All Verb.IsStill es :=
  h.imp fun v hv => by rw [hv]; exact fun _ => rfl

theorem still_of_receive {socket : Socket} (h : All (· = .receive socket) es) :
    All Verb.IsStill es :=
  h.imp fun v hv => by rw [hv]; exact fun _ => rfl

end Transcript

/-! ## The invariant -/

/-- The poller holds the interests that the streams of the session know. -/
structure Session.Tended (before : Transcript) (s : Session) : Prop where
  client : s.client.stream.Tended before
  remote : ∀ stream, s.remoteStream? = some stream → stream.Tended before

/-- The streams of the session are to be watched as their schedules ask for, and an attempt for its
    end. -/
structure Session.Fitting (s : Session) : Prop where
  clientFits : s.client.stream.Fits
  remoteWaits : s.stage = .connecting → ∀ stream, s.remoteStream? = some stream →
    stream.interest = .write
  remoteFits : s.stage = .connected → ∀ stream, s.remoteStream? = some stream → stream.Fits

/-- Both streams are watched, with the interest that fits their schedules. -/
structure Watched (before : Transcript) (s : Session) : Prop extends
  Session.Tended before s, Session.Fitting s

section
variable {s s' : Session} {before es es₁ es₂ : Transcript} {data : Bytes} {α : Type}
  {q : Except IoError α}

/-- Only tunnels have a remote stream. -/
theorem Session.Shaped.remoteStream?_eq_none (hs : s.Shaped) (h : s.stage ≠ .connecting)
    (hc : s.stage ≠ .connected) : s.remoteStream? = none := by
  have hh := hs.holds
  have hnone (hrem : s.remote = none) : s.remoteStream? = none := by
    rw [remoteStream?, outgoing?, hrem]
    rfl
  cases hst : s.stage with
  | accepted | authRequested | authenticated =>
    exact hnone ((Session.holds_handshake (by rw [hst]; rfl)).1 hh).2.1
  | resolving => exact hnone ((Session.holds_resolving hst).1 hh).1
  | connecting => exact absurd hst h
  | connected => exact absurd hst hc
  | associated =>
    obtain ⟨-, -, -, socket, hrem⟩ := (Session.holds_associated hst).1 hh
    rw [remoteStream?, outgoing?, hrem]
    rfl

theorem Session.Shaped.remote_role {stream : Stream} (hs : s.Shaped)
    (hrem : s.remoteStream? = some stream) : stream.socket.role = .remote := by
  by_cases h : s.stage = .connecting
  · obtain ⟨out, ho, hstream⟩ := Session.remoteStream?_eq_some.1 hrem
    exact (hs.connecting h ho hstream).1
  · by_cases hc : s.stage = .connected
    · exact hs.connected_role hc hrem
    · rw [hs.remoteStream?_eq_none h hc] at hrem
      nomatch hrem

theorem Session.Shaped.socket_ne {stream : Stream} (hs : s.Shaped)
    (hrem : s.remoteStream? = some stream) : s.client.stream.socket ≠ stream.socket := by
  intro h
  have hrole := hs.remote_role hrem
  rw [← h, hs.client] at hrole
  nomatch hrole

theorem Session.Shaped.leave_offStream (hs : s.Shaped) (h : Transcript.All Verb.IsOffStream es) :
    Transcript.All (fun v => v.registers s.client.stream.socket = false) es :=
  h.imp fun _ hv => hv.registers (by rw [hs.client])

namespace Session

namespace Tended

/-- The poller is not spoken to, and the streams are the same. -/
theorem still (h : s.Tended before) (hes : Transcript.All Verb.IsStill es)
    (hc : s'.client = s.client) (hr : s'.remoteStream? = s.remoteStream?) :
    s'.Tended (before ++ es) where
  client := by
    rw [hc]
    exact h.client.still hes
  remote stream hs := (h.remote stream (hr ▸ hs)).still hes

/-- There is no remote stream, or not any more. -/
theorem alone (h : s.Tended before)
    (hes : Transcript.All (fun v => v.registers s.client.stream.socket = false) es)
    (hc : s'.client = s.client) (hr : s'.remoteStream? = none) : s'.Tended (before ++ es) where
  client := by
    rw [hc]
    exact h.client.leave hes
  remote stream hs := by
    rw [hr] at hs
    nomatch hs

/-- The stream of the client is worked on. -/
theorem workClient (h : s.Tended before) (hs : s.Shaped)
    (hw : s.client.stream.Worked data es q s'.client.stream)
    (hr : s'.remoteStream? = s.remoteStream?) : s'.Tended (before ++ es) where
  client := h.client.worked hw
  remote stream hstream := by
    rw [hr] at hstream
    exact (h.remote stream hstream).leave
      (hw.calls.imp fun _ hv => hv.registers (hs.socket_ne hstream))

/-- The remote stream is worked on. -/
theorem workRemote {stream stream' : Stream} (h : s.Tended before) (hs : s.Shaped)
    (hrem : s.remoteStream? = some stream) (hw : stream.Worked data es q stream')
    (hc : s'.client = s.client) (hr : s'.remoteStream? = some stream') :
    s'.Tended (before ++ es) where
  client := by
    rw [hc]
    exact h.client.leave (hw.calls.imp fun _ hv => hv.registers (hs.socket_ne hrem).symm)
  remote found hfound := by
    rw [hr] at hfound
    cases hfound
    exact (h.remote stream hrem).worked hw

/-- The stream of an attempt is put into service. -/
theorem started {stream stream' : Stream} {early : Bytes} (h : s.Tended before) (hs : s.Shaped)
    (hrem : s.remoteStream? = some stream) (hes : Transcript.All Verb.IsStill es₁)
    (hw : (stream.queue early).Worked data es₂ q stream') :
    s.client.stream.Tended (before ++ es₁ ++ es₂) ∧ stream'.Tended (before ++ es₁ ++ es₂) := by
  have hqueued : (stream.queue early).Tended before := h.remote stream hrem
  refine ⟨(h.client.still hes).leave ?_, (hqueued.still hes).worked hw⟩
  exact hw.calls.imp fun _ hv => hv.registers (hs.socket_ne hrem).symm

/-- The stream of an attempt is put into service, and the client is told. -/
theorem announced {β : Type} {es₃ es₄ : Transcript} {said : Bytes} {stream stream' client : Stream}
    {early : Bytes} {q' : Except IoError β} (h : s.Tended before) (hs : s.Shaped)
    (hrem : s.remoteStream? = some stream) (hes : Transcript.All Verb.IsStill es₁)
    (hw : (stream.queue early).Worked data es₂ q stream') (hes' : Transcript.All Verb.IsStill es₃)
    (hw' : s.client.stream.Worked said es₄ q' client) :
    client.Tended (before ++ es₁ ++ es₂ ++ es₃ ++ es₄) ∧
      stream'.Tended (before ++ es₁ ++ es₂ ++ es₃ ++ es₄) := by
  have hne : s.client.stream.socket ≠ stream.socket := hs.socket_ne hrem
  obtain ⟨hclient, hremote⟩ := h.started hs hrem hes hw
  refine ⟨(hclient.still hes').worked hw', (hremote.still hes').leave ?_⟩
  rw [hw.socket]
  exact hw'.calls.imp fun _ hv => hv.registers hne

/-- Calls that no stream takes part in, while there is no remote stream. -/
theorem offStream (h : s.Tended before) (hs : s.Shaped) (hes : Transcript.All Verb.IsOffStream es)
    (hc : s.stage ≠ .connecting) (hc' : s.stage ≠ .connected) (hp : s'.client = s.client)
    (hr : s'.remoteStream? = s.remoteStream?) : s'.Tended (before ++ es) :=
  h.alone (hs.leave_offStream hes) hp (hr.trans (hs.remoteStream?_eq_none hc hc'))

end Tended

/-- The stage and the remote stream are the same. -/
theorem Fitting.same (h : s.Fitting) (hc : s'.client.stream.Fits)
    (hr : s'.remoteStream? = s.remoteStream?) (hst : s'.stage = s.stage) : s'.Fitting where
  clientFits := hc
  remoteWaits hst' stream hs := h.remoteWaits (hst ▸ hst') stream (hr ▸ hs)
  remoteFits hst' stream hs := h.remoteFits (hst ▸ hst') stream (hr ▸ hs)

/-- The remote stream of a tunnel is another one. -/
theorem Fitting.tunnel {stream stream' : Stream} (h : s.Fitting) (hst : s.stage = .connected)
    (hrem : s.remoteStream? = some stream) (hf : stream'.Fits) :
    (s.withRemoteStream stream').Fitting where
  clientFits := by
    rw [withRemoteStream_client]
    exact h.clientFits
  remoteWaits hst' := by
    rw [withRemoteStream_stage, hst] at hst'
    nomatch hst'
  remoteFits _ found hfound := by
    rw [withRemoteStream_remoteStream? _ hrem] at hfound
    cases hfound
    exact hf

end Session

end

/-! ## Steps -/

variable {ctx : Context} {origin : Stage} {s s' : Session} {before es : Transcript}
  {r : Except SessionError Unit}

/-- A candidate is opened or closed. -/
theorem Session.Shaped.leave_setup {socket : Socket} (hs : s.Shaped) (hr : socket.role = .remote)
    (h : Transcript.All (Verb.IsSetup socket) es) :
    Transcript.All (fun v => v.registers s.client.stream.socket = false) es :=
  h.imp fun _ hv => hv.registers (by rintro rfl; rw [hs.client] at hr; nomatch hr)

/-- Whatever becomes of a step, the poller holds what the streams know. -/
theorem Step.tended (h : Step ctx origin s es r s') (hs : s.Shaped) (ht : s.Tended before) :
    s'.Tended (before ++ es) := by
  cases h with
  | aside h | ended _ h => exact ht.still (Transcript.still_of_aside h) rfl rfl
  | cut => exact ht.still Transcript.all_nil rfl rfl
  | clientPolled _ _ h | heard _ _ h | discarded _ _ h =>
    exact ht.still (Transcript.still_of_receive (Stream.receive_all h)) rfl rfl
  | remotePolled _ _ _ h =>
    exact ht.still (Transcript.still_of_receive (Stream.receive_all h)) rfl rfl
  | clientFlushed h => exact ht.workClient hs h.worked rfl
  | clientResumed h => exact ht.workClient hs (Stream.resume_cases h).1 rfl
  | answered _ h₁ h₂ | unanswered _ h₁ h₂ =>
    rw [← List.append_assoc]
    exact (ht.still (Transcript.still_of_aside h₁) rfl rfl).workClient hs h₂.worked rfl
  | @farewell es₁ es₂ _ _ _ _ _ stream _ _ h₁ h₂ h₃ =>
    have hsent : (s.withClientStream stream).Tended (before ++ es₁ ++ es₂) :=
      (ht.still (Transcript.still_of_aside h₁) rfl rfl).workClient hs (Stream.send_cases h₂).1 rfl
    rw [← List.append_assoc, ← List.append_assoc]
    exact hsent.still (Transcript.still_of_aside h₃) rfl rfl
  | queried hst h =>
    rcases hst with hst | hst <;>
      exact ht.offStream hs h (by rw [hst]; nofun) (by rw [hst]; nofun) rfl rfl
  | lookupStarted hst _ _ _ h | lookupsClosed hst h | datagrams hst _ h =>
    exact ht.offStream hs h (by rw [hst]; nofun) (by rw [hst]; nofun) rfl rfl
  | connectStarted hreq => exact ht.alone Transcript.all_nil (hreq.frame hs).1 rfl
  | attemptStarted _ _ h =>
    obtain ⟨hall, hnew⟩ := Talk.openStream_cases h
    obtain ⟨rfl, hi⟩ := hnew _ rfl
    refine ⟨ht.client.leave (hs.leave_setup rfl hall), ?_⟩
    rintro _ ⟨⟩
    rw [Stream.Tended, Transcript.interest_append]
    exact hi _
  | attemptFailed _ _ h =>
    exact ht.alone (hs.leave_setup rfl (Talk.openStream_cases h).1) rfl rfl
  | @abandoned _ out _ hst hrem hsome hnone =>
    refine ht.alone ?_ rfl rfl
    cases hout : out.stream with
    | none => exact hnone hout ▸ Transcript.all_nil
    | some stream =>
      exact hs.leave_setup (hs.connecting hst hrem hout).1
        ((Talk.close_all (hsome stream hout)).imp fun _ hv => hv.imp_right .inr)
  | unbound _ hrem hout h₁ h₂ =>
    have hrem' := Session.remoteStream?_eq_some.2 ⟨_, hrem, hout⟩
    refine ⟨ht.client.still (Transcript.still_of_aside ((Talk.peerOf_all h₁).append h₂)), ?_⟩
    rintro _ ⟨⟩
    exact (ht.remote _ hrem').still (Transcript.still_of_aside ((Talk.peerOf_all h₁).append h₂))
  | unstarted _ hrem hout h₁ h₂ h₃ =>
    obtain ⟨hclient, hremote⟩ := ht.started hs (Session.remoteStream?_eq_some.2 ⟨_, hrem, hout⟩)
      (Transcript.still_of_aside ((Talk.peerOf_all h₁).append h₂)) h₃.worked
    rw [← List.append_assoc]
    exact ⟨hclient, by rintro _ ⟨⟩; exact hremote⟩
  | established _ hrem hout h₁ h₂ h₃ h₄ h₅ =>
    obtain ⟨hclient, hremote⟩ := ht.announced hs (Session.remoteStream?_eq_some.2 ⟨_, hrem, hout⟩)
      (Transcript.still_of_aside ((Talk.peerOf_all h₁).append h₂)) h₃.worked
      (Transcript.still_of_aside h₄) h₅.worked
    rw [← List.append_assoc, ← List.append_assoc, ← List.append_assoc]
    exact ⟨hclient, by rintro _ ⟨⟩; exact hremote⟩
  | relayedUp _ hst hrem _ h₁ h₂ =>
    rw [← List.append_assoc]
    exact (ht.still (Transcript.still_of_receive (Stream.receive_all h₁)) rfl rfl).workRemote hs
      hrem h₂.worked Session.withRemoteStream_client (Session.withRemoteStream_remoteStream? _ hrem)
  | relayedDown hst hrem _ h₁ h₂ =>
    rw [← List.append_assoc]
    exact (ht.still (Transcript.still_of_receive (Stream.receive_all h₁)) rfl rfl).workClient hs
      h₂.worked rfl
  | @clientDrained es₁ _ _ _ client _ hst hrem h₁ h₂ =>
    have hdrained : (s.withClientStream client).Tended (before ++ es₁) :=
      ht.workClient hs h₁.worked rfl
    rw [← List.append_assoc]
    exact hdrained.workRemote (hs.withClientStream h₁.worked.socket) hrem (Stream.resume_cases h₂).1
      Session.withRemoteStream_client (Session.withRemoteStream_remoteStream? _ hrem)
  | remoteFlushed _ hrem h =>
    exact ht.workRemote hs hrem h.worked Session.withRemoteStream_client
      (Session.withRemoteStream_remoteStream? _ hrem)
  | @remoteDrained es₁ _ _ stream' _ _ hst hrem h₁ h₂ =>
    have hdrained : (s.withRemoteStream stream').Tended (before ++ es₁) :=
      ht.workRemote hs hrem h₁.worked Session.withRemoteStream_client
        (Session.withRemoteStream_remoteStream? _ hrem)
    have hwork := (Stream.resume_cases h₂).1
    rw [← Session.withRemoteStream_client (s := s)] at hwork
    rw [← List.append_assoc, ← Session.withRemoteStream_withClientStream]
    exact hdrained.workClient (hs.withRemoteStream hst hrem h₁.worked.socket) hwork rfl
  | @unassociated _ s₁ relay _ hreq h =>
    obtain ⟨hclient, -, hrem, -⟩ := hreq.frame hs
    refine ht.alone (hs.leave_offStream h) hclient ?_
    show Session.remoteStream? s₁ = none
    rw [Session.remoteStream?, Session.outgoing?, hrem]
    rfl
  | associated hreq h₁ h₂ =>
    have hclient := (hreq.frame hs).1
    rw [hclient] at h₂
    rw [← List.append_assoc]
    refine ⟨(ht.client.leave (hs.leave_offStream h₁)).worked h₂.worked, ?_⟩
    rintro _ ⟨⟩

theorem Step.fitting (h : Step ctx origin s es r s') (hr : r = .ok ()) (hs : s.Shaped)
    (hf : s.Fitting) : s'.Fitting := by
  cases h with
  | aside | clientPolled | remotePolled | queried | discarded => exact hf
  | ended | cut | unanswered | farewell | unbound | unstarted | unassociated => nomatch hr
  | heard | lookupsClosed | datagrams => exact hf.same hf.clientFits rfl rfl
  | clientFlushed h =>
    obtain ⟨f, rfl⟩ := verdict_eq_ok hr
    have hfits : Stream.Fits _ := match f, h with
      | .drained, h => h.drained.1.fits
      | .pending, h => h.pending_staysAwake.1.fits hf.clientFits
    exact hf.same hfits rfl rfl
  | clientResumed h =>
    obtain ⟨_, rfl⟩ := verdict_eq_ok hr
    exact hf.same ((Stream.resume_cases h).2.2.2 rfl).fits rfl rfl
  | answered ha _ h =>
    have hnext := ha.isHandshake.2
    refine ⟨h.staysAwake.fits hf.clientFits, fun hst => ?_, fun hst => ?_⟩ <;>
    · cases hst
      nomatch hnext
  | lookupStarted => exact ⟨hf.clientFits, nofun, nofun⟩
  | connectStarted hreq =>
    refine ⟨?_, fun _ _ => nofun, nofun⟩
    show Stream.Fits _
    rw [(hreq.frame hs).1]
    exact hf.clientFits
  | attemptStarted hst _ h =>
    obtain ⟨rfl, -⟩ := (Talk.openStream_cases h).2 _ rfl
    refine ⟨hf.clientFits, by rintro - _ ⟨⟩; rfl, fun hc => ?_⟩
    nomatch hst.symm.trans hc
  | attemptFailed hst | abandoned hst =>
    refine ⟨hf.clientFits, nofun, fun hc => ?_⟩
    nomatch hst.symm.trans hc
  | established _ _ _ _ _ h₁ _ h₂ =>
    obtain ⟨_, rfl⟩ := verdict_eq_ok hr
    refine ⟨h₂.wakes.fits, nofun, ?_⟩
    rintro - _ ⟨⟩
    exact h₁.wakes.fits
  | relayedUp _ hst hrem _ _ h =>
    obtain ⟨_, rfl⟩ := verdict_eq_ok hr
    exact hf.tunnel hst hrem (h.staysAwake.fits (hf.remoteFits hst _ hrem))
  | relayedDown _ _ _ _ h =>
    obtain ⟨_, rfl⟩ := verdict_eq_ok hr
    exact hf.same (h.staysAwake.fits hf.clientFits) rfl rfl
  | @clientDrained _ _ _ _ client _ hst hrem h₁ h₂ =>
    obtain ⟨_, rfl⟩ := verdict_eq_ok hr
    have hdrained : (s.withClientStream client).Fitting := hf.same h₁.drained.1.fits rfl rfl
    exact hdrained.tunnel hst hrem ((Stream.resume_cases h₂).2.2.2 rfl).fits
  | remoteFlushed hst hrem h hx =>
    obtain ⟨f, rfl⟩ := verdict_eq_ok hr
    have hfits : Stream.Fits _ := match f, h, hx with
      | .drained, _, hx => absurd rfl hx
      | .pending, h, _ => h.pending_staysAwake.1.fits (hf.remoteFits hst _ hrem)
    exact hf.tunnel hst hrem hfits
  | @remoteDrained _ _ _ _ client _ hst hrem h₁ h₂ =>
    obtain ⟨_, rfl⟩ := verdict_eq_ok hr
    have hresumed : (s.withClientStream client).Fitting :=
      hf.same ((Stream.resume_cases h₂).2.2.2 rfl).fits rfl rfl
    exact hresumed.tunnel hst hrem h₁.drained.1.fits
  | associated hreq _ h =>
    obtain ⟨_, rfl⟩ := verdict_eq_ok hr
    rw [(hreq.frame hs).1] at h
    exact ⟨h.staysAwake.fits hf.clientFits, nofun, nofun⟩

theorem Transcript.Opens.interest (h : Transcript.Opens es) :
    Transcript.interest ⟨.client, 0⟩ none es = some .read := by
  obtain ⟨es₁, rfl, h₁⟩ := h
  rw [Transcript.interest_append,
    Transcript.interest_of_all (h₁.imp fun v hv => by rw [hv]; rfl), Transcript.interest_cons]
  rfl

theorem watched_invariant :
    Invariant ctx (fun h s => Watched h.calls s) (fun _ _ => True) where
  fresh hopens := by
    rw [← List.nil_append (History.turn _ _), History.calls_append, History.calls_turn]
    exact ⟨⟨hopens.interest, nofun⟩, ⟨rfl, nofun, nofun⟩⟩
  event hi := by
    rw [History.calls_event]
    exact hi
  goes hs hi h := by
    rw [History.calls_append, History.calls_turn]
    exact ⟨h.tended hs hi.toTended, h.fitting rfl hs hi.toFitting⟩
  ends _ _ _ := trivial
  stops _ := trivial
  closes _ _ := trivial

end SocksProxy
