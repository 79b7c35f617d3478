/-
  What the poller is to report of a stream.

  A stream with bytes scheduled waits for room and a stream without for something to read; the stream of
  an attempt waits for the end of the attempt. The poller reports a change once, so it is not enough that
  it watches for room: since it last reported room, the socket has to have refused bytes, or to be
  registered anew.

  * `Transcript.parks`: the calls let the poller report room of the socket again;
  * `Step.clientParks` and `Step.remoteParks`: a step that leaves bytes scheduled found some scheduled, or
    lets the poller report room again;
  * `Handler.onClient_parks` and `Handler.onTunnel_parks`: what is left behind a report of room was
    refused;
  * **`interest_follows_schedule`**.
-/
import SocksProxy.Proofs.Progress
import SocksProxy.Proofs.Rehearsal
import SocksProxy.Proofs.Watch

namespace SocksProxy

open Dialogue

/-! ## Reports of room -/

/-- Whether the poller will report room of the socket from now on: the socket has refused bytes, or it is
    registered anew for writing. -/
def SessionEvent.isParking (s : Socket) : SessionEvent → Bool
  | ⟨.send t _, .error e⟩ => t = s ∧ e.isWouldBlock
  | ⟨.register t i, .ok ()⟩ | ⟨.reregister t i, .ok ()⟩ => t = s ∧ i = .write
  | _ => false

/-- Whether one of the calls lets the poller report room of the socket. -/
def Transcript.parks (s : Socket) (es : Transcript) : Bool :=
  es.any (SessionEvent.isParking s)

@[simp] theorem Transcript.parks_append {s : Socket} {es es' : Transcript} :
    parks s (es ++ es') = (parks s es || parks s es') :=
  List.any_append

/-- Whether a report of room is still to come from the socket, which has the role: an entry changes what
    was known. -/
def Entry.reportDue (role : Role) (socket : Socket) (due : Bool) : Entry → Bool
  | event role' r => due && !(role' = role ∧ r.writable)
  | call _ e => due || e.isParking socket

namespace History

variable {h : History} {role role' : Role} {socket : Socket} {r : Readiness} {stage : Stage}
  {es : Transcript}

/-- Since the poller has last reported room of the socket, which has the role, the socket has refused
    bytes or was registered anew for writing. -/
def reportDue (role : Role) (socket : Socket) (h : History) : Bool :=
  h.foldl (Entry.reportDue role socket) false

@[simp] theorem reportDue_event :
    reportDue role socket (h ++ [.event role' r]) =
      (h.reportDue role socket && !(role' = role ∧ r.writable)) :=
  List.foldl_append

@[simp] theorem reportDue_turn :
    reportDue role socket (h ++ turn stage es) =
      (h.reportDue role socket || Transcript.parks socket es) := by
  induction es generalizing h with
  | nil => simp [turn, Transcript.parks]
  | cons e es ih =>
    have hfirst : reportDue role socket (h ++ [.call stage e]) =
        (h.reportDue role socket || e.isParking socket) := List.foldl_append
    calc reportDue role socket (h ++ turn stage (e :: es))
        = reportDue role socket ((h ++ [.call stage e]) ++ turn stage es) := by simp [turn]
      _ = (h.reportDue role socket || Transcript.parks socket (e :: es)) := by
          rw [ih, hfirst, Bool.or_assoc]
          rfl

end History

/-! ## Streams -/

namespace Stream

variable {turns : Nat} {s s' : Stream} {data : Bytes} {es : Transcript}

/-- What is left of an offer was refused. -/
theorem parks_of_offers {socket : Socket} {rest : Bytes} {ws : List Writer.Event}
    (h : Schedule.Offers data ws (.ok rest)) (hrest : rest ≠ []) :
    Transcript.parks socket (ws.map (SessionEvent.onStream socket)) = true := by
  generalize hr : (.ok rest : Except IoError Bytes) = r at h
  have hbehind {w : Writer.Event} {ws : List Writer.Event}
      (h : Transcript.parks socket (ws.map (SessionEvent.onStream socket)) = true) :
      Transcript.parks socket ((w :: ws).map (SessionEvent.onStream socket)) = true :=
    Bool.or_eq_true_iff.2 (.inr h)
  induction h with
  | took _ _ ih | interrupted _ _ _ ih => exact hbehind (ih hr)
  | full _ hw =>
    simp [Transcript.parks, SessionEvent.isParking, SessionEvent.onStream, hw]
  | done =>
    cases hr
    exact absurd rfl hrest
  | refused | failed => cases hr

/-- Bytes that a successful send or flush leaves scheduled, having offered some, were refused. -/
theorem parks_of_leaves {socket : Socket} {f : Flush} {outbound outbound' : Schedule}
    {ws : List Writer.Event} (h : outbound.Leaves data ws (.ok f) outbound')
    (hp : outbound'.pending ≠ []) :
    Transcript.parks socket (ws.map (SessionEvent.onStream socket)) = true := by
  cases h with
  | offered hoffers => exact parks_of_offers hoffers hp

theorem flush_parks {r : Except IoError Flush} (h : Run (s.flush turns) es (r, s'))
    (hr : r = .ok .pending) : Transcript.parks s.socket es = true := by
  subst hr
  have hp := hasPending_of_pending ((flush_cases h).2.2 _ rfl)
  obtain ⟨ws, outbound, rfl, rfl, hrun⟩ := flush_run h
  exact parks_of_leaves (Schedule.flush_run hrun) (hasPending_eq_true.1 hp)

theorem send_parks {r : Except IoError Flush} (h : Run (s.send turns data) es (r, s'))
    (hr : ∃ f, r = .ok f) (hp : s'.hasPending = true) :
    s.hasPending = true ∨ Transcript.parks s.socket es = true := by
  obtain ⟨f, rfl⟩ := hr
  obtain ⟨ws, outbound, rfl, rfl, hrun⟩ := send_run h
  rcases Schedule.send_run hrun with ⟨-, hleaves⟩ | ⟨hpending, -⟩
  · exact .inr (parks_of_leaves hleaves (hasPending_eq_true.1 hp))
  · exact .inl (hasPending_eq_true.2 hpending)

theorem resume_parks (h : Run s.resume es (.ok (), s')) (hp : s.hasPending = true) :
    Transcript.parks s.socket es = true := by
  obtain ⟨(a : Except IoError Unit), es', rfl, h'⟩ := run_ask_iff.1 h
  cases a with
  | ok _ =>
    have hw : s.fitting = .write := by rw [fitting, hp]; rfl
    simp [Transcript.parks, SessionEvent.isParking, hw]
  | error e => cases (run_done_iff.1 h').2

theorem Delivers.parks (h : Delivers turns s data es (.ok ()) s') (hp : s'.hasPending = true) :
    s.hasPending = true ∨ Transcript.parks s.socket es = true := by
  cases h with
  | drained h => exact send_parks h ⟨_, rfl⟩ hp
  | settled h₁ h₂ =>
    rw [hasPending_of_outbound (settle_cases h₂).2.1] at hp
    refine (send_parks h₁ ⟨_, rfl⟩ hp).imp_right fun h => ?_
    rw [Transcript.parks_append, h, Bool.true_or]

theorem Announces.parks (h : Announces turns s data es (.ok ()) s') (hp : s'.hasPending = true) :
    s.hasPending = true ∨ Transcript.parks s.socket es = true := by
  cases h with
  | resumed h₁ h₂ =>
    rw [hasPending_of_outbound (resume_cases h₂).2.1] at hp
    refine (h₁.parks hp).imp_right fun h => ?_
    rw [Transcript.parks_append, h, Bool.true_or]

theorem Starts.parks (h : Starts turns s es (.ok ()) s') (hp : s'.hasPending = true) :
    Transcript.parks s.socket es = true := by
  cases h with
  | resumed h₁ h₂ =>
    rw [hasPending_of_outbound (resume_cases h₂).2.1] at hp
    rw [Transcript.parks_append, ← (flush_cases h₁).1.socket, resume_parks h₂ hp, Bool.or_true]

/-- A flush that is made because there is room leaves bytes scheduled only if they were refused. -/
theorem Flushes.parks {x : Except IoError Flush} (h : Flushes turns s es x s')
    (hx : ∃ f, x = .ok f) (hp : s'.hasPending = true) : Transcript.parks s.socket es = true := by
  obtain ⟨f, rfl⟩ := hx
  cases f with
  | drained => rw [h.drained.2] at hp; nomatch hp
  | pending =>
    cases h with
    | pending h => exact flush_parks h rfl

end Stream

/-! ## Steps -/

/-- Bytes are scheduled for the remote side of a tunnel, on the socket. -/
def Session.RemotePending (socket : Socket) (s : Session) : Prop :=
  s.stage = .connected ∧ ∃ stream, s.remoteStream? = some stream ∧ stream.socket = socket ∧
    stream.hasPending = true

theorem Session.RemotePending.worked {s : Session} {socket : Socket} {stream stream' : Stream}
    (h : (s.withRemoteStream stream').RemotePending socket) (hrem : s.remoteStream? = some stream) :
    stream'.socket = socket ∧ stream'.hasPending = true := by
  obtain ⟨-, found, hfound, hsocket, hp⟩ := h
  rw [Session.withRemoteStream_remoteStream? _ hrem] at hfound
  cases hfound
  exact ⟨hsocket, hp⟩

variable {ctx : Context} {origin : Stage} {s s' : Session} {es : Transcript}
  {r : Except SessionError Unit} {socket : Socket}

theorem Step.clientParks (h : Step ctx origin s es r s') (hr : r = .ok ()) (hs : s.Shaped)
    (hp : s'.client.stream.hasPending = true) :
    s.client.stream.hasPending = true ∨ Transcript.parks ⟨.client, 0⟩ es = true := by
  rw [← hs.client]
  cases h with
  | aside | clientPolled | heard | remotePolled | discarded | queried | lookupStarted
  | lookupsClosed | attemptStarted | attemptFailed | abandoned | datagrams => exact .inl hp
  | ended | cut | unanswered | farewell | unbound | unstarted | unassociated => nomatch hr
  | clientFlushed h =>
    obtain ⟨f, rfl⟩ := verdict_eq_ok hr
    exact .inr (h.parks ⟨f, rfl⟩ hp)
  | clientResumed h =>
    exact .inl ((Stream.hasPending_of_outbound (Stream.resume_cases h).2.1).symm.trans hp)
  | answered _ _ h =>
    refine (h.parks hp).imp_right fun h => ?_
    rw [Transcript.parks_append, h, Bool.or_true]
  | connectStarted hreq => exact .inl ((congrArg (·.stream.hasPending) (hreq.frame hs).1).symm.trans hp)
  | established _ _ _ _ _ _ _ h =>
    obtain ⟨_, rfl⟩ := verdict_eq_ok hr
    refine (h.parks hp).imp_right fun h => ?_
    rw [Transcript.parks_append, h, Bool.or_true]
  | relayedUp => exact .inl (by rwa [Session.withRemoteStream_client] at hp)
  | relayedDown _ _ _ _ h =>
    obtain ⟨_, rfl⟩ := verdict_eq_ok hr
    refine (h.parks hp).imp_right fun h => ?_
    rw [Transcript.parks_append, h, Bool.or_true]
  | clientDrained _ _ h =>
    rw [Session.withRemoteStream_client, Session.withClientStream_stream, h.drained.2] at hp
    nomatch hp
  | remoteFlushed => exact .inl (by rwa [Session.withRemoteStream_client] at hp)
  | remoteDrained _ _ _ h =>
    rw [Session.withRemoteStream_client, Session.withClientStream_stream,
      Stream.hasPending_of_outbound (Stream.resume_cases h).2.1] at hp
    exact .inl hp
  | associated hreq _ h =>
    obtain ⟨_, rfl⟩ := verdict_eq_ok hr
    rw [(hreq.frame hs).1] at h
    refine (h.parks hp).imp_right fun h => ?_
    rw [Transcript.parks_append, h, Bool.or_true]

theorem Step.remoteParks (h : Step ctx origin s es r s') (hr : r = .ok ())
    (hp : s'.RemotePending socket) : s.RemotePending socket ∨ Transcript.parks socket es = true := by
  cases h with
  | aside | clientPolled | heard | remotePolled | discarded | clientFlushed | clientResumed | queried
  | lookupsClosed | relayedDown | datagrams => exact .inl hp
  | ended | cut | unanswered | farewell | unbound | unstarted | unassociated => nomatch hr
  | @answered _ _ _ _ next _ ha =>
    have hst : next = .connected := hp.1
    have hnext := ha.isHandshake.2
    rw [hst] at hnext
    nomatch hnext
  | lookupStarted | connectStarted | associated => nomatch hp.1
  | attemptStarted hst | attemptFailed hst | abandoned hst =>
    nomatch hst.symm.trans hp.1
  | established _ _ _ _ _ h =>
    obtain ⟨-, _, ⟨⟩, rfl, hp⟩ := hp
    refine .inr ?_
    rw [h.worked.socket]
    simp only [Transcript.parks_append, h.parks hp, Bool.true_or, Bool.or_true]
  | relayedUp _ hst hrem _ _ h =>
    obtain ⟨_, rfl⟩ := verdict_eq_ok hr
    obtain ⟨rfl, hleft⟩ := hp.worked hrem
    rw [h.worked.socket]
    refine (h.parks hleft).imp (fun hp => ⟨hst, _, hrem, rfl, hp⟩) fun h => ?_
    rw [Transcript.parks_append, h, Bool.or_true]
  | @clientDrained _ _ _ _ client _ hst hrem _ h =>
    obtain ⟨rfl, hleft⟩ := Session.RemotePending.worked (s := s.withClientStream client) hp hrem
    obtain ⟨hw, ho, -⟩ := Stream.resume_cases h
    exact .inl ⟨hst, _, hrem, hw.socket.symm, (Stream.hasPending_of_outbound ho).symm.trans hleft⟩
  | remoteFlushed hst hrem h =>
    obtain ⟨f, rfl⟩ := verdict_eq_ok hr
    obtain ⟨rfl, hleft⟩ := hp.worked hrem
    rw [h.worked.socket]
    exact .inr (h.parks ⟨f, rfl⟩ hleft)
  | @remoteDrained _ _ _ _ client _ hst hrem h =>
    have hp := (Session.RemotePending.worked (s := s.withClientStream client) hp hrem).2
    rw [h.drained.2] at hp
    nomatch hp

theorem Steps.clientParks (h : Steps ctx origin s es r s') (hr : r = .ok ()) (hs : s.Shaped)
    (hp : s'.client.stream.hasPending = true) :
    s.client.stream.hasPending = true ∨ Transcript.parks ⟨.client, 0⟩ es = true := by
  induction h with
  | nil => exact .inl hp
  | snoc h₁ h₂ ih =>
    rw [Transcript.parks_append, Bool.or_eq_true_iff, ← or_assoc]
    exact (h₂.clientParks hr (h₁.shaped rfl hs) hp).imp_left (ih rfl)

theorem Steps.remoteParks (h : Steps ctx origin s es r s') (hr : r = .ok ())
    (hp : s'.RemotePending socket) : s.RemotePending socket ∨ Transcript.parks socket es = true := by
  induction h with
  | nil => exact .inl hp
  | snoc _ h₂ ih =>
    rw [Transcript.parks_append, Bool.or_eq_true_iff, ← or_assoc]
    exact (h₂.remoteParks hr hp).imp_left (ih rfl)

/-! ## Reports of room that are heard -/

namespace Handler

variable {w : Work}

/-- What a flush leaves scheduled for the client was refused. -/
theorem flushClient_parks (hw : w.session.Shaped) :
    (flushClient ctx).Always w []
      (fun _ w' es' => w'.session.client.stream.hasPending = true →
        Transcript.parks ⟨.client, 0⟩ es' = true)
      (fun _ _ _ => True) := by
  rw [flushClient, always_bind, always_onClientStream]
  intro es₁ x client₁ h₁
  rcases x with e | _ | _
  · trivial
  · simp only
    rw [always_bind, always_onClientStream]
    intro es₂ r₂ client₂ h₂
    cases r₂ with
    | error e => trivial
    | ok _ =>
      have hdrained : client₂.hasPending = false := (Stream.Flushes.resumed h₁ h₂).drained.2
      simp only
      rw [always_bind, always_session]
      by_cases hst : w.session.stage = .connected
      · obtain ⟨stream, hrem, -⟩ := hw.connected hst
        simp only [Session.withClientStream_stage, hst, if_true]
        rw [always_bind]
        refine (always_onRemoteStream stream ?_).2 fun es₃ r₃ stream₃ h₃ => ?_
        · exact hrem
        cases r₃ with
        | error e => trivial
        | ok _ =>
          refine always_pure.2 fun hp => ?_
          rw [Session.withRemoteStream_client] at hp
          exact absurd hp (Bool.eq_false_iff.1 hdrained)
      · simp only [Session.withClientStream_stage, hst, if_false]
        exact always_pure.2 fun hp => absurd hp (Bool.eq_false_iff.1 hdrained)
  · refine always_pure.2 fun _ => ?_
    rw [← hw.client]
    exact Stream.flush_parks h₁ rfl

/-- Behind a report of room, what is scheduled for the client was refused. -/
theorem onClient_parks {r : Readiness} (hw : w.session.Shaped) (hr : r.writable = true) :
    (onClient ctx r).Always w []
      (fun _ w' es' => w'.session.client.stream.hasPending = true →
        Transcript.parks ⟨.client, 0⟩ es' = true)
      (fun _ _ _ => True) := by
  rw [onClient]
  by_cases he : r.error = true
  · rw [if_pos he, always_bind, always_session]
    exact (always_behindEvent (@Steps.nil ctx w.session.stage w.session)).imp
      (fun _ _ _ h => h) fun _ _ _ _ => trivial
  rw [if_neg he]
  by_cases hh : r.hangup = true
  · rw [if_pos hh, always_bind, always_fail]
    trivial
  rw [if_neg hh, if_pos hr, always_bind]
  refine ((flushClient_walks (@Steps.nil ctx w.session.stage w.session) hw).and
    (flushClient_parks hw)).imp ?_ fun _ _ _ _ => trivial
  rintro _ w₁ es₁ ⟨⟨hsteps, -, -⟩, hflushed⟩
  have hw₁ := hsteps.shaped rfl hw
  split
  · refine ((readClient_walks .nil hw₁ rfl).shift es₁).imp ?_ fun _ _ _ _ => trivial
    rintro _ w₂ _ ⟨es₂, rfl, hread, -⟩ hp
    rw [Transcript.parks_append, Bool.or_eq_true_iff]
    exact (hread.clientParks rfl hw₁ hp).imp_left hflushed
  · exact always_pure.2 hflushed

/-- Behind a report of room, what is scheduled for the remote side was refused. -/
theorem onTunnel_parks {r : Readiness} (hw : w.session.Shaped) (hst : w.session.stage = .connected)
    (hr : r.writable = true) :
    (onTunnel ctx r).Always w []
      (fun _ w' es' => w'.session.RemotePending socket → Transcript.parks socket es' = true)
      (fun _ _ _ => True) := by
  obtain ⟨stream, hrem, -⟩ := hw.connected hst
  rw [onTunnel, always_bind, always_session]
  simp only [hrem]
  by_cases he : r.error = true
  · rw [if_pos he]
    exact (always_behindEvent (@Steps.nil ctx w.session.stage w.session)).imp
      (fun _ _ _ h => h) fun _ _ _ _ => trivial
  rw [if_neg he]
  by_cases hh : r.hangup = true
  · rw [if_pos hh, always_bind, always_fail]
    trivial
  rw [if_neg hh, if_pos hr, always_bind, always_onRemoteStream _ hrem]
  -- Behind the flush only the pump is left.
  have hpump {w₁ : Work} {es₁ : Transcript}
      (hsteps : Steps ctx .connected w.session es₁ (.ok ()) w₁.session)
      (hst₁ : w₁.session.stage = .connected)
      (hflushed : w₁.session.RemotePending socket → Transcript.parks socket es₁ = true) :
      (if r.readable = true then pumpRemote ctx ctx.turns else pure () : Handler Unit).Always w₁ es₁
        (fun _ w' es' => w'.session.RemotePending socket → Transcript.parks socket es' = true)
        (fun _ _ _ => True) := by
    split
    · have hw₁ := hsteps.shaped rfl hw
      refine ((pumpRemote_walks (@Steps.nil ctx .connected w₁.session) hw₁ hst₁).shift es₁).imp ?_
        fun _ _ _ _ => trivial
      rintro _ w₂ _ ⟨es₂, rfl, hread, -⟩ hp
      rw [Transcript.parks_append, Bool.or_eq_true_iff]
      exact (hread.remoteParks rfl hp).imp_left hflushed
    · exact always_pure.2 hflushed
  intro es₁ x stream₁ h₁
  have hrem₁ := Session.withRemoteStream_remoteStream? stream₁ hrem
  have hst₁ : (w.session.withRemoteStream stream₁).stage = .connected :=
    Session.withRemoteStream_stage.trans hst
  rcases x with e | _ | _
  · trivial
  · simp only
    rw [always_bind, always_onRemoteStream stream₁ hrem₁]
    intro es₂ r₂ stream₂ h₂
    simp only [Session.withRemoteStream_withRemoteStream]
    cases r₂ with
    | error e => trivial
    | ok _ =>
      simp only
      rw [always_bind, always_onClientStream]
      intro es₃ r₃ client₃ h₃
      rw [Session.withRemoteStream_client] at h₃
      cases r₃ with
      | error e => trivial
      | ok _ =>
        have hflushes := Stream.Flushes.resumed h₁ h₂
        have hstep : Step ctx .connected w.session (es₁ ++ es₂ ++ es₃) (.ok ()) _ :=
          .remoteDrained hst hrem hflushes h₃
        rw [← Session.withRemoteStream_withClientStream] at hstep
        refine hpump (Steps.nil.snoc hstep) (Session.withRemoteStream_stage.trans hst) fun hp => ?_
        have hp : (w.session.withRemoteStream stream₂).RemotePending socket := hp
        exact absurd (hp.worked hrem).2 (Bool.eq_false_iff.1 hflushes.drained.2)
  · have hpending : (.ok .pending : Except IoError Flush) ≠ .ok .drained := fun h => by cases h
    refine hpump (Steps.nil.snoc (.remoteFlushed hst hrem (.pending h₁) hpending)) hst₁
      fun hp => ?_
    rw [← (hp.worked hrem).1, (Stream.flush_cases h₁).1.socket]
    exact Stream.flush_parks h₁ rfl

theorem onRemote_parks {r : Readiness} (hw : w.session.Shaped) (hst : w.session.stage = .connected)
    (hr : r.writable = true) :
    (onRemote ctx r).Always w []
      (fun _ w' es' => w'.session.RemotePending socket → Transcript.parks socket es' = true)
      (fun _ _ _ => True) := by
  obtain ⟨stream, hrem, -⟩ := hw.connected hst
  obtain ⟨out, hout, -⟩ := Session.remoteStream?_eq_some.1 hrem
  rw [onRemote, always_bind, always_session]
  simp only [hout, hst, reduceCtorEq, if_false]
  exact onTunnel_parks hw hst hr

end Handler

/-! ## Turns -/

section
variable {h : History} {role : Role} {readiness : Readiness} {ids ids' : Dns.QueryIds}

/-- Where bytes are scheduled the poller will report room. -/
structure Session.Awaited (h : History) (s : Session) : Prop where
  client : s.client.stream.hasPending = true → h.reportDue .client ⟨.client, 0⟩ = true
  remote : ∀ socket, s.RemotePending socket → h.reportDue .remote socket = true

theorem Session.Awaited.turn (ha : s.Awaited h) (hs : s.Shaped)
    (hrun : Run (Session.handle ctx role readiness ⟨s, ids⟩) es (true, ⟨s', ids'⟩)) :
    s'.Awaited (h ++ [.event role readiness] ++ History.turn s.stage es) where
  client hp := by
    rw [History.reportDue_turn, History.reportDue_event, Bool.or_eq_true_iff]
    by_cases hheard : role = .client ∧ readiness.writable = true
    · obtain ⟨rfl, hr⟩ := hheard
      exact .inr (Handler.onClient_parks hs hr es (.ok ()) _ (handle_goes hrun) hp)
    · refine ((turn_steps hs hrun).1.clientParks rfl hs hp).imp_left fun hp => ?_
      rw [ha.client hp, decide_eq_false hheard]
      rfl
  remote socket hp := by
    rw [History.reportDue_turn, History.reportDue_event, Bool.or_eq_true_iff]
    by_cases hheard : role = .remote ∧ readiness.writable = true
    · obtain ⟨rfl, hr⟩ := hheard
      by_cases hst : s.stage = .connected
      · exact .inr (Handler.onRemote_parks hs hst hr es (.ok ()) _ (handle_goes hrun) hp)
      · refine .inr (((turn_steps hs hrun).1.remoteParks rfl hp).resolve_left ?_)
        exact fun hp => hst hp.1
    · refine ((turn_steps hs hrun).1.remoteParks rfl hp).imp_left fun hp => ?_
      rw [ha.remote socket hp, decide_eq_false hheard]
      rfl

theorem Life.awaited (hl : Life ctx h s) : s.Awaited h := by
  induction hl with
  | start hrun =>
    obtain ⟨⟨localAddress, rfl⟩, -⟩ := start_cases hrun
    exact ⟨nofun, fun _ hp => nomatch hp.1⟩
  | turn hl hrun ih => exact ih.turn hl.shaped hrun

theorem Steps.tended {before : Transcript} (h : Steps ctx origin s es r s') (hs : s.Shaped)
    (ht : s.Tended before) : s'.Tended (before ++ es) := by
  induction h with
  | nil =>
    rw [List.append_nil]
    exact ht
  | snoc h₁ h₂ ih =>
    rw [← List.append_assoc]
    exact h₂.tended (h₁.shaped rfl hs) ih

/-- Also when it ends the session, a turn leaves the poller with what the streams know. -/
theorem Session.Tended.handle {before : Transcript} {goesOn : Bool} (ht : s.Tended before)
    (hs : s.Shaped) (hrun : Run (Session.handle ctx role readiness ⟨s, ids⟩) es (goesOn, ⟨s', ids'⟩)) :
    s'.Tended (before ++ es) := by
  cases goesOn with
  | true => exact (turn_steps hs hrun).1.tended hs ht
  | false =>
    obtain ⟨es₁, es₂, e, rfl, hsteps, hlog⟩ := turn_fails hs hrun
    rw [← List.append_assoc]
    exact (hsteps.tended hs ht).still (Transcript.still_of_aside hlog) rfl rfl

end

section
variable {h : History}

/-- The stream has the interest that its schedule asks for, and the poller holds it; where bytes are
    scheduled a report of room is to come. -/
structure Stream.Follows (role : Role) (h : History) (stream : Stream) : Prop where
  held : Transcript.interest stream.socket none h.calls = some stream.interest
  interest : stream.interest = if stream.outbound.pending = [] then .read else .write
  due : stream.outbound.pending ≠ [] → h.reportDue role stream.socket = true

theorem Stream.fitting_eq {stream : Stream} :
    stream.fitting = if stream.outbound.pending = [] then .read else .write := by
  by_cases hp : stream.outbound.pending = []
  · rw [fitting, hasPending_eq_false.2 hp, if_pos hp]
    rfl
  · rw [fitting, hasPending_eq_true.2 hp, if_neg hp]
    rfl

theorem Stream.Tended.follows {role : Role} {stream : Stream} (ht : stream.Tended h.calls)
    (hf : stream.Fits) (hdue : stream.hasPending = true → h.reportDue role stream.socket = true) :
    stream.Follows role h where
  held := ht
  interest := Eq.trans hf fitting_eq
  due hp := hdue (hasPending_eq_true.2 hp)

/-- **Interest follows the schedule.** Between two events the client and the remote side of a tunnel are
    watched for room if bytes are scheduled for them, and else for something to read; the stream of an
    attempt is watched for the end of the attempt. What is scheduled will be reported room for. Behind
    every event, also the one that ends the session, the poller holds what the streams know. -/
theorem interest_follows_schedule (hl : Life ctx h s) :
    s.client.stream.Follows .client h ∧
    (s.stage = .connecting → ∃ stream, s.remoteStream? = some stream ∧ stream.interest = .write ∧
      Transcript.interest stream.socket none h.calls = some .write) ∧
    (s.stage = .connected → ∃ stream, s.remoteStream? = some stream ∧ stream.Follows .remote h) ∧
    ∀ role readiness ids es goesOn s' ids',
      Run (Session.handle ctx role readiness ⟨s, ids⟩) es (goesOn, ⟨s', ids'⟩) →
        s'.Tended (h.calls ++ es) := by
  have hw := watched_invariant.life hl
  have ha := hl.awaited
  refine ⟨hw.client.follows hw.clientFits ?_, fun hst => ?_, fun hst => ?_, ?_⟩
  · rw [hl.shaped.client]
    exact ha.client
  · obtain ⟨-, -, -, out, stream, -, hout, hstream, -⟩ := hl.represented.connecting hst
    have hrem := Session.remoteStream?_eq_some.2 ⟨out, hout, hstream⟩
    have hwaits := hw.remoteWaits hst stream hrem
    exact ⟨stream, hrem, hwaits, hwaits ▸ hw.remote stream hrem⟩
  · obtain ⟨stream, hrem, -⟩ := hl.shaped.connected hst
    refine ⟨stream, hrem, (hw.remote stream hrem).follows (hw.remoteFits hst stream hrem) fun hp => ?_⟩
    exact ha.remote stream.socket ⟨hst, stream, hrem, rfl, hp⟩
  · intro role readiness ids es goesOn s' ids' hrun
    exact hw.toTended.handle hl.shaped hrun

end

/-- A client that takes nothing is watched for room when it is to be told its method, and the poller will
    report it. -/
theorem stalled_client_watched :
    ∃ h s, Life ⟨{}, none, 9⟩ h s ∧ s.client.stream.outbound.pending = [5, 0] ∧
      Transcript.interest s.client.stream.socket none h.calls = some .write ∧
      h.reportDue .client s.client.stream.socket = true := by
  obtain ⟨h, s, hl, hx⟩ := exists_life_of_rehearse ⟨{}, none, 9⟩ { hastyClient with window := 0 }
    (handshake 1 ++ [(.client, { writable := true })])
    (fun _ s => s.client.stream.outbound.pending = [5, 0]) (by decide +kernel)
  have hp : s.client.stream.outbound.pending = [5, 0] := of_decide_eq_true hx
  have hne : s.client.stream.outbound.pending ≠ [] := by rw [hp]; nofun
  obtain ⟨hfollows, -⟩ := interest_follows_schedule hl
  refine ⟨h, s, hl, hp, ?_, hfollows.due hne⟩
  rw [hfollows.held, hfollows.interest, if_neg hne]

end SocksProxy
