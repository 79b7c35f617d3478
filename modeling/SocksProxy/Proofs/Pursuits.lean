/-
  What becomes of a request whose addresses are known.

  * `Tries`: candidates are tried in order, and each fails at once;
  * `Proceeds`: so does a session until an attempt is under way or no candidate is left;
  * `Fulfils`: a request for a tunnel leads to attempts, one for an association to two sockets.
-/
import SocksProxy.Proofs.Candidates
import SocksProxy.Proofs.Inquiries
import SocksProxy.Proofs.Trail

namespace SocksProxy

open Dialogue

/-! ## Kinds of calls -/

/-- A call that opens no stream, and is not about a datagram socket. -/
def Verb.IsTunnel (v : Verb) : Prop :=
  (∀ s, v ≠ .connect s) ∧ ∀ s, v ≠ .datagram s

namespace Transcript

variable {es es' : Transcript} {s : Socket}

theorem tunnel_of_aside (h : All (· = .aside) es) : All Verb.IsTunnel es :=
  h.imp fun v hv => by rw [hv]; exact ⟨nofun, nofun⟩

theorem tunnel_of_work (h : All (Verb.IsWorkOn s) es) : All Verb.IsTunnel es :=
  h.imp fun v hv => by rcases hv with rfl | rfl <;> exact ⟨nofun, nofun⟩

theorem tunnel_of_receive (h : All (· = .receive s) es) : All Verb.IsTunnel es :=
  h.imp fun v hv => by rw [hv]; exact ⟨nofun, nofun⟩

/-- Nothing is sent on a stream or read from one. -/
def Quiet (es : Transcript) : Prop :=
  All (fun v => ∀ role, v.sends role = false ∧ v.receives role = false) es

theorem Quiet.append (h : Quiet es) (h' : Quiet es') : Quiet (es ++ es') :=
  All.append h h'

theorem Quiet.mute {role : Role} (h : Quiet es) : Mute role es :=
  h.imp fun _ hv => (hv role).1

theorem Quiet.deaf {role : Role} (h : Quiet es) : Deaf role es :=
  h.imp fun _ hv => (hv role).2

theorem quiet_of_aside (h : All (· = .aside) es) : Quiet es :=
  h.imp fun v hv _ => by rw [hv]; exact ⟨rfl, rfl⟩

theorem quiet_of_offStream (h : All Verb.IsOffStream es) : Quiet es :=
  h.imp fun _ hv _ => ⟨hv.sends, hv.receives⟩

theorem quiet_of_upkeep (h : All Verb.IsUpkeep es) : Quiet es :=
  h.imp fun _ hv _ => ⟨hv.sends, hv.receives⟩

theorem quiet_of_setup (h : All (fun v => ∃ s, Verb.IsSetup s v) es) : Quiet es :=
  h.imp fun _ ⟨_, hv⟩ _ => ⟨hv.sends, hv.receives⟩

/-- No attempt is made, and nothing is asked of a name server. -/
structure Minor (es : Transcript) : Prop where
  untried : ¬ Tried es
  asksNothing : AsksNothing es

theorem Minor.append (h : Minor es) (h' : Minor es') : Minor (es ++ es') :=
  ⟨fun ht => (tried_append.1 ht).elim h.untried h'.untried, h.asksNothing.append h'.asksNothing⟩

theorem minor_of_tunnel (h : All Verb.IsTunnel es) : Minor es := by
  refine ⟨?_, asksNothing_of_verbs (h.imp fun _ hv s hs => absurd hs (hv.2 s))⟩
  rintro ⟨e, he, socket, hv⟩
  exact (h e he).1 socket hv

theorem minor_of_aside (h : All (· = .aside) es) : Minor es :=
  minor_of_tunnel (tunnel_of_aside h)

theorem minor_of_offStream (h : All Verb.IsOffStream es) (hask : AsksNothing es) : Minor es :=
  ⟨not_tried_of_plain (plain_of_offStream h), hask⟩

theorem minor_of_upkeep (h : All Verb.IsUpkeep es) : Minor es :=
  ⟨not_tried_of_plain (plain_of_upkeep h), asksNothing_of_upkeep h⟩

theorem OfClient.minor (h : OfClient es) : Minor es := by
  refine ⟨?_, h.asksNothing⟩
  rintro ⟨e, he, socket, hv⟩
  exact h.not_connect e he socket hv

end Transcript

/-! ## Candidates -/

/-- The candidates of the attempts `a` are tried, and each fails at once, which leads to the second
    attempts. -/
inductive Tries (a : Attempts) : Transcript → Attempts → Prop where
  | nil : Tries a [] a
  | snoc {es es₁ es₂ es₃ : Transcript} {a' : Attempts} {target : Endpoint} {rest : List Endpoint}
      {e : IoError} :
      Tries a es a' → a'.remaining = target :: rest → es₁.Logs →
      es₂.Misfires ⟨.remote, a'.started⟩ target e → es₃.Logs →
      Tries a (es ++ (es₁ ++ es₂ ++ es₃)) ((a'.begin target rest).failed e)

theorem Tries.setup {a a' : Attempts} {es : Transcript} (h : Tries a es a') :
    es.All fun v => ∃ s, v.IsSetup s := by
  induction h with
  | nil => exact Transcript.all_nil
  | snoc _ _ h₁ h₂ h₃ ih =>
    have hlogs {es : Transcript} (h : es.Logs) : es.All fun v => ∃ s, v.IsSetup s :=
      h.aside.imp fun _ hv => ⟨⟨.client, 0⟩, .inl hv⟩
    exact ih.append (((hlogs h₁).append (h₂.setup.imp fun _ hv => ⟨_, hv⟩)).append (hlogs h₃))

/-- What becomes of the session, when no attempt is under way, with the candidates that are left. -/
inductive Proceeds (s : Session) (a : Attempts) (early : Bytes) :
    Transcript → Except SessionError Unit → Session → Prop where
  | opened {es es₁ es₂ : Transcript} {a' : Attempts} {target : Endpoint} {rest : List Endpoint}
      {stream : Stream} :
      Tries a es a' → a'.remaining = target :: rest → es₁.Logs →
      stream.socket = ⟨.remote, a'.started⟩ → es₂.Begins ⟨.remote, a'.started⟩ target →
      Proceeds s a early (es ++ (es₁ ++ es₂)) (.ok ())
        (s.withOutgoing ⟨a'.begin target rest, some stream, early⟩)
  | exhausted {es es₁ es₂ : Transcript} {a' : Attempts} {r : Except IoError Flush} {stream : Stream} :
      Tries a es a' → a'.remaining = [] →
      s.client.stream.Worked a'.failureReply.encode es₁ r stream → es₂.All (· = .aside) →
      Proceeds s a early (es ++ (es₁ ++ es₂)) (.error (.connect a'.failureText))
        ((s.withOutgoing ⟨a', none, early⟩).withClientStream stream)

/-- What becomes of a session that does what its client asked for. -/
inductive Fulfils (s : Session) :
    Intent → List Endpoint → Transcript → Except SessionError Unit → Session → Prop where
  | connect {candidates : List Endpoint} {es : Transcript} {r : Except SessionError Unit}
      {s' : Session} :
      Proceeds { s with
        stage := .connecting
        inbound := []
        remote := some (.stream ⟨Attempts.new candidates, none, s.inbound⟩) }
        (Attempts.new candidates) s.inbound es r s' →
      Fulfils s .connect candidates es r s'
  | associate {candidates : List Endpoint} {es : Transcript} {r : Except SessionError Unit}
      {s' : Session} :
      es.Minor → (r = .ok () → s'.Associates) → (∀ e, r = .error e → e.IsFinal) →
      Fulfils s .associate candidates es r s'

/-- What becomes of a session when the attempt of the stream is looked at. -/
inductive Attempted (s : Session) (r : Readiness) (out : Outgoing) (stream : Stream) :
    Transcript → Except SessionError Unit → Session → Prop where
  | waits {es : Transcript} :
      es.Looks stream.socket (.ok none) → r.isFatal = false →
      Attempted s r out stream es (.ok ()) s
  | breaks {es es₁ es₂ es₃ : Transcript} {why : IoError} {x : Except SessionError Unit}
      {s' : Session} :
      es.Breaks stream.socket r why → es₁.Logs → es₂.Closes stream.socket →
      Proceeds s (out.attempts.failed why) out.early es₃ x s' →
      Attempted s r out stream (es ++ es₁ ++ es₂ ++ es₃) x s'
  | succeeds {es es₁ : Transcript} {peer : Endpoint} {x : Except SessionError Unit} {s' : Session} :
      es.Looks stream.socket (.ok (some peer)) → es₁.All Verb.IsTunnel →
      (x = .ok () → s'.stage = .connected ∧ ∃ stream',
        s'.remote = some (.stream ⟨out.attempts.connected peer, some stream', []⟩)) →
      Attempted s r out stream (es ++ es₁) x s'

namespace Handler

variable {ctx : Context} {w : Work} {es : Transcript}

/-! ## Connecting -/

theorem tryEach_proceeds {a attempts : Attempts} {early : Bytes} {candidates : List Endpoint}
    (ht : Tries a es attempts) (hrem : attempts.remaining = candidates) :
    (tryEach ctx early candidates attempts).Always w es
      (fun _ w' es' => Proceeds w.session a early es' (.ok ()) w'.session)
      (fun e w' es' => Proceeds w.session a early es' (.error e) w'.session) := by
  induction candidates generalizing attempts es with
  | nil =>
    rw [tryEach, always_bind, always_update, always_bind]
    refine always_sendLast fun es₁ es₂ r stream h₁ h₂ => ?_
    exact always_fail.2 (.exhausted ht hrem (Stream.send_cases h₁).1 h₂)
  | cons target rest ih =>
    rw [tryEach, always_bind, always_log, always_bind, always_talk]
    intro es₁ r h₁
    have hconnecting : Transcript.Logs [⟨.log .session ⟨.debug, .session,
        s!"Connecting to {target.text}"⟩, ()⟩] := Transcript.logs_singleton
    cases r with
    | ok stream =>
      obtain ⟨hsocket, hbegins⟩ := (Talk.openStream_begins h₁).1 stream rfl
      rw [always_update, List.append_assoc]
      exact .opened ht hrem hconnecting hsocket hbegins
    | error e =>
      have hfailed : Transcript.Logs [⟨.log .session ⟨.debug, .session,
          s!"Connect to {target.text} failed: {e.text}"⟩, ()⟩] := Transcript.logs_singleton
      rw [always_bind, always_log]
      have h := ht.snoc hrem hconnecting ((Talk.openStream_begins h₁).2 e rfl) hfailed
      simp only [← List.append_assoc] at h
      exact ih h rfl

theorem startConnect_fulfils {candidates : List Endpoint} :
    (startConnect ctx candidates).Always w []
      (fun _ w' es' => Fulfils w.session .connect candidates es' (.ok ()) w'.session)
      (fun e w' es' => Fulfils w.session .connect candidates es' (.error e) w'.session) := by
  rw [startConnect, always_bind, always_session, always_bind, always_update]
  exact (tryEach_proceeds .nil rfl).imp (fun _ _ _ h => .connect h) fun _ _ _ h => .connect h

/-! ## Opening an association -/

theorem OpensAssociation.fulfils {s s' : Session} {candidates : List Endpoint}
    {r : Except SessionError Unit} (h : OpensAssociation ctx s es r s') :
    Fulfils s .associate candidates es r s' := by
  have hopened {role : Role} {addr : Endpoint} {es : Transcript} {r : Except IoError Unit}
      (hr : role ≠ .client) (hq : role.isQuery = false)
      (h : Run (Talk.openDatagram ⟨role, 0⟩ addr) es r) : Transcript.Minor es :=
    Transcript.minor_of_offStream (Talk.openDatagram_all hr h) (Talk.openDatagram_asksNothing hq h)
  have haddress (bound : Except IoError Endpoint) :
      Transcript.Minor [⟨.localAddress ⟨.relay, 0⟩, bound⟩] :=
    Transcript.minor_of_aside (Transcript.all_singleton rfl)
  cases h with
  | unopened h₁ => exact .associate (hopened (by nofun) rfl h₁) nofun (by rintro _ ⟨⟩; nofun)
  | unbound h₁ =>
    exact .associate ((hopened (by nofun) rfl h₁).append (haddress _)) nofun (by rintro _ ⟨⟩; nofun)
  | halfOpened h₁ h₂ =>
    exact .associate (((hopened (by nofun) rfl h₁).append (haddress _)).append (hopened (by nofun) rfl h₂)) nofun
      (by rintro _ ⟨⟩; nofun)
  | @opened _ _ bound _ _ _ r _ h₁ h₂ h₃ =>
    have hall := ((hopened (by nofun) rfl h₁).append (haddress (.ok bound))).append
      (hopened (by nofun) rfl h₂)
    have hlog : Transcript.Minor [⟨.log .session ⟨.info, .session,
        s!"UDP relay bound on {bound.text}"⟩, ()⟩] :=
      Transcript.minor_of_aside (Transcript.all_singleton rfl)
    refine .associate ((hall.append hlog).append (Transcript.minor_of_tunnel
      (Transcript.tunnel_of_work h₃.worked.calls))) (fun _ => ⟨rfl, ⟨_, rfl⟩, rfl⟩) ?_
    cases r with
    | error e => rintro _ ⟨⟩; nofun
    | ok _ => nofun

theorem fulfil_fulfils {intent : Intent} {candidates : List Endpoint} :
    (fulfil ctx intent candidates).Always w []
      (fun _ w' es' => Fulfils w.session intent candidates es' (.ok ()) w'.session)
      (fun e w' es' => Fulfils w.session intent candidates es' (.error e) w'.session) := by
  cases intent with
  | connect => exact startConnect_fulfils
  | associate => exact associate_cases.imp (fun _ _ _ h => h.fulfils) fun _ _ _ h => h.fulfils

/-! ## Attempts under way -/

/-- The stream of a successful attempt is put into service, or the session ends. No other is opened. -/
theorem Establishes.tunnels {s s' : Session} {out : Outgoing} {stream : Stream} {peer : Endpoint}
    {r : Except SessionError Unit} (h : Establishes ctx s out stream peer es r s') :
    es.All Verb.IsTunnel ∧ (r = .ok () → s'.stage = .connected ∧ ∃ stream',
      s'.remote = some (.stream ⟨out.attempts.connected peer, some stream', []⟩)) := by
  have haddress {bound : Except IoError Endpoint} :
      Transcript.All Verb.IsTunnel [⟨.localAddress stream.socket, bound⟩] :=
    Transcript.all_singleton ⟨nofun, nofun⟩
  cases h with
  | unbound => exact ⟨haddress, nofun⟩
  | unstarted h => exact ⟨haddress.append (Transcript.tunnel_of_work h.worked.calls), nofun⟩
  | established h₁ h₂ =>
    refine ⟨((haddress.append (Transcript.tunnel_of_work h₁.worked.calls)).append ?_).append
      (Transcript.tunnel_of_work h₂.worked.calls), fun _ => ⟨rfl, _, rfl⟩⟩
    exact Transcript.All.cons ⟨nofun, nofun⟩ (Transcript.all_singleton ⟨nofun, nofun⟩)

theorem onAttempt_attempts {r : Readiness} {out : Outgoing} {stream : Stream}
    (hout : out.stream = some stream) :
    (onAttempt ctx r out).Always w []
      (fun _ w' es' => Attempted w.session r out stream es' (.ok ()) w'.session)
      (fun e w' es' => Attempted w.session r out stream es' (.error e) w'.session) := by
  -- An attempt that is given up is closed, and the next candidate is tried.
  have habandon {es₁ es₂ : Transcript} {why : IoError} (hb : es₁.Breaks stream.socket r why)
      (hlogs : es₂.Logs) :
      (abandon ctx out why).Always w (es₁ ++ es₂)
        (fun _ w' es' => Attempted w.session r out stream es' (.ok ()) w'.session)
        (fun e w' es' => Attempted w.session r out stream es' (.error e) w'.session) := by
    unfold abandon
    rw [hout, always_bind, always_talk]
    rintro es₃ ⟨⟩ h₃
    refine ((tryEach_proceeds .nil rfl).shift _).imp ?_ ?_
    · rintro _ w' _ ⟨es₄, rfl, h₄⟩
      exact .breaks hb hlogs (Talk.close_closes h₃) h₄
    · rintro e w' _ ⟨es₄, rfl, h₄⟩
      exact .breaks hb hlogs (Talk.close_closes h₃) h₄
  unfold onAttempt
  rw [hout]
  simp only
  rw [always_bind, always_talk]
  intro es₁ x h₁
  have hlooks := Talk.peerOf_looks h₁
  rcases x with e | _ | peer
  · simp only
    rw [abandonFailed, always_bind, always_log]
    exact habandon (.failed hlooks) Transcript.logs_singleton
  · simp only
    split
    · next hfatal =>
      have h := habandon (.fatal hlooks hfatal) Transcript.logs_nil
      rw [List.append_nil] at h
      exact h
    · next hfatal => exact always_pure.2 (.waits hlooks (by simpa using hfatal))
  · refine (establish_cases.shift _).imp ?_ ?_
    · rintro _ w' _ ⟨es₂, rfl, h⟩
      exact .succeeds hlooks h.tunnels.1 h.tunnels.2
    · rintro e w' _ ⟨es₂, rfl, h⟩
      exact .succeeds hlooks h.tunnels.1 (by rintro ⟨⟩)

end Handler

end SocksProxy
