/-
  The handlers that relay, those of a tunnel and those of an association, are made of steps.

  `pumpClient_walks` and `pumpRemote_walks` say besides that the source is not forgotten: a pump stops
  only when the source has nothing more to read or its destination has something left to take.
-/
import SocksProxy.Proofs.HandshakeSteps
import SocksProxy.Session.Tunnel

namespace SocksProxy

open Dialogue

variable {ctx : Context} {origin : Stage} {s : Session} {w : Work} {es : Transcript}

theorem Session.Shaped.associated (h : s.Shaped) (hc : s.stage = .associated) :
    s.relay.isSome = true :=
  ((Session.holds_associated hc).1 h.holds).2.2.1

namespace Handler

/-! ## Streams -/

/-- The remote side of a tunnel is not forgotten. -/
def RemoteServed (w : Work) (es : Transcript) : Prop :=
  w.session.RemoteExcused ∨ ∃ stream, w.session.remoteStream? = some stream ∧
    (Transcript.dry stream.socket es = true ∨ Transcript.rearmed stream.socket es = true)

theorem pumpClient_walks {turns : Nat} (hs : Steps ctx origin s es (.ok ()) w.session)
    (hw : s.Shaped) (ho : origin = .connected) (hst : w.session.stage = .connected) :
    (pumpClient ctx turns).Always w es
      (fun _ w' es' => Steps ctx origin s es' (.ok ()) w'.session ∧ ClientServed w' es')
      (fun e w' es' => Steps ctx origin s es' (.error e) w'.session) := by
  induction turns generalizing w es with
  | zero =>
    rw [pumpClient, always_talk]
    exact fun _ _ h => absurd h not_run_stuck
  | succ turns ih =>
    obtain ⟨stream, hrem, -⟩ := (hs.shaped rfl hw).connected hst
    rw [pumpClient, always_bind, always_session]
    simp only [hrem]
    cases hp : stream.hasPending with
    | true =>
      simp only [if_true]
      rw [always_pure]
      exact ⟨hs, .inl (.inr (.inr ⟨hst, stream, hrem, hp⟩))⟩
    | false =>
      simp only [Bool.false_eq_true, if_false]
      rw [always_bind, always_attempt]
      intro es₁ x h₁
      have hlistens : origin.Listens w.session.stage :=
        ⟨by rw [hst]; nofun, .inl (ho.trans hst.symm)⟩
      have hidle (stream' : Stream) (h : w.session.remoteStream? = some stream') :
          stream'.hasPending = false := by
        rw [hrem] at h
        cases h
        exact hp
      have hpolled (hx : ∀ b, x ≠ .ok (.data b)) :=
        hs.snoc (.clientPolled hlistens (fun _ => hidle) h₁ hx)
      rcases x with e | b | _ | _
      · exact hpolled nofun
      · simp only
        have hup {es₂ : Transcript} {r : Except IoError Unit} {stream' : Stream}
            (h : stream.Delivers ctx.turns b es₂ r stream') :=
          hs.snoc (.relayedUp ho hst hrem hp h₁ h)
        rw [always_bind, always_onRemoteStream _ hrem]
        intro es₂ r₂ stream₂ h₂
        rcases r₂ with e | _ | _
        · exact (hup (.refused h₂)).of_eq (List.append_assoc ..)
        · exact ih ((hup (.drained h₂)).of_eq (List.append_assoc ..))
            (Session.withRemoteStream_stage.trans hst)
        · simp only
          have hp₂ := Stream.hasPending_of_pending ((Stream.send_cases h₂).2.2.1 _ rfl)
          rw [always_bind,
            always_onRemoteStream stream₂ (Session.withRemoteStream_remoteStream? stream₂ hrem)]
          intro es₃ r₃ stream₃ h₃
          have hstep := (hup (.settled h₂ h₃)).of_eq
            (show es ++ es₁ ++ es₂ ++ es₃ = _ by simp only [List.append_assoc])
          simp only [Session.withRemoteStream_withRemoteStream]
          cases r₃ with
          | error e => exact hstep
          | ok _ =>
            simp only
            rw [always_pure]
            refine ⟨hstep, .inl (.inr (.inr ⟨Session.withRemoteStream_stage.trans hst, stream₃,
              Session.withRemoteStream_remoteStream? _ hrem, ?_⟩))⟩
            exact (Stream.hasPending_of_outbound (Stream.settle_cases h₃).2.1).trans hp₂
      · simp only
        rw [always_pure]
        refine ⟨hpolled nofun, clientServed_of_dry ?_ (List.prefix_refl _)⟩
        rw [Transcript.dry_append, ← (hs.shaped rfl hw).client, (Stream.receive_wouldBlock h₁).2.2,
          Bool.or_true]
      · exact always_fail.2 (hpolled nofun)

theorem pumpRemote_walks {turns : Nat} (hs : Steps ctx origin s es (.ok ()) w.session)
    (hw : s.Shaped) (hst : w.session.stage = .connected) :
    (pumpRemote ctx turns).Always w es
      (fun _ w' es' => Steps ctx origin s es' (.ok ()) w'.session ∧ RemoteServed w' es')
      (fun e w' es' => Steps ctx origin s es' (.error e) w'.session) := by
  induction turns generalizing w es with
  | zero =>
    rw [pumpRemote, always_talk]
    exact fun _ _ h => absurd h not_run_stuck
  | succ turns ih =>
    obtain ⟨stream, hrem, -⟩ := (hs.shaped rfl hw).connected hst
    rw [pumpRemote, always_bind, always_session]
    simp only [hrem]
    cases hp : w.session.client.stream.hasPending with
    | true =>
      simp only [if_true]
      rw [always_pure]
      exact ⟨hs, .inl (.inr (.inl hp))⟩
    | false =>
      simp only [Bool.false_eq_true, if_false]
      rw [always_bind, always_attempt]
      intro es₁ x h₁
      have hpolled (hx : ∀ b, x ≠ .ok (.data b)) := hs.snoc (.remotePolled hst hrem hp h₁ hx)
      rcases x with e | b | _ | _
      · exact hpolled nofun
      · simp only
        have hdown {es₂ : Transcript} {r : Except IoError Unit} {client : Stream}
            (h : w.session.client.stream.Delivers ctx.turns b es₂ r client) :=
          hs.snoc (.relayedDown hst hrem hp h₁ h)
        rw [always_bind, always_onClientStream]
        intro es₂ r₂ client₂ h₂
        rcases r₂ with e | _ | _
        · exact (hdown (.refused h₂)).of_eq (List.append_assoc ..)
        · exact ih ((hdown (.drained h₂)).of_eq (List.append_assoc ..)) hst
        · simp only
          have hp₂ := Stream.hasPending_of_pending ((Stream.send_cases h₂).2.2.1 _ rfl)
          rw [always_onClientStream]
          intro es₃ r₃ client₃ h₃
          have hstep := (hdown (.settled h₂ h₃)).of_eq
            (show es ++ es₁ ++ es₂ ++ es₃ = _ by simp only [List.append_assoc])
          cases r₃ with
          | error e => exact hstep
          | ok _ =>
            refine ⟨hstep, .inl (.inr (.inl ?_))⟩
            exact (Stream.hasPending_of_outbound (Stream.settle_cases h₃).2.1).trans hp₂
      · simp only
        rw [always_pure]
        refine ⟨hpolled nofun, .inr ⟨stream, hrem, .inl ?_⟩⟩
        rw [Transcript.dry_append, (Stream.receive_wouldBlock h₁).2.2, Bool.or_true]
      · exact always_fail.2 (hpolled nofun)

/-- Asks a socket for the error behind an event, and ends. -/
theorem always_behindEvent {α β : Type} {socket : Socket} {next : α → Handler β}
    {Q : β → Work → Transcript → Prop} (hs : Steps ctx origin s es (.ok ()) w.session) :
    (do
      let a ← fail (.transport (IoError.behindEvent (← ask (.pendingError socket))))
      next a).Always w es Q (fun e w' es' => Steps ctx origin s es' (.error e) w'.session) := by
  rw [always_bind, always_ask]
  intro (e : Except IoError (Option IoError))
  refine always_bind.2 ?_
  exact always_fail.2 ((hs.call (e := ⟨.pendingError socket, e⟩) rfl).fails nofun)

theorem onTunnel_walks {r : Readiness} (hs : Steps ctx origin s es (.ok ()) w.session)
    (hw : s.Shaped) (hst : w.session.stage = .connected) :
    (onTunnel ctx r).Always w es
      (fun _ w' es' => Steps ctx origin s es' (.ok ()) w'.session ∧
        (r.readable = true → RemoteServed w' es'))
      (fun e w' es' => Steps ctx origin s es' (.error e) w'.session) := by
  obtain ⟨stream, hrem, -⟩ := (hs.shaped rfl hw).connected hst
  rw [onTunnel, always_bind, always_session]
  simp only [hrem]
  -- Behind the flush only the pump is left.
  have hpump {w₁ : Work} {es₁ : Transcript} (hs₁ : Steps ctx origin s es₁ (.ok ()) w₁.session)
      (hst₁ : w₁.session.stage = .connected) :
      (if r.readable = true then pumpRemote ctx ctx.turns else pure () : Handler Unit).Always w₁ es₁
        (fun _ w' es' => Steps ctx origin s es' (.ok ()) w'.session ∧
          (r.readable = true → RemoteServed w' es'))
        (fun e w' es' => Steps ctx origin s es' (.error e) w'.session) := by
    split
    · exact (pumpRemote_walks hs₁ hw hst₁).imp (fun _ _ _ h => ⟨h.1, fun _ => h.2⟩) fun _ _ _ h => h
    · next hr => exact always_pure.2 ⟨hs₁, fun h => absurd h hr⟩
  by_cases he : r.error = true
  · rw [if_pos he]
    exact always_behindEvent hs
  rw [if_neg he]
  by_cases hh : r.hangup = true
  · rw [if_pos hh, always_bind, always_fail]
    exact hs.fails nofun
  rw [if_neg hh]
  by_cases hf : r.writable = true
  · rw [if_pos hf, always_bind, always_onRemoteStream _ hrem]
    intro es₁ x stream₁ h₁
    have hst₁ : (w.session.withRemoteStream stream₁).stage = .connected :=
      Session.withRemoteStream_stage.trans hst
    rcases x with e | _ | _
    · exact hs.snoc (.remoteFlushed hst hrem (.refused h₁) nofun)
    · simp only
      rw [always_bind,
        always_onRemoteStream stream₁ (Session.withRemoteStream_remoteStream? stream₁ hrem)]
      intro es₂ r₂ stream₂ h₂
      simp only [Session.withRemoteStream_withRemoteStream]
      cases r₂ with
      | error e =>
        exact (hs.snoc (.remoteFlushed hst hrem (.lost h₁ h₂) nofun)).of_eq (List.append_assoc ..)
      | ok _ =>
        simp only
        rw [always_bind, always_onClientStream]
        intro es₃ r₃ client₃ h₃
        rw [Session.withRemoteStream_client] at h₃
        have hstep := (hs.snoc (.remoteDrained hst hrem (.resumed h₁ h₂) h₃)).of_eq
          (show es ++ es₁ ++ es₂ ++ es₃ = _ by simp only [List.append_assoc])
        rw [← Session.withRemoteStream_withClientStream] at hstep
        cases r₃ with
        | error e => exact hstep
        | ok _ => exact hpump hstep (Session.withRemoteStream_stage.trans hst)
    · exact hpump (hs.snoc (.remoteFlushed hst hrem (.pending h₁) nofun)) hst₁
  · rw [if_neg hf]
    exact hpump hs hst

/-! ## Datagrams -/

/-- The runs of the handler are made of steps that leave the session an association. -/
def Relays {α : Type} (ctx : Context) (origin : Stage) (s : Session) (h : Handler α) (w : Work)
    (es : Transcript) : Prop :=
  h.Always w es
    (fun _ w' es' => Steps ctx origin s es' (.ok ()) w'.session ∧ w'.session.stage = .associated)
    (fun e w' es' => Steps ctx origin s es' (.error e) w'.session)

theorem Relays.bind {α β : Type} {h : Handler α} {f : α → Handler β}
    (hh : Relays ctx origin s h w es)
    (hf : ∀ a w' es', Steps ctx origin s es' (.ok ()) w'.session → w'.session.stage = .associated →
      Relays ctx origin s (f a) w' es') : Relays ctx origin s (h >>= f) w es :=
  always_bind.2 (hh.imp (fun a w' es' h => hf a w' es' h.1 h.2) fun _ _ _ h => h)

theorem relays_pure {α : Type} {a : α} (hs : Steps ctx origin s es (.ok ()) w.session)
    (hst : w.session.stage = .associated) : Relays ctx origin s (pure a) w es :=
  always_pure.2 ⟨hs, hst⟩

theorem relays_log {level : LogLevel} {text : String}
    (hs : Steps ctx origin s es (.ok ()) w.session) (hst : w.session.stage = .associated) :
    Relays ctx origin s (log level text) w es :=
  always_log.2 ⟨hs.call rfl, hst⟩

/-- An operation on a datagram socket. -/
theorem relays_attempt {α : Type} {p : Talk (Except IoError α)}
    (hs : Steps ctx origin s es (.ok ()) w.session) (hst : w.session.stage = .associated)
    (hp : ∀ es₁ r, Run p es₁ r → Transcript.All Verb.IsOffStream es₁) :
    Relays ctx origin s (attempt p) w es := by
  rw [Relays, always_attempt]
  intro es₁ r h₁
  have hstep : Steps ctx origin s (es ++ es₁) (.ok ()) w.session :=
    hs.snoc (.datagrams hst rfl (hp es₁ r h₁))
  cases r with
  | ok a => exact ⟨hstep, hst⟩
  | error e => exact hstep.fails nofun

theorem forward_relays {relay : Relay} {remote : Socket} {datagram : Bytes} {source : Endpoint}
    (hs : Steps ctx origin s es (.ok ()) w.session) (hw : s.Shaped)
    (hst : w.session.stage = .associated) :
    Relays ctx origin s (forward ctx relay remote datagram source) w es := by
  have hupdate {ports : PortMap} : Steps ctx origin s es (.ok ())
      { w.session with relay := some { relay with ports } } :=
    (hs.snoc (.datagrams hst (show (some _).isSome = _ from ((hs.shaped rfl hw).associated hst).symm)
      Transcript.all_nil)).of_eq (List.append_nil es).symm
  rw [forward]
  obtain ⟨fate, ports⟩ := relay.ports.fromClient datagram source
  rw [Relays, always_bind, always_update]
  cases fate with
  | drop reason => exact relays_log hupdate hst
  | forward dest payload =>
    simp only
    rw [always_bind, always_session]
    split
    · exact relays_log hupdate hst
    · refine Relays.bind (relays_attempt hupdate hst fun _ _ h => Talk.sendTo_all h) ?_
      intro sent w' es' hs' hst'
      split
      · exact relays_log hs' hst'
      · exact relays_pure hs' hst'

theorem deliver_relays {relay : Relay} {payload : Bytes} {source : Endpoint}
    (hs : Steps ctx origin s es (.ok ()) w.session) (hst : w.session.stage = .associated) :
    Relays ctx origin s (deliver ctx relay payload source) w es := by
  rw [deliver]
  split
  · refine Relays.bind (relays_attempt hs hst fun _ _ h => Talk.sendTo_all h) ?_
    intro sent w' es' hs' hst'
    split
    · exact relays_log hs' hst'
    · exact relays_pure hs' hst'
  · exact relays_log hs hst

theorem forwardAll_relays {remote : Socket} {turns : Nat}
    (hs : Steps ctx origin s es (.ok ()) w.session) (hw : s.Shaped)
    (hst : w.session.stage = .associated) :
    Relays ctx origin s (forwardAll ctx remote turns) w es := by
  induction turns generalizing w es with
  | zero =>
    rw [Relays, forwardAll, always_talk]
    exact fun _ _ h => absurd h not_run_stuck
  | succ turns ih =>
    rw [Relays, forwardAll, always_bind, always_session]
    split
    · exact relays_pure hs hst
    · refine Relays.bind (relays_attempt hs hst fun _ _ h => Talk.receiveFrom_all h) ?_
      intro found w' es' hs' hst'
      cases found with
      | none => exact relays_pure hs' hst'
      | some found =>
        exact (forward_relays hs' hw hst').bind fun _ _ _ hs'' hst'' => ih hs'' hst''

theorem deliverAll_relays {relay : Relay} {remote : Socket} {turns : Nat}
    (hs : Steps ctx origin s es (.ok ()) w.session) (hst : w.session.stage = .associated) :
    Relays ctx origin s (deliverAll ctx relay remote turns) w es := by
  induction turns generalizing w es with
  | zero =>
    rw [Relays, deliverAll, always_talk]
    exact fun _ _ h => absurd h not_run_stuck
  | succ turns ih =>
    refine Relays.bind (relays_attempt hs hst fun _ _ h => Talk.receiveFrom_all h) ?_
    intro found w' es' hs' hst'
    cases found with
    | none => exact relays_pure hs' hst'
    | some found => exact (deliver_relays hs' hst').bind fun _ _ _ hs'' hst'' => ih hs'' hst''

theorem onRelay_walks {r : Readiness} (hs : Steps ctx origin s es (.ok ()) w.session)
    (hw : s.Shaped) : (onRelay ctx r).Walks ctx origin s w es := by
  rw [Walks, onRelay, always_bind, always_session]
  split
  · exact always_pure.2 hs
  · next relay hrelay =>
    have hst : w.session.stage = .associated := by
      have hh := (hs.shaped rfl hw).holds
      unfold Session.Holds at hh
      cases h : w.session.stage <;> simp_all
    by_cases he : r.error = true
    · simp only [he, if_true]
      exact always_behindEvent hs
    · simp only [he, Bool.false_eq_true, if_false]
      split
      · exact (forwardAll_relays hs hw hst).imp (fun _ _ _ h => h.1) fun _ _ _ h => h
      · exact always_pure.2 hs

theorem onRemoteDatagram_walks {r : Readiness} {remote : Socket}
    (hs : Steps ctx origin s es (.ok ()) w.session) (hst : w.session.stage = .associated) :
    (onRemoteDatagram ctx r remote).Walks ctx origin s w es := by
  rw [Walks, onRemoteDatagram]
  split
  · exact always_behindEvent hs
  · rw [always_bind, always_session]
    split
    · exact always_pure.2 hs
    · exact (deliverAll_relays hs hst).imp (fun _ _ _ h => h.1) fun _ _ _ h => h

end Handler

end SocksProxy
