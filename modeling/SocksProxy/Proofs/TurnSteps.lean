/-
  Whole turns are made of steps.

  * `onEvent_walks`: whatever the event, and whatever the network answers. If the event says that
    there is something to read from a stream, the stream is not forgotten.
-/
import SocksProxy.Proofs.TunnelSteps
import SocksProxy.Session.Handle

namespace SocksProxy

open Dialogue

variable {ctx : Context} {origin : Stage} {s : Session} {w : Work} {es : Transcript}

namespace Handler

/-! ## The stream of the client -/

/-- A flush does not change the stage, nor what is to be handled. -/
theorem flushClient_walks (hs : Steps ctx origin s es (.ok ()) w.session) (hw : s.Shaped) :
    (flushClient ctx).Always w es
      (fun _ w' es' => Steps ctx origin s es' (.ok ()) w'.session ∧
        w'.session.stage = w.session.stage ∧ w'.session.inbound = w.session.inbound)
      (fun e w' es' => Steps ctx origin s es' (.error e) w'.session) := by
  rw [flushClient, always_bind, always_onClientStream]
  intro es₁ x client₁ h₁
  rcases x with e | _ | _
  · exact hs.snoc (.clientFlushed (.refused h₁) nofun)
  · simp only
    rw [always_bind, always_onClientStream]
    intro es₂ r₂ client₂ h₂
    cases r₂ with
    | error e =>
      exact (hs.snoc (.clientFlushed (.lost h₁ h₂) nofun)).of_eq (List.append_assoc ..)
    | ok _ =>
      simp only
      rw [always_bind, always_session]
      by_cases hst : w.session.stage = .connected
      · obtain ⟨stream, hrem, -⟩ := (hs.shaped rfl hw).connected hst
        simp only [Session.withClientStream_stage, hst, if_true]
        rw [always_bind]
        refine (always_onRemoteStream stream ?_).2 fun es₃ r₃ stream₃ h₃ => ?_
        · exact hrem
        have hstep := (hs.snoc (.clientDrained hst hrem (.resumed h₁ h₂) h₃)).of_eq
          (show es ++ es₁ ++ es₂ ++ es₃ = _ by simp only [List.append_assoc])
        cases r₃ with
        | error e => exact hstep
        | ok _ =>
          exact always_pure.2 ⟨hstep, Session.withRemoteStream_stage.trans hst,
            Session.withRemoteStream_inbound⟩
      · simp only [Session.withClientStream_stage, hst, if_false]
        rw [always_pure]
        exact ⟨(hs.snoc (.clientFlushed (.resumed h₁ h₂) fun _ => hst)).of_eq
          (List.append_assoc ..), rfl, rfl⟩
  · exact always_pure.2 ⟨hs.snoc (.clientFlushed (.pending h₁) nofun), rfl, rfl⟩

theorem discardReads_walks {n discarded : Nat} (hs : Steps ctx origin s es (.ok ()) w.session)
    (hw : s.Shaped) (ho : origin = w.session.stage)
    (hst : w.session.stage = .resolving ∨ w.session.stage = .associated) :
    (discardReads ctx n discarded).Always w es
      (fun a w' es' => Steps ctx origin s es' (.ok ()) w'.session ∧
        (a.2 = true → ClientServed w' es'))
      (fun e w' es' => Steps ctx origin s es' (.error e) w'.session) := by
  induction n generalizing discarded es with
  | zero =>
    rw [discardReads, always_pure]
    exact ⟨hs, nofun⟩
  | succ n ih =>
    rw [discardReads, always_bind, always_session, always_bind, always_attempt]
    intro es₁ x h₁
    have hne : w.session.stage ≠ .connecting ∧ w.session.stage ≠ .connected := by
      rcases hst with h | h <;> rw [h] <;> exact ⟨nofun, nofun⟩
    have hpolled (hx : ∀ b, x ≠ .ok (.data b)) :=
      hs.snoc (.clientPolled ⟨hne.1, .inl ho⟩ (fun h => absurd h hne.2) h₁ hx)
    rcases x with e | b | _ | _
    · exact hpolled nofun
    · exact ih (hs.snoc (.discarded hst ho h₁))
    · refine always_pure.2 ⟨hpolled nofun, fun _ => clientServed_of_dry ?_ (List.prefix_refl _)⟩
      rw [Transcript.dry_append, ← (hs.shaped rfl hw).client, (Stream.receive_wouldBlock h₁).2.2,
        Bool.or_true]
    · exact always_fail.2 (hpolled nofun)

theorem discard_walks (hs : Steps ctx origin s es (.ok ()) w.session) (hw : s.Shaped)
    (ho : origin = w.session.stage)
    (hst : w.session.stage = .resolving ∨ w.session.stage = .associated) :
    (discard ctx).Always w es
      (fun _ w' es' => Steps ctx origin s es' (.ok ()) w'.session ∧ ClientServed w' es')
      (fun e w' es' => Steps ctx origin s es' (.error e) w'.session) := by
  rw [discard, always_bind]
  refine (discardReads_walks hs hw ho hst).imp ?_ fun _ _ _ h => h
  rintro ⟨discarded, drained⟩ w₁ es₁ ⟨hs₁, hdry⟩
  -- Behind the reads only the registration is left.
  have hrest {es₂ : Transcript} (hs₂ : Steps ctx origin s es₂ (.ok ()) w₁.session)
      (he : es₁ <+: es₂) :
      (if !drained then onClientStream (·.resume) else pure () : Handler Unit).Always w₁ es₂
        (fun _ w' es' => Steps ctx origin s es' (.ok ()) w'.session ∧ ClientServed w' es')
        (fun e w' es' => Steps ctx origin s es' (.error e) w'.session) := by
    cases drained with
    | false => exact resumeClient_walks hs₂ hw
    | true => exact always_pure.2 ⟨hs₂, (hdry rfl).mono he⟩
  simp only
  split
  · rw [always_bind, always_session, always_bind, always_talk]
    intro es₂ _ h₂
    obtain rfl := run_log_iff.1 h₂
    exact hrest (hs₁.call rfl) (List.prefix_append ..)
  · exact hrest hs₁ (List.prefix_refl _)

theorem readClient_walks (hs : Steps ctx origin s es (.ok ()) w.session) (hw : s.Shaped)
    (ho : origin = w.session.stage) :
    (readClient ctx).Always w es
      (fun _ w' es' => Steps ctx origin s es' (.ok ()) w'.session ∧ ClientServed w' es')
      (fun e w' es' => Steps ctx origin s es' (.error e) w'.session) := by
  rw [readClient, always_bind, always_session]
  have hhandshake (hst : w.session.stage.isHandshake = true) :
      (if w.session.client.stream.hasPending then pure () else readHandshake ctx ctx.turns :
        Handler Unit).Always w es
        (fun _ w' es' => Steps ctx origin s es' (.ok ()) w'.session ∧ ClientServed w' es')
        (fun e w' es' => Steps ctx origin s es' (.error e) w'.session) := by
    split
    · next hp => exact always_pure.2 ⟨hs, .inl (.inl hp)⟩
    · exact readHandshake_walks hs hw (ho ▸ hst) hst
  cases hst : w.session.stage with
  | accepted | authRequested | authenticated => exact hhandshake (by rw [hst]; rfl)
  | connected => exact pumpClient_walks hs hw (ho.trans hst) hst
  | connecting => exact always_pure.2 ⟨hs, .inl (.inr (.inl hst))⟩
  | resolving => exact discard_walks hs hw ho (.inl hst)
  | associated => exact discard_walks hs hw ho (.inr hst)

theorem onClient_walks {r : Readiness} (hs : Steps ctx origin s es (.ok ()) w.session)
    (hw : s.Shaped) (ho : origin = w.session.stage) :
    (onClient ctx r).Always w es
      (fun _ w' es' => Steps ctx origin s es' (.ok ()) w'.session ∧
        (r.readable = true → ClientServed w' es'))
      (fun e w' es' => Steps ctx origin s es' (.error e) w'.session) := by
  -- Behind the flush only the read is left.
  have hread {w₁ : Work} {es₁ : Transcript} (hs₁ : Steps ctx origin s es₁ (.ok ()) w₁.session)
      (hst₁ : w₁.session.stage = w.session.stage) :
      (if r.readable = true then readClient ctx else pure () : Handler Unit).Always w₁ es₁
        (fun _ w' es' => Steps ctx origin s es' (.ok ()) w'.session ∧
          (r.readable = true → ClientServed w' es'))
        (fun e w' es' => Steps ctx origin s es' (.error e) w'.session) := by
    split
    · exact (readClient_walks hs₁ hw (ho.trans hst₁.symm)).imp
        (fun _ _ _ h => ⟨h.1, fun _ => h.2⟩) fun _ _ _ h => h
    · next hr => exact always_pure.2 ⟨hs₁, fun h => absurd h hr⟩
  rw [onClient]
  by_cases he : r.error = true
  · rw [if_pos he, always_bind, always_session]
    exact always_behindEvent hs
  rw [if_neg he]
  by_cases hh : r.hangup = true
  · rw [if_pos hh, always_bind, always_fail]
    exact hs.fails nofun
  rw [if_neg hh]
  by_cases hf : r.writable = true
  · rw [if_pos hf, always_bind]
    exact (flushClient_walks hs hw).imp (fun _ _ _ h => hread h.1 h.2.1) fun _ _ _ h => h
  · rw [if_neg hf]
    exact hread hs rfl

/-! ## All sockets -/

theorem onRemote_walks {r : Readiness} (hs : Steps ctx origin s es (.ok ()) w.session)
    (hw : s.Shaped) :
    (onRemote ctx r).Always w es
      (fun _ w' es' => Steps ctx origin s es' (.ok ()) w'.session ∧
        (w.session.stage = .connected → r.readable = true → RemoteServed w' es'))
      (fun e w' es' => Steps ctx origin s es' (.error e) w'.session) := by
  have hh := (hs.shaped rfl hw).holds
  unfold Session.Holds at hh
  rw [onRemote, always_bind, always_session]
  cases hst : w.session.stage with
  | accepted | authRequested | authenticated =>
    rw [hst] at hh
    simp only [hh.2.1]
    exact always_pure.2 ⟨hs, nofun⟩
  | resolving =>
    rw [hst] at hh
    simp only [hh.1]
    exact always_pure.2 ⟨hs, nofun⟩
  | connecting =>
    rw [hst] at hh
    obtain ⟨-, -, -, out, hrem, -⟩ := hh
    simp only [hrem, if_true]
    exact (onAttempt_walks hs hst hrem).imp (fun _ _ _ h => ⟨h, nofun⟩) fun _ _ _ h => h
  | connected =>
    rw [hst] at hh
    obtain ⟨-, -, -, attempts, stream, hrem, -⟩ := hh
    simp only [hrem]
    exact (onTunnel_walks hs hw hst).imp (fun _ _ _ h => ⟨h.1, fun _ => h.2⟩) fun _ _ _ h => h
  | associated =>
    rw [hst] at hh
    obtain ⟨-, -, -, socket, hrem⟩ := hh
    simp only [hrem]
    exact (onRemoteDatagram_walks hs hst).imp (fun _ _ _ h => ⟨h, nofun⟩) fun _ _ _ h => h

theorem onEvent_walks {role : Role} {r : Readiness} (hw : w.session.Shaped) :
    (onEvent ctx role r).Always w []
      (fun _ w' es => Steps ctx w.session.stage w.session es (.ok ()) w'.session ∧
        (role = .client → r.readable = true → ClientServed w' es) ∧
        (role = .remote → w.session.stage = .connected → r.readable = true → RemoteServed w' es))
      (fun e w' es => Steps ctx w.session.stage w.session es (.error e) w'.session) := by
  cases role with
  | client =>
    exact (onClient_walks .nil hw rfl).imp (fun _ _ _ h => ⟨h.1, fun _ => h.2, nofun⟩)
      fun _ _ _ h => h
  | remote =>
    exact (onRemote_walks .nil hw).imp (fun _ _ _ h => ⟨h.1, nofun, fun _ => h.2⟩) fun _ _ _ h => h
  | relay =>
    exact (onRelay_walks .nil hw).imp (fun _ _ _ h => ⟨h, nofun, nofun⟩) fun _ _ _ h => h
  | query slot =>
    exact (onLookup_walks .nil hw).imp (fun _ _ _ h => ⟨h, nofun, nofun⟩) fun _ _ _ h => h

end Handler

end SocksProxy
