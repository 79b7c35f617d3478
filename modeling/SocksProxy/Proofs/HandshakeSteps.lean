/-
  The handlers of the handshake are made of steps.

  A message that is cut short leaves everything as it was, so that it is looked at again when more
  has arrived. `readHandshake_walks` says besides that the client is not forgotten: either it has
  nothing more to read, or it is registered anew.
-/
import SocksProxy.Proofs.ResolveSteps
import SocksProxy.Session.Handshake

namespace SocksProxy

open Dialogue

variable {ctx : Context} {origin : Stage} {s : Session} {w : Work} {es : Transcript}

namespace Handler

/-! ## Messages -/

/-- Answers an accepted message. What is said meanwhile is of no matter. -/
theorem accept_walks (level : LogLevel) (text : String) {n : Nat} {data : Bytes} {next : Stage}
    (hs : Steps ctx origin s es (.ok ()) w.session) (ha : Accepts ctx.settings w.session n data next) :
    (do
      consume n
      log level text
      sendClient ctx data
      update fun s => { s with stage := next } : Handler Unit).Walks ctx origin s w es := by
  rw [Walks, always_bind, consume, always_update, always_bind, always_log, always_bind]
  refine always_sendClient fun es₁ r stream h₁ => ?_
  have hone : Transcript.All (· = .aside) [⟨.log .session ⟨level, .session, text⟩, ()⟩] :=
    Transcript.all_singleton rfl
  cases r with
  | error e => exact (hs.snoc (.unanswered ha hone h₁)).of_eq (List.append_assoc ..)
  | ok _ =>
    simp only
    rw [always_update]
    exact (hs.snoc (.answered ha hone h₁)).of_eq (List.append_assoc ..)

theorem onGreeting_walks (hs : Steps ctx origin s es (.ok ()) w.session)
    (hst : w.session.stage = .accepted) : (onGreeting ctx).Walks ctx origin s w es := by
  unfold Walks onGreeting
  rw [always_bind, always_session]
  split
  · next fault hd =>
    cases fault with
    | unsupportedVersion v => exact farewell_walks nofun (.version hst hd) hs rfl
    | truncated needed available => exact always_refuse.2 (hs.cut needed available)
    | _ => exact always_refuse.2 (hs.fails nofun)
  · next offered n hd =>
    cases hm : AuthMethod.select offered ctx.settings.authMethod with
    | none =>
      simp only
      rw [always_bind]
      unfold consume
      rw [always_update]
      exact farewell_walks nofun (.method hst hd hm) hs rfl
    | some method =>
      cases method <;> exact accept_walks .trace _ hs (.greeting hst hd hm)

theorem onCredentials_walks (hs : Steps ctx origin s es (.ok ()) w.session)
    (hst : w.session.stage = .authRequested) : (onCredentials ctx).Walks ctx origin s w es := by
  unfold Walks onCredentials
  rw [always_bind, always_session]
  split
  · next fault hd =>
    cases fault with
    | truncated needed available => exact always_refuse.2 (hs.cut needed available)
    | _ => exact always_refuse.2 (hs.fails nofun)
  · next c n hd =>
    by_cases hc : c.isFor ctx.settings.username ctx.settings.password = true
    · simp only [hc, if_true]
      exact accept_walks .debug _ hs (.credentials hst hd hc)
    · have hc' : c.isFor ctx.settings.username ctx.settings.password = false := by simpa using hc
      simp only [hc]
      rw [always_bind]
      unfold consume
      rw [always_update, if_neg (by simp), always_bind, always_log]
      exact farewell_walks nofun (.credentials hst hd hc') (hs.call rfl) rfl

/-- What a request asks for is begun. -/
theorem start_walks {request : Request} {n : Nat} {intent : Intent}
    (hs : Steps ctx origin s es (.ok ()) w.session) (hw : w.session.Shaped)
    (hst : w.session.stage = .authenticated)
    (hd : Request.decode w.session.inbound = .ok (request, n)) (hc : request.command = intent.command) :
    Walks ctx origin s (match request.address.host with
      | .domain name => resolve ctx name ⟨intent, request.address.port⟩
      | .ipv4 ip => fulfil ctx intent [⟨.v4 ip, request.address.port⟩]
      | .ipv6 ip => fulfil ctx intent [⟨.v6 ip, request.address.port⟩])
      { w with session := { w.session with inbound := w.session.inbound.drop n } } es := by
  cases request.address.host with
  | domain name => exact resolve_walks hs hw hst hd hc rfl
  | ipv4 | ipv6 => exact fulfil_walks hs (.literal hst hd hc)

theorem onRequest_walks (hs : Steps ctx origin s es (.ok ()) w.session) (hw : w.session.Shaped)
    (hst : w.session.stage = .authenticated) : (onRequest ctx).Walks ctx origin s w es := by
  unfold Walks onRequest
  rw [always_bind, always_session]
  split
  · next fault hd =>
    cases fault with
    | addressTypeNotSupported t => exact farewell_walks nofun (.reply (.inl hst) nofun) hs rfl
    | truncated needed available => exact always_refuse.2 (hs.cut needed available)
    | _ => exact always_refuse.2 (hs.fails nofun)
  · next request n hd =>
    rw [always_bind]
    unfold consume
    rw [always_update, always_bind, always_log]
    have hs' (text : String) := hs.call (e := ⟨.log .session ⟨.info, .session, text⟩, ()⟩) rfl
    cases hc : request.command with
    | connect => exact start_walks (hs' _) hw hst hd hc
    | associate => exact start_walks (hs' _) hw hst hd hc
    | bind | other => exact farewell_walks nofun (.reply (.inl hst) nofun) (hs' _) rfl

theorem onMessage_walks (hs : Steps ctx origin s es (.ok ()) w.session) (hw : w.session.Shaped)
    (hst : w.session.stage.isHandshake = true) :
    (onMessage ctx w.session.stage).Walks ctx origin s w es := by
  cases h : w.session.stage with
  | accepted => exact onGreeting_walks hs h
  | authRequested => exact onCredentials_walks hs h
  | authenticated => exact onRequest_walks hs hw h
  | _ => rw [h] at hst; nomatch hst

/-! ## Bursts -/

theorem parse_walks {burstDone : Bool} {n : Nat} (hs : Steps ctx origin s es (.ok ()) w.session)
    (hw : s.Shaped) : (parse ctx burstDone n).Walks ctx origin s w es := by
  induction n generalizing w es with
  | zero =>
    unfold Walks
    rw [parse, always_pure]
    exact hs
  | succ n ih =>
    unfold Walks
    rw [parse, always_bind, always_session]
    split
    · rw [always_pure]
      exact hs
    · next hgo =>
      have hst : w.session.stage.isHandshake = true := by
        simp only [Bool.or_eq_true, Bool.not_eq_true', not_or, Bool.not_eq_false] at hgo
        exact hgo.2
      rw [always_bind, always_outcome]
      refine (onMessage_walks hs (hs.shaped rfl hw) hst).imp ?_ ?_
      · exact fun _ w₁ es₁ hs₁ => ih hs₁
      · intro e w₁ es₁ hs₁
        split
        · nomatch ‹Except.error e = Except.ok ()›
        · next heq =>
          cases heq
          split
          · exact always_refuse.2 hs₁
          · exact always_pure.2 hs₁.of_cut
        · next heq =>
          cases heq
          exact always_fail.2 hs₁

theorem parseAll_walks {burstDone : Bool} (hs : Steps ctx origin s es (.ok ()) w.session)
    (hw : s.Shaped) : (parseAll ctx burstDone).Walks ctx origin s w es := by
  rw [Walks, parseAll, always_bind, always_session]
  exact parse_walks hs hw

/-- The client is not forgotten: it waits for something else, or has nothing more to read, or is
    registered anew. -/
def ClientServed (w : Work) (es : Transcript) : Prop :=
  w.session.ClientExcused ∨ Transcript.dry ⟨.client, 0⟩ es = true ∨
    Transcript.rearmed ⟨.client, 0⟩ es = true

theorem ClientServed.mono {es' : Transcript} (h : ClientServed w es) (he : es <+: es') :
    ClientServed w es' := by
  obtain ⟨es₁, rfl⟩ := he
  refine h.imp_right (Or.imp (fun h => ?_) fun h => ?_)
  · rw [Transcript.dry_append, h, Bool.true_or]
  · rw [Transcript.rearmed_append, h, Bool.true_or]

theorem clientServed_of_dry {es' : Transcript} (h : Transcript.dry ⟨.client, 0⟩ es = true)
    (he : es <+: es') : ClientServed w es' :=
  ClientServed.mono (.inr (.inl h)) he

theorem clientServed_of_wakes {stream stream' : Stream} {es₁ : Transcript}
    (h : stream.Wakes es₁ stream') (hs : stream.socket = ⟨.client, 0⟩)
    (hw : w.session.client.stream = stream') : ClientServed w (es ++ es₁) := by
  cases hp : stream'.hasPending with
  | true => exact .inl (.inl (hw ▸ hp))
  | false =>
    refine .inr (.inr ?_)
    rw [Transcript.rearmed_append, ← hs, h.rearmed hp, Bool.or_true]

/-- Registers the client anew. -/
theorem resumeClient_walks (hs : Steps ctx origin s es (.ok ()) w.session) (hw : s.Shaped) :
    (onClientStream (·.resume)).Always w es
      (fun _ w' es' => Steps ctx origin s es' (.ok ()) w'.session ∧ ClientServed w' es')
      (fun e w' es' => Steps ctx origin s es' (.error e) w'.session) := by
  rw [always_onClientStream]
  intro es₁ r stream h₁
  have hstep := hs.snoc (.clientResumed h₁)
  cases r with
  | error e => exact hstep
  | ok _ =>
    exact ⟨hstep, clientServed_of_wakes ((Stream.resume_cases h₁).2.2.2 rfl)
      (hs.shaped rfl hw).client rfl⟩

theorem readHandshake_walks {turns : Nat} (hs : Steps ctx origin s es (.ok ()) w.session)
    (hw : s.Shaped) (ho : origin.isHandshake = true) (hst : w.session.stage.isHandshake = true) :
    (readHandshake ctx turns).Always w es
      (fun _ w' es' => Steps ctx origin s es' (.ok ()) w'.session ∧ ClientServed w' es')
      (fun e w' es' => Steps ctx origin s es' (.error e) w'.session) := by
  induction turns generalizing w es with
  | zero =>
    rw [readHandshake, always_talk]
    exact fun _ _ h => absurd h not_run_stuck
  | succ turns ih =>
    rw [readHandshake, always_bind, always_session, always_bind, always_attempt]
    intro es₁ x h₁
    have hne {stage : Stage} (h : stage.isHandshake = false) : w.session.stage ≠ stage := by
      intro heq
      rw [heq, h] at hst
      nomatch hst
    have hpolled (hx : ∀ b, x ≠ .ok (.data b)) := hs.snoc
      (.clientPolled ⟨hne rfl, .inr ⟨ho, hst⟩⟩ (fun h => absurd h (hne rfl)) h₁ hx)
    rcases x with e | b | _ | _
    · exact hpolled nofun
    · simp only
      rw [always_bind, always_update, always_bind]
      refine (parseAll_walks (hs.snoc (.heard ho hst h₁)) hw).imp ?_ fun _ _ _ h => h
      intro _ w₂ es₂ hs₂
      rw [always_bind, always_session]
      split
      · exact resumeClient_walks hs₂ hw
      · next hst₂ =>
        split
        · exact always_refuse.2 (hs₂.fails nofun)
        · exact ih hs₂ (by simpa using hst₂)
    · simp only
      refine (parseAll_walks (hpolled nofun) hw).grows.imp ?_ fun _ _ _ h => h.1
      rintro _ w₂ es₂ ⟨hs₂, hpre⟩
      refine ⟨hs₂, clientServed_of_dry ?_ hpre⟩
      rw [Transcript.dry_append, ← (hs.shaped rfl hw).client, (Stream.receive_wouldBlock h₁).2.2,
        Bool.or_true]
    · exact always_fail.2 (hpolled nofun)

end Handler

end SocksProxy
