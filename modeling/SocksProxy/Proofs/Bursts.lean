/-
  How an event goes in the handshake.

  What a client has sent is read and answered, message by message, until it has nothing more to say,
  or breaks the protocol, or makes a request.

  * `Unheard`: why a handshake fails when no request was taken off what was read;
  * `onEvent_handshake`: what holds of a handler of an event, if it holds where the handshake goes on,
    where it fails and behind a request.
-/
import SocksProxy.Proofs.ClientWork
import SocksProxy.Proofs.Life
import SocksProxy.Proofs.Prefix

namespace SocksProxy

open Dialogue

/-! ## The negotiation -/

/-- The negotiation is not over: a greeting or credentials are waited for. -/
def Stage.IsNegotiating (stage : Stage) : Prop :=
  stage = .accepted ∨ stage = .authRequested

theorem Stage.IsNegotiating.isHandshake {stage : Stage} (h : stage.IsNegotiating) :
    stage.isHandshake = true := by
  rcases h with rfl | rfl <;> rfl

theorem Stage.negotiating_or_authenticated {stage : Stage} (h : stage.isHandshake = true) :
    stage.IsNegotiating ∨ stage = .authenticated := by
  cases stage with
  | accepted => exact .inl (.inl rfl)
  | authRequested => exact .inl (.inr rfl)
  | authenticated => exact .inr rfl
  | _ => cases h

/-- What was read for the negotiation is handled. -/
def Session.Settled (s : Session) : Prop :=
  s.stage.IsNegotiating → s.inbound = []

theorem Requested.not_negotiating {s s₁ : Session} {intent : Intent} (h : Requested s intent s₁) :
    ¬ s.stage.IsNegotiating := by
  cases h with
  | literal hst | resolved hst =>
    rw [hst]
    rintro (h | h) <;> nomatch h

theorem Greeting.decode_pos {b offered : Bytes} {n : Nat} (h : Greeting.decode b = .ok (offered, n)) :
    0 < n := by
  rcases b with _ | ⟨version, _ | ⟨count, methods⟩⟩
  · cases h
  · cases h
  · simp only [decode] at h
    split at h
    · cases h
    · split at h
      · cases h
      · cases h
        omega

theorem Credentials.decode_pos {b : Bytes} {c : Credentials} {n : Nat}
    (h : Credentials.decode b = .ok (c, n)) : 0 < n := by
  rcases b with _ | ⟨version, _ | ⟨ulen, rest⟩⟩
  · cases h
  · cases h
  · simp only [decode] at h
    split at h
    · cases h
    · split at h
      · cases h
      · split at h
        · cases h
        · cases h
          omega

theorem Address.decode_pos {b : Bytes} {a : Address} {n : Nat} (h : Address.decode b = .ok (a, n)) :
    0 < n := by
  unfold decode at h
  split at h
  · cases h
  · split at h
    · cases h
      exact Nat.zero_lt_succ _
    · cases h
  · split at h
    · cases h
      exact Nat.zero_lt_succ _
    · cases h
  · split at h
    · cases h
    · next n rest =>
      split at h
      · cases h
      · cases hname : DomainName.ofBytes (rest.take n.toNat) with
        | error e => rw [hname] at h; cases h
        | ok name =>
          rw [hname] at h
          cases h
          exact Nat.lt_add_right _ (by decide)
  · cases h

theorem Request.decode_pos {b : Bytes} {request : Request} {n : Nat}
    (h : Request.decode b = .ok (request, n)) : 0 < n := by
  rcases b with _ | ⟨version, _ | ⟨command, _ | ⟨reserved, _ | ⟨t, rest⟩⟩⟩⟩
  iterate 4 cases h
  simp only [decode] at h
  split at h
  · cases h
  · cases ha : Address.decode (t :: rest) with
    | error e => rw [ha] at h; cases h
    | ok found =>
      rw [ha] at h
      cases h
      exact Nat.lt_add_right _ (by decide)

theorem length_drop_lt {b : Bytes} {n : Nat} (hn : 0 < n) (hle : n ≤ b.length) :
    (b.drop n).length < b.length := by
  rw [List.length_drop]
  omega

/-! ## Messages -/

/-- From the session `s`, at the beginning of a turn, the calls `es` have led on in the handshake, or
    to its failure. They are about the client alone. -/
structure Handshakes (ctx : Context) (s : Session) (r : Except SessionError Unit) (w : Work)
    (es : Transcript) : Prop where
  steps : Steps ctx s.stage s es r w.session
  calls : Transcript.OfClient es
  isHandshake : w.session.stage.isHandshake = true

namespace Handshakes

variable {ctx : Context} {s : Session} {w : Work} {es : Transcript}

theorem refl (h : w.session.stage.isHandshake = true) :
    Handshakes ctx w.session (.ok ()) w [] :=
  ⟨.nil, Transcript.ofClient_nil, h⟩

theorem fails (h : Handshakes ctx s (.ok ()) w es) {e : SessionError} (he : e.IsFinal) :
    Handshakes ctx s (.error e) w es :=
  ⟨h.steps.fails he, h.calls, h.isHandshake⟩

theorem cut (h : Handshakes ctx s (.ok ()) w es) (needed available : Nat) :
    Handshakes ctx s (.error (.violation (.truncated needed available))) w es :=
  ⟨h.steps.cut needed available, h.calls, h.isHandshake⟩

theorem of_cut {needed available : Nat}
    (h : Handshakes ctx s (.error (.violation (.truncated needed available))) w es) :
    Handshakes ctx s (.ok ()) w es :=
  ⟨h.steps.of_cut, h.calls, h.isHandshake⟩

theorem shaped (h : Handshakes ctx s (.ok ()) w es) (hs : s.Shaped) : w.session.Shaped :=
  h.steps.shaped rfl hs

theorem role (h : Handshakes ctx s (.ok ()) w es) (hs : s.Shaped) :
    w.session.client.stream.socket.role = .client :=
  congrArg Socket.role (h.shaped hs).client

end Handshakes

/-- The handshake has failed, though no request was taken off what was read: the client does not serve,
    or it still negotiates, or what it has sent is as it was. -/
inductive Unheard (ctx : Context) (s : Session) (w : Work) (es : Transcript) : Prop where
  | gone : es.Fails .client → Unheard ctx s w es
  | negotiating : w.session.stage.IsNegotiating → Unheard ctx s w es
  | idle : Handshakes ctx s (.ok ()) w es → Unheard ctx s w es

namespace Handler

variable {ctx : Context} {s : Session} {w : Work} {es : Transcript}

/-- Takes an accepted message off what was read, and answers it. -/
theorem accept_always (level : LogLevel) (text : String) {n : Nat} {data : Bytes} {next : Stage}
    (hc : w.session.client.stream.socket.role = .client) (hes : Transcript.OfClient es) :
    (do
      consume n
      log level text
      sendClient ctx data
      update fun s => { s with stage := next } : Handler Unit).Always w es
      (fun _ w' es' => Transcript.OfClient es' ∧ w'.session.stage = next ∧
        w'.session.inbound = w.session.inbound.drop n)
      (fun _ w' es' => Transcript.OfClient es' ∧ w'.session.stage = w.session.stage) := by
  rw [always_bind, consume, always_update, always_bind]
  refine tends_log.imp (fun _ w₁ es₁ h₁ => ?_) fun _ _ _ h => ⟨h.ofClient hes, h.stage⟩
  rw [always_bind]
  refine (sendClient_tends (h₁.role hc)).imp (fun _ w₂ es₂ h₂ => ?_)
    fun _ _ _ h => ⟨(h₁.trans h).ofClient hes, (h₁.trans h).stage⟩
  rw [always_update]
  exact ⟨(h₁.trans h₂).ofClient hes, rfl, (h₁.trans h₂).inbound⟩

/-- Says something to a client that is refused. -/
theorem sendLast_refuse_always {data : Bytes} {fault : WireError}
    {Q : Unit → Work → Transcript → Prop} {stage : Stage}
    (hc : w.session.client.stream.socket.role = .client) (hes : Transcript.OfClient es)
    (hst : w.session.stage = stage) :
    (sendLast ctx data >>= fun _ => refuse fault : Handler Unit).Always w es Q
      (fun _ w' es' => Transcript.OfClient es' ∧ w'.session.stage = stage) := by
  rw [always_bind]
  refine (sendLast_tends hc).imp (fun _ w₁ es₁ h₁ => ?_)
    fun _ _ _ h => ⟨h.ofClient hes, h.stage.trans hst⟩
  rw [always_refuse]
  exact ⟨h₁.ofClient hes, h₁.stage.trans hst⟩

/-- An answered greeting is taken off what was read. -/
theorem onGreeting_always (hc : w.session.client.stream.socket.role = .client)
    (hes : Transcript.OfClient es) :
    (onGreeting ctx).Always w es
      (fun _ w' es' => Transcript.OfClient es' ∧ w'.session.stage.isHandshake = true ∧
        w'.session.inbound.length < w.session.inbound.length)
      (fun _ w' es' => Transcript.OfClient es' ∧ w'.session.stage = w.session.stage) := by
  rw [onGreeting, always_bind, always_session]
  split
  · next fault hd =>
    cases fault with
    | unsupportedVersion v => exact sendLast_refuse_always hc hes rfl
    | _ => exact always_refuse.2 ⟨hes, rfl⟩
  · next offered n hd =>
    have hlt := length_drop_lt (Greeting.decode_pos hd) (Greeting.decode_le hd)
    cases hm : AuthMethod.select offered ctx.settings.authMethod with
    | none =>
      simp only
      rw [always_bind, consume, always_update]
      exact sendLast_refuse_always hc hes rfl
    | some method =>
      cases method <;>
        exact (accept_always .trace _ hc hes).imp
          (fun _ _ _ h => ⟨h.1, h.2.1 ▸ rfl, h.2.2 ▸ hlt⟩) fun _ _ _ h => h

/-- Accepted credentials are taken off what was read. -/
theorem onCredentials_always (hc : w.session.client.stream.socket.role = .client)
    (hes : Transcript.OfClient es) :
    (onCredentials ctx).Always w es
      (fun _ w' es' => Transcript.OfClient es' ∧ w'.session.stage.isHandshake = true ∧
        w'.session.inbound.length < w.session.inbound.length)
      (fun _ w' es' => Transcript.OfClient es' ∧ w'.session.stage = w.session.stage) := by
  rw [onCredentials, always_bind, always_session]
  split
  · exact always_refuse.2 ⟨hes, rfl⟩
  · next c n hd =>
    have hlt := length_drop_lt (Credentials.decode_pos hd) (Credentials.decode_front hd).1
    by_cases hm : c.isFor ctx.settings.username ctx.settings.password = true
    · simp only [hm, if_true]
      exact (accept_always .debug _ hc hes).imp
        (fun _ _ _ h => ⟨h.1, h.2.1 ▸ rfl, h.2.2 ▸ hlt⟩) fun _ _ _ h => h
    · simp only [hm]
      rw [always_bind, consume, always_update, if_neg (by simp), always_bind]
      refine tends_log.imp (fun _ w₁ es₁ h₁ => ?_) fun _ _ _ h => ⟨h.ofClient hes, h.stage⟩
      exact sendLast_refuse_always (h₁.role hc) (h₁.ofClient hes) h₁.stage

/-- A message of the negotiation leads on in the handshake, and is taken off what was read. -/
theorem onMessage_negotiates (hs : s.Shaped) (hn : Handshakes ctx s (.ok ()) w es)
    (hst : w.session.stage.IsNegotiating) :
    (onMessage ctx w.session.stage).Always w es
      (fun _ w' es' => Handshakes ctx s (.ok ()) w' es' ∧
        w'.session.inbound.length < w.session.inbound.length)
      (fun e w' es' => Handshakes ctx s (.error e) w' es' ∧ w'.session.stage.IsNegotiating) := by
  have hw : (onMessage ctx w.session.stage).Walks ctx s.stage s w es :=
    onMessage_walks hn.steps (hn.shaped hs) hn.isHandshake
  have hc := hn.role hs
  have hnegotiating {stage : Stage} (h : stage = w.session.stage) : stage.IsNegotiating := h ▸ hst
  rcases hst with hst | hst <;> rw [hst] at hw ⊢
  · exact (hw.and (onGreeting_always hc hn.calls)).imp
      (fun _ _ _ h => ⟨⟨h.1, h.2.1, h.2.2.1⟩, h.2.2.2⟩)
      fun _ _ _ h => ⟨⟨h.1, h.2.1, h.2.2 ▸ hn.isHandshake⟩, hnegotiating h.2.2⟩
  · exact (hw.and (onCredentials_always hc hn.calls)).imp
      (fun _ _ _ h => ⟨⟨h.1, h.2.1, h.2.2.1⟩, h.2.2.2⟩)
      fun _ _ _ h => ⟨⟨h.1, h.2.1, h.2.2 ▸ hn.isHandshake⟩, hnegotiating h.2.2⟩

/-! ## Bursts -/

section
variable {Q : Unit → Work → Transcript → Prop} {E : SessionError → Work → Transcript → Prop}

/-- What a request leads to: the handshake is over and `Q` holds, or the session ends and `E` holds. A
    request that is cut short changes nothing. -/
def Requests (ctx : Context) (w : Work) (es : Transcript) (Q : Unit → Work → Transcript → Prop)
    (E : SessionError → Work → Transcript → Prop) : Prop :=
  (onRequest ctx).Always w es
    (fun _ w' es' => w'.session.stage.isHandshake = false ∧ Q () w' es')
    (fun e w' es' => (∀ needed available, e = .violation (.truncated needed available) →
      w' = w ∧ es' = es) ∧ (e.IsFinal → E e w' es'))

theorem Requests.imp {Q' : Unit → Work → Transcript → Prop} (h : Requests ctx w es Q E)
    (hQ : ∀ w' es', w'.session.stage.isHandshake = false → Q () w' es' → Q' () w' es') :
    Requests ctx w es Q' E :=
  Always.imp h (fun _ w' es' h => ⟨h.1, hQ w' es' h.1 h.2⟩) fun _ _ _ h => h

theorem parse_handshake {burstDone : Bool} {n : Nat} (hs : s.Shaped)
    (hn : Handshakes ctx s (.ok ()) w es) (hlen : w.session.inbound.length ≤ n)
    (hgoes : ∀ w' es', Handshakes ctx s (.ok ()) w' es' →
      (burstDone = true → w'.session.inbound = []) → Q () w' es')
    (hfails : ∀ e w' es', Handshakes ctx s (.error e) w' es' → Unheard ctx s w' es' → E e w' es')
    (hrequest : ∀ w' es', Handshakes ctx s (.ok ()) w' es' → w'.session.stage = .authenticated →
      Requests ctx w' es' Q E) :
    (parse ctx burstDone n).Always w es Q E := by
  induction n generalizing w es with
  | zero =>
    rw [parse, always_pure]
    exact hgoes w es hn fun _ => List.eq_nil_of_length_eq_zero (Nat.le_zero.1 hlen)
  | succ n ih =>
    rw [parse, always_bind, always_session, hn.isHandshake]
    split
    · next hstop =>
      rw [always_pure]
      exact hgoes w es hn fun _ => by simpa using hstop
    · -- A message that is cut short is looked at again, unless nothing more is to come.
      have hcut {needed available : Nat} {w' : Work} {es' : Transcript}
          (h' : Handshakes ctx s (.ok ()) w' es') :
          (if burstDone = true then refuse (.truncated needed available) else pure () :
            Handler Unit).Always w' es' Q E := by
        split
        · exact always_refuse.2 (hfails _ _ _ (h'.cut needed available) (.idle h'))
        · next hb => exact always_pure.2 (hgoes _ _ h' fun h => absurd h hb)
      rw [always_bind, always_outcome]
      rcases Stage.negotiating_or_authenticated hn.isHandshake with hst | hst
      · refine (onMessage_negotiates hs hn hst).imp ?_ fun e w₁ es₁ h₁ => ?_
        · rintro _ w₁ es₁ ⟨h₁, hlt⟩
          exact ih h₁ (by omega)
        · split
          · next heq => cases heq
          · next heq =>
            cases heq
            exact hcut h₁.1.of_cut
          · next heq =>
            cases heq
            exact always_fail.2 (hfails _ _ _ h₁.1 (.negotiating h₁.2))
      · rw [hst]
        refine Always.imp (hrequest w es hn hst) ?_ ?_
        · rintro _ w₁ es₁ ⟨hout, hq⟩
          cases n with
          | zero => exact always_pure.2 hq
          | succ n =>
            rw [parse, always_bind, always_session, hout, if_pos (by simp), always_pure]
            exact hq
        · rintro e w₁ es₁ ⟨hshort, he⟩
          split
          · next heq => cases heq
          · next heq =>
            cases heq
            obtain ⟨rfl, rfl⟩ := hshort _ _ rfl
            exact hcut hn
          · next hne heq =>
            cases heq
            exact always_fail.2 (he fun needed available h => hne needed available (by rw [h]))

theorem parseAll_handshake {burstDone : Bool} (hs : s.Shaped) (hn : Handshakes ctx s (.ok ()) w es)
    (hgoes : ∀ w' es', Handshakes ctx s (.ok ()) w' es' →
      (burstDone = true → w'.session.inbound = []) → Q () w' es')
    (hfails : ∀ e w' es', Handshakes ctx s (.error e) w' es' → Unheard ctx s w' es' → E e w' es')
    (hrequest : ∀ w' es', Handshakes ctx s (.ok ()) w' es' → w'.session.stage = .authenticated →
      Requests ctx w' es' Q E) :
    (parseAll ctx burstDone).Always w es Q E := by
  rw [parseAll, always_bind, always_session]
  exact parse_handshake hs hn (Nat.le_refl _) hgoes hfails hrequest

/-- Behind a request `Q` holds, and also when the client is registered anew, since it may have sent
    more. -/
def Leaves (Q : Unit → Work → Transcript → Prop) (E : SessionError → Work → Transcript → Prop)
    (_ : Unit) (w : Work) (es : Transcript) : Prop :=
  Q () w es ∧ (onClientStream (·.resume)).Always w es Q E

theorem readHandshake_handshake {turns : Nat} (hs : s.Shaped) (hst : s.stage.isHandshake = true)
    (hn : Handshakes ctx s (.ok ()) w es)
    (hgoes : ∀ w' es', Handshakes ctx s (.ok ()) w' es' → w'.session.inbound = [] → Q () w' es')
    (hfails : ∀ e w' es', Handshakes ctx s (.error e) w' es' → Unheard ctx s w' es' → E e w' es')
    (hrequest : ∀ w' es', Handshakes ctx s (.ok ()) w' es' → w'.session.stage = .authenticated →
      Requests ctx w' es' (Leaves Q E) E) :
    (readHandshake ctx turns).Always w es Q E := by
  induction turns generalizing w es with
  | zero =>
    rw [readHandshake, always_talk]
    exact fun _ _ h => absurd h not_run_stuck
  | succ turns ih =>
    rw [readHandshake, always_bind, always_session, always_bind, always_attempt]
    intro es₁ x h₁
    have hcalls := hn.calls.append
      (Transcript.ofClient_of_receive (Stream.receive_all h₁) (hn.role hs))
    have hne {stage : Stage} (h : stage.isHandshake = false) : w.session.stage ≠ stage := by
      intro heq
      have := hn.isHandshake
      rw [heq, h] at this
      exact absurd this Bool.false_ne_true
    have hpolled (hx : ∀ b, x ≠ .ok (.data b)) :
        Handshakes ctx s (Received.verdict x) w (es ++ es₁) :=
      ⟨hn.steps.snoc (.clientPolled ⟨hne rfl, .inr ⟨hst, hn.isHandshake⟩⟩
        (fun h => absurd h (hne rfl)) h₁ hx), hcalls, hn.isHandshake⟩
    have hgone (hx : x = .ok .closed ∨ ∃ e, x = .error e) : Unheard ctx s w (es ++ es₁) :=
      .gone (.right (hn.role hs ▸ Stream.receive_fails h₁ hx))
    rcases x with e | b | _ | _
    · exact hfails _ _ _ (hpolled (by rintro _ ⟨⟩)) (hgone (.inr ⟨e, rfl⟩))
    · simp only
      rw [always_bind, always_update, always_bind]
      have hheard : Handshakes ctx s (.ok ())
          { w with session := { w.session with inbound := w.session.inbound ++ b } } (es ++ es₁) :=
        ⟨hn.steps.snoc (.heard hst hn.isHandshake h₁), hcalls, hn.isHandshake⟩
      refine parseAll_handshake hs hheard (fun w₂ es₂ h₂ _ => ?_) hfails fun w₂ es₂ h₂ hst₂ =>
        (hrequest w₂ es₂ h₂ hst₂).imp fun w₃ es₃ hout h₃ => ?_
      · rw [always_bind, always_session, h₂.isHandshake, if_neg (by simp)]
        split
        · exact always_refuse.2 (hfails _ _ _ (h₂.fails (by rintro _ _ ⟨⟩)) (.idle h₂))
        · exact ih h₂
      · rw [always_bind, always_session, hout, if_pos (by simp)]
        exact h₃.2
    · exact parseAll_handshake hs (hpolled (by rintro _ ⟨⟩))
        (fun w₂ es₂ h₂ hin => hgoes w₂ es₂ h₂ (hin rfl)) hfails
        fun w₂ es₂ h₂ hst₂ => (hrequest w₂ es₂ h₂ hst₂).imp fun _ _ _ h => h.1
    · exact always_fail.2 (hfails _ _ _ (hpolled (by rintro _ ⟨⟩)) (hgone (.inl rfl)))

theorem onClient_handshake {r : Readiness} (hw : w.session.Shaped)
    (hst : w.session.stage.isHandshake = true) (hin : w.session.inbound = [])
    (hgoes : ∀ w' es', Handshakes ctx w.session (.ok ()) w' es' → w'.session.inbound = [] →
      Q () w' es')
    (hfails : ∀ e w' es', Handshakes ctx w.session (.error e) w' es' →
      Unheard ctx w.session w' es' → E e w' es')
    (hrequest : ∀ w' es', Handshakes ctx w.session (.ok ()) w' es' →
      w'.session.stage = .authenticated → Requests ctx w' es' (Leaves Q E) E) :
    (onClient ctx r).Always w [] Q E := by
  have hc := congrArg Socket.role hw.client
  have hrefl : Handshakes ctx w.session (.ok ()) w [] := .refl hst
  -- Behind the flush only the read is left.
  have hread {w₁ : Work} {es₁ : Transcript} (h₁ : Handshakes ctx w.session (.ok ()) w₁ es₁)
      (hin₁ : w₁.session.inbound = []) :
      (if r.readable = true then readClient ctx else pure () : Handler Unit).Always w₁ es₁ Q E := by
    split
    · have hhandshake : (if w₁.session.client.stream.hasPending then pure ()
          else readHandshake ctx ctx.turns : Handler Unit).Always w₁ es₁ Q E := by
        split
        · exact always_pure.2 (hgoes w₁ es₁ h₁ hin₁)
        · exact readHandshake_handshake hw hst h₁ hgoes hfails hrequest
      unfold readClient
      rw [always_bind, always_session]
      have hst₁ := h₁.isHandshake
      cases h : w₁.session.stage <;> rw [h] at hst₁ <;> first | exact hhandshake | nomatch hst₁
    · exact always_pure.2 (hgoes w₁ es₁ h₁ hin₁)
  unfold onClient
  by_cases he : r.error = true
  · rw [if_pos he, always_bind, always_session, always_bind, always_ask]
    intro (x : Except IoError (Option IoError))
    have hasked : Handshakes ctx w.session (.ok ()) w ([] ++ [⟨.pendingError _, x⟩]) :=
      ⟨hrefl.steps.call rfl, Transcript.ofClient_singleton hc, hst⟩
    exact always_bind.2 (always_fail.2 (hfails _ _ _ (hasked.fails nofun) (.idle hasked)))
  rw [if_neg he]
  by_cases hh : r.hangup = true
  · rw [if_pos hh, always_bind, always_fail]
    exact hfails _ _ _ (hrefl.fails nofun) (.idle hrefl)
  rw [if_neg hh]
  by_cases hf : r.writable = true
  · rw [if_pos hf, always_bind]
    have hne : w.session.stage ≠ .connected := by
      intro h
      rw [h] at hst
      nomatch hst
    exact ((flushClient_walks hrefl.steps hw).and (flushClient_perseveres hc hne)).imp
      (fun _ w₁ es₁ ⟨⟨hs₁, hst₁, hin₁⟩, ht₁⟩ =>
        hread ⟨hs₁, ht₁.ofClient hrefl.calls, hst₁ ▸ hst⟩ (hin₁.trans hin))
      fun _ _ _ ⟨hs₁, ht₁, hf₁⟩ =>
        hfails _ _ _ ⟨hs₁, ht₁.ofClient hrefl.calls, ht₁.stage ▸ hst⟩ (.gone hf₁)
  · rw [if_neg hf]
    exact hread hrefl hin

/-- In the handshake only the client is listened to. -/
theorem onEvent_handshake {role : Role} {r : Readiness} (hw : w.session.Shaped)
    (hst : w.session.stage.isHandshake = true) (hin : w.session.inbound = [])
    (hgoes : ∀ w' es', Handshakes ctx w.session (.ok ()) w' es' → w'.session.inbound = [] →
      Q () w' es')
    (hfails : ∀ e w' es', Handshakes ctx w.session (.error e) w' es' →
      Unheard ctx w.session w' es' → E e w' es')
    (hrequest : ∀ w' es', Handshakes ctx w.session (.ok ()) w' es' →
      w'.session.stage = .authenticated → Requests ctx w' es' (Leaves Q E) E) :
    (onEvent ctx role r).Always w [] Q E := by
  obtain ⟨hlookups, hremote, hrelay, -⟩ := (Session.holds_handshake hst).1 hw.holds
  have hidle := hgoes w [] (.refl hst) hin
  cases role with
  | client => exact onClient_handshake hw hst hin hgoes hfails hrequest
  | remote =>
    rw [onEvent, onRemote, always_bind, always_session, hremote]
    exact always_pure.2 hidle
  | relay =>
    rw [onEvent, onRelay, always_bind, always_session, hrelay]
    exact always_pure.2 hidle
  | query slot =>
    rw [onEvent, onLookup, always_bind, always_session]
    split
    · next lookup hlookup => exact absurd hlookup (hlookups.getElem? slot lookup)
    · exact always_pure.2 hidle

end

end Handler

end SocksProxy
