/-
  Work on the stream of the client alone.

  Much of what handlers do is said to the client or read from it, and changes nothing but its stream
  (`Tended`). What a client says while it has no business to say anything is such work, too
  (`onClient_tends`), and ends the session only if the client does not serve (`onClient_perseveres`).
-/
import SocksProxy.Proofs.Faults
import SocksProxy.Proofs.TurnSteps

namespace SocksProxy

open Dialogue

/-! ## Calls -/

/-- The call is about the stream of the client, or is a line of the log. -/
def SessionCall.IsOfClient : SessionCall → Prop
  | .send s _ | .receive s _ | .register s _ | .reregister s _ | .deregister s | .pendingError s =>
    s.role = .client
  | .log _ _ => True
  | _ => False

namespace Transcript

/-- All calls are about the stream of the client. -/
def OfClient (es : Transcript) : Prop :=
  ∀ e ∈ es, e.1.IsOfClient

variable {es es' : Transcript} {e : SessionEvent} {socket : Socket}

theorem ofClient_nil : OfClient [] :=
  List.forall_mem_nil _

theorem OfClient.append (h : OfClient es) (h' : OfClient es') : OfClient (es ++ es') :=
  List.forall_mem_append.2 ⟨h, h'⟩

theorem ofClient_singleton (h : e.1.IsOfClient) : OfClient [e] :=
  List.forall_mem_singleton.2 h

theorem ofClient_of_work (h : All (Verb.IsWorkOn socket) es) (hs : socket.role = .client) :
    OfClient es := by
  intro e he
  obtain ⟨c, a⟩ := e
  have hv := h _ he
  cases c <;> rcases hv with hv | hv <;> simp only [SessionCall.verb, reduceCtorEq] at hv
  all_goals
    cases hv
    exact hs

theorem ofClient_of_receive (h : All (· = .receive socket) es) (hs : socket.role = .client) :
    OfClient es := by
  intro e he
  obtain ⟨c, a⟩ := e
  have hv := h _ he
  cases c <;> simp only [SessionCall.verb, reduceCtorEq] at hv
  cases hv
  exact hs

theorem OfClient.not_connect (h : OfClient es) : All (fun v => ∀ s, v ≠ .connect s) es := by
  intro e he s hs
  obtain ⟨c, a⟩ := e
  have hc := h _ he
  cases c <;> simp only [SessionCall.verb, reduceCtorEq] at hs
  exact hc

end Transcript

/-! ## Handlers -/

/-- Between the two states only the stream of the client has changed, by calls about it alone. -/
def Tended (w : Work) (es : Transcript) (w' : Work) (es' : Transcript) : Prop :=
  ∃ stream es₁, w' = { w with session := w.session.withClientStream stream } ∧
    stream.socket = w.session.client.stream.socket ∧ es' = es ++ es₁ ∧ Transcript.OfClient es₁

namespace Tended

variable {w w₁ w₂ : Work} {es es₁ es₂ : Transcript}

theorem refl : Tended w es w es :=
  ⟨w.session.client.stream, [], rfl, rfl, (List.append_nil es).symm, Transcript.ofClient_nil⟩

theorem trans (h : Tended w es w₁ es₁) (h' : Tended w₁ es₁ w₂ es₂) : Tended w es w₂ es₂ := by
  obtain ⟨stream, es₃, rfl, hs, rfl, h₃⟩ := h
  obtain ⟨stream', es₄, rfl, hs', rfl, h₄⟩ := h'
  exact ⟨stream', es₃ ++ es₄, rfl, hs'.trans hs, List.append_assoc .., h₃.append h₄⟩

/-- One more call. -/
theorem call (h : Tended w es w₁ es₁) {e : SessionEvent} (he : e.1.IsOfClient) :
    Tended w es w₁ (es₁ ++ [e]) :=
  h.trans ⟨w₁.session.client.stream, [e], rfl, rfl, rfl, Transcript.ofClient_singleton he⟩

theorem of_work {α : Type} {data : Bytes} {r : Except IoError α} {stream : Stream} (es : Transcript)
    (h : w.session.client.stream.Worked data es₁ r stream)
    (hc : w.session.client.stream.socket.role = .client) :
    Tended w es { w with session := w.session.withClientStream stream } (es ++ es₁) :=
  ⟨stream, es₁, rfl, h.socket, rfl, Transcript.ofClient_of_work h.calls hc⟩

theorem of_receive {turns : Nat} {x : Except IoError Received} (es : Transcript)
    (h : Run (w.session.client.stream.receive turns) es₁ x)
    (hc : w.session.client.stream.socket.role = .client) : Tended w es w (es ++ es₁) :=
  ⟨w.session.client.stream, es₁, rfl, rfl, rfl,
    Transcript.ofClient_of_receive (Stream.receive_all h) hc⟩

theorem role (h : Tended w es w₁ es₁) (hc : w.session.client.stream.socket.role = .client) :
    w₁.session.client.stream.socket.role = .client := by
  obtain ⟨stream, es₁, rfl, hs, -, -⟩ := h
  exact (congrArg Socket.role hs).trans hc

theorem stage (h : Tended w es w₁ es₁) : w₁.session.stage = w.session.stage := by
  obtain ⟨stream, es₁, rfl, -⟩ := h
  rfl

theorem inbound (h : Tended w es w₁ es₁) : w₁.session.inbound = w.session.inbound := by
  obtain ⟨stream, es₁, rfl, -⟩ := h
  rfl

theorem ofClient (h : Tended w es w₁ es₁) (hes : Transcript.OfClient es) :
    Transcript.OfClient es₁ := by
  obtain ⟨stream, es₁, rfl, -, rfl, h₁⟩ := h
  exact hes.append h₁

end Tended

namespace Handler

variable {α : Type} {ctx : Context} {w : Work} {es : Transcript} {data : Bytes}

/-- At every end only the stream of the client has changed. -/
def Tends (h : Handler α) (w : Work) (es : Transcript) : Prop :=
  h.Always w es (fun _ w' es' => Tended w es w' es') fun _ w' es' => Tended w es w' es'

/-- At every end only the stream of the client has changed, and the session ends only if the client does
    not serve. -/
def Perseveres (h : Handler α) (w : Work) (es : Transcript) : Prop :=
  h.Always w es (fun _ w' es' => Tended w es w' es')
    fun _ w' es' => Tended w es w' es' ∧ es'.Fails .client

theorem Perseveres.tends {h : Handler α} (hh : h.Perseveres w es) : h.Tends w es :=
  Always.imp hh (fun _ _ _ h => h) fun _ _ _ h => h.1

theorem Perseveres.bind {β : Type} {h : Handler α} {f : α → Handler β} (hh : h.Perseveres w es)
    (hf : ∀ a w' es', Tended w es w' es' → (f a).Perseveres w' es') : (h >>= f).Perseveres w es := by
  rw [Perseveres, always_bind]
  refine Always.imp hh (fun a w₁ es₁ h₁ => ?_) fun _ _ _ h => h
  exact Always.imp (hf a w₁ es₁ h₁) (fun _ _ _ h₂ => h₁.trans h₂) fun _ _ _ h₂ =>
    ⟨h₁.trans h₂.1, h₂.2⟩

theorem perseveres_pure {a : α} : (pure a : Handler α).Perseveres w es :=
  always_pure.2 .refl

theorem perseveres_log {mark : LogMark} {level : LogLevel} {source : LogSource} {text : String} :
    (talk (Talk.log mark level source text)).Perseveres w es := by
  rw [Perseveres, always_talk]
  intro es₁ _ h₁
  obtain rfl := run_log_iff.1 h₁
  exact Tended.call .refl trivial

theorem tends_log {level : LogLevel} {text : String} : (log level text).Tends w es :=
  perseveres_log.tends

theorem sendClient_tends (hc : w.session.client.stream.socket.role = .client) :
    (sendClient ctx data).Tends w es :=
  always_sendClient fun es₁ r stream h₁ => by
    have h := Tended.of_work es h₁.worked hc
    cases r <;> exact h

theorem sendLast_tends (hc : w.session.client.stream.socket.role = .client) :
    (sendLast ctx data).Tends w es := by
  simp only [sendLast, Tends, always_bind, always_session, always_talk, always_update]
  rintro es₁ ⟨r, stream⟩ h₁
  have h := Tended.of_work es (Stream.send_cases h₁).1 hc
  cases r with
  | ok f => exact always_pure.2 h
  | error e =>
    exact perseveres_log.tends.imp (fun _ _ _ h₂ => h.trans h₂) fun _ _ _ h₂ => h.trans h₂

theorem resumeClient_perseveres (hc : w.session.client.stream.socket.role = .client) :
    (onClientStream (·.resume)).Perseveres w es := by
  rw [Perseveres, always_onClientStream]
  intro es₁ r stream h₁
  have h := Tended.of_work es (Stream.resume_cases h₁).1 hc
  cases r with
  | error e => exact ⟨h, .right (hc ▸ Stream.resume_fails h₁)⟩
  | ok _ => exact h

theorem flushClient_perseveres (hc : w.session.client.stream.socket.role = .client)
    (hst : w.session.stage ≠ .connected) : (flushClient ctx).Perseveres w es := by
  have hflush : (onClientStream (·.flush ctx.turns)).Perseveres w es := by
    rw [Perseveres, always_onClientStream]
    intro es₁ r stream h₁
    have h := Tended.of_work es (Stream.flush_cases h₁).1 hc
    cases r with
    | error e => exact ⟨h, .right (hc ▸ Stream.flush_fails h₁)⟩
    | ok f => exact h
  rw [flushClient]
  refine hflush.bind fun f w₁ es₁ h₁ => ?_
  cases f with
  | pending => exact perseveres_pure
  | drained =>
    refine (resumeClient_perseveres (h₁.role hc)).bind fun _ w₂ es₂ h₂ => ?_
    rw [Perseveres, always_bind, always_session, if_neg (by rw [(h₁.trans h₂).stage]; exact hst)]
    exact perseveres_pure

theorem discardReads_perseveres {n discarded : Nat}
    (hc : w.session.client.stream.socket.role = .client) :
    (discardReads ctx n discarded).Perseveres w es := by
  induction n generalizing discarded es with
  | zero => exact perseveres_pure
  | succ n ih =>
    rw [Perseveres, discardReads, always_bind, always_session, always_bind, always_attempt]
    intro es₁ x h₁
    have h := Tended.of_receive es h₁ hc
    have hfails (hx : x = .ok .closed ∨ ∃ e, x = .error e) : (es ++ es₁).Fails .client :=
      .right (hc ▸ Stream.receive_fails h₁ hx)
    rcases x with e | b | _ | _
    · exact ⟨h, hfails (.inr ⟨e, rfl⟩)⟩
    · exact ih.imp (fun _ _ _ h₂ => h.trans h₂) fun _ _ _ h₂ => ⟨h.trans h₂.1, h₂.2⟩
    · exact always_pure.2 h
    · exact always_fail.2 ⟨h, hfails (.inl rfl)⟩

theorem discard_perseveres (hc : w.session.client.stream.socket.role = .client) :
    (discard ctx).Perseveres w es := by
  rw [discard]
  refine (discardReads_perseveres hc).bind fun a w₁ es₁ h₁ => ?_
  obtain ⟨discarded, drained⟩ := a
  have hrest {w₂ : Work} {es₂ : Transcript} (h₂ : Tended w es w₂ es₂) :
      (if !drained then onClientStream (·.resume) else pure () : Handler Unit).Perseveres w₂ es₂ := by
    split
    · exact resumeClient_perseveres (h₂.role hc)
    · exact perseveres_pure
  simp only
  split
  · rw [Perseveres, always_bind, always_session]
    exact perseveres_log.bind fun _ _ _ h₂ => hrest (h₁.trans h₂)
  · exact hrest h₁

/-- A client that has to wait, or has nothing more to say, is listened to, unless the event says that it
    is gone. -/
theorem onClient_perseveres {r : Readiness} (hc : w.session.client.stream.socket.role = .client)
    (hst : w.session.stage = .resolving ∨ w.session.stage = .connecting ∨
      w.session.stage = .associated) (he : r.error ≠ true) (hh : r.hangup ≠ true) :
    (onClient ctx r).Perseveres w es := by
  have hread {w₁ : Work} {es₁ : Transcript} (h₁ : Tended w es w₁ es₁) :
      (if r.readable = true then readClient ctx else pure () : Handler Unit).Perseveres w₁ es₁ := by
    split
    · rw [Perseveres, readClient, always_bind, always_session, h₁.stage]
      rcases hst with h | h | h <;> rw [h]
      · exact discard_perseveres (h₁.role hc)
      · exact perseveres_pure
      · exact discard_perseveres (h₁.role hc)
    · exact perseveres_pure
  have hne : w.session.stage ≠ .connected := by
    rcases hst with h | h | h <;> rw [h] <;> simp
  rw [onClient, if_neg he, if_neg hh]
  by_cases hf : r.writable = true
  · rw [if_pos hf]
    exact (flushClient_perseveres hc hne).bind fun _ _ _ h₁ => hread h₁
  · rw [if_neg hf]
    exact hread .refl

/-- While a client has to wait, or has nothing more to say, its events change nothing else. -/
theorem onClient_tends {r : Readiness} (hc : w.session.client.stream.socket.role = .client)
    (hst : w.session.stage = .resolving ∨ w.session.stage = .connecting ∨
      w.session.stage = .associated) : (onClient ctx r).Tends w es := by
  by_cases he : r.error = true
  · rw [onClient, if_pos he, Tends, always_bind, always_session, always_bind, always_ask]
    intro (x : Except IoError (Option IoError))
    exact always_bind.2 (always_fail.2 (Tended.call .refl hc))
  by_cases hh : r.hangup = true
  · rw [onClient, if_neg he, if_pos hh, Tends, always_bind, always_fail]
    exact .refl
  exact (onClient_perseveres hc hst he hh).tends

end Handler

end SocksProxy
