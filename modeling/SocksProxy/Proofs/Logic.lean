/-
  Reasoning about handlers: what holds at the end of every run.

  `Handler.Always h w es Q E` says that each run of `h` from `w`, behind the calls `es`, ends as `Q`
  says if it has a result, and as `E` says if it ends the session. The `always_` lemmas take a
  handler apart step by step, down to the runs of the dialogues that it is made of.
-/
import SocksProxy.Proofs.State
import SocksProxy.Session.Handle

namespace SocksProxy

open Dialogue

/-- A call of a session with its answer. -/
abbrev SessionEvent := SessionNet.Event

/-- The calls that a session made, in order. -/
abbrev Transcript := List SessionEvent

namespace Dialogue

variable {I : Interface} {α β : Type}

theorem run_done_iff {a b : α} {es : List I.Event} : Run (.done a) es b ↔ es = [] ∧ b = a :=
  ⟨fun h => by cases h; exact ⟨rfl, rfl⟩, by rintro ⟨rfl, rfl⟩; exact .done⟩

theorem run_pure_iff {a b : α} {es : List I.Event} :
    Run (pure a : Dialogue I α) es b ↔ es = [] ∧ b = a :=
  run_done_iff

theorem run_ask_iff {c : I.Call} {next : I.Answer c → Dialogue I α} {es : List I.Event} {a : α} :
    Run (.ask c next) es a ↔ ∃ r es', es = ⟨c, r⟩ :: es' ∧ Run (next r) es' a := by
  constructor
  · intro h
    cases h with
    | ask h => exact ⟨_, _, rfl, h⟩
  · rintro ⟨r, es', rfl, h⟩
    exact .ask h

theorem run_call_iff {c : I.Call} {es : List I.Event} {a : I.Answer c} :
    Run (call c) es a ↔ es = [⟨c, a⟩] := by
  constructor
  · intro h
    obtain ⟨r, es', rfl, h'⟩ := run_ask_iff.1 h
    obtain ⟨rfl, rfl⟩ := run_done_iff.1 h'
    rfl
  · rintro rfl
    exact .ask .done

theorem not_run_stuck {es : List I.Event} {a : α} : ¬ Run (.stuck : Dialogue I α) es a :=
  nofun

theorem via_bind {J : Interface} {route : Route I J} {p : Dialogue I α} {f : α → Dialogue I β} :
    (p >>= f).via route = p.via route >>= fun a => (f a).via route := by
  induction p with
  | done a => rfl
  | ask c next ih => exact congrArg (Dialogue.ask (route c).1) (funext fun r => ih _)
  | stuck => rfl

theorem run_monad_bind_iff {p : Dialogue I α} {f : α → Dialogue I β} {es : List I.Event} {b : β} :
    Run (p >>= f) es b ↔ ∃ es₁ es₂ a, es = es₁ ++ es₂ ∧ Run p es₁ a ∧ Run (f a) es₂ b :=
  run_bind_iff

/-- What is done with results that never come about is of no matter. -/
theorem bind_congr_of_run {p : Dialogue I α} {f g : α → Dialogue I β}
    (h : ∀ es a, Run p es a → f a = g a) : p.bind f = p.bind g := by
  induction p with
  | done a => exact h [] a .done
  | ask c next ih =>
    exact congrArg (Dialogue.ask c) (funext fun r => ih r fun es a hr => h _ a (.ask hr))
  | stuck => rfl

end Dialogue

namespace Handler

variable {α β : Type}

/-! ## Runs of a handler -/

section
variable {h : Handler α} {f : α → Handler β} {w w' : Work} {es es' : Transcript}

theorem run_bind {a : α} {x : Except SessionError β × Work} (hh : Run (h.exec w) es (.ok a, w'))
    (hf : Run ((f a).exec w') es' x) : Run ((h >>= f).exec w) (es ++ es') x := by
  rw [exec_bind]
  exact run_bind_iff.2 ⟨es, es', _, rfl, hh, hf⟩

theorem run_bind_error {e : SessionError} (hh : Run (h.exec w) es (.error e, w')) :
    Run ((h >>= f).exec w) es (.error e, w') := by
  rw [exec_bind]
  exact run_bind_iff.2 ⟨es, [], _, (List.append_nil es).symm, hh, .done⟩

/-- A sequence gets to its second part, or ends in the first. -/
theorem run_bind_cases {r : Except SessionError β} (hr : Run ((h >>= f).exec w) es (r, w')) :
    (∃ es₁ es₂ a w₁, es = es₁ ++ es₂ ∧ Run (h.exec w) es₁ (.ok a, w₁) ∧
      Run ((f a).exec w₁) es₂ (r, w')) ∨
    ∃ e, r = .error e ∧ Run (h.exec w) es (.error e, w') := by
  rw [exec_bind] at hr
  obtain ⟨es₁, es₂, ⟨x, w₁⟩, rfl, h₁, h₂⟩ := run_bind_iff.1 hr
  cases x with
  | ok a => exact .inl ⟨es₁, es₂, a, w₁, rfl, h₁, h₂⟩
  | error e =>
    obtain ⟨rfl, heq⟩ := run_done_iff.1 h₂
    cases heq
    exact .inr ⟨e, rfl, by rwa [List.append_nil]⟩

/-- The outcome of the first part is what the second one goes by. -/
theorem run_outcome_bind_iff {f : Except SessionError α → Handler β}
    {x : Except SessionError β × Work} :
    Run ((outcome h >>= f).exec w) es x ↔ ∃ es₁ es₂ r w₁, es = es₁ ++ es₂ ∧
      Run (h.exec w) es₁ (r, w₁) ∧ Run ((f r).exec w₁) es₂ x := by
  rw [exec_bind, exec_outcome, Dialogue.bind_assoc, run_bind_iff]
  simp only [Prod.exists, Dialogue.bind]

end

/-- Every run of the handler from `w`, behind the calls `es`, ends as `Q` says, or as `E` says if it
    ends the session. -/
def Always (h : Handler α) (w : Work) (es : Transcript) (Q : α → Work → Transcript → Prop)
    (E : SessionError → Work → Transcript → Prop) : Prop :=
  ∀ es' r w', Run (h.exec w) es' (r, w') →
    match r with
    | .ok a => Q a w' (es ++ es')
    | .error e => E e w' (es ++ es')

variable {w : Work} {es : Transcript} {Q : α → Work → Transcript → Prop}
  {E : SessionError → Work → Transcript → Prop}

theorem Always.imp {h : Handler α} {Q' : α → Work → Transcript → Prop}
    {E' : SessionError → Work → Transcript → Prop} (ha : h.Always w es Q E)
    (hQ : ∀ a w es, Q a w es → Q' a w es) (hE : ∀ e w es, E e w es → E' e w es) :
    h.Always w es Q' E' := by
  intro es' r w' hr
  cases r with
  | ok a => exact hQ _ _ _ (ha es' _ w' hr)
  | error e => exact hE _ _ _ (ha es' _ w' hr)

theorem Always.and {h : Handler α} {Q' : α → Work → Transcript → Prop}
    {E' : SessionError → Work → Transcript → Prop} (ha : h.Always w es Q E)
    (ha' : h.Always w es Q' E') :
    h.Always w es (fun a w es => Q a w es ∧ Q' a w es) (fun e w es => E e w es ∧ E' e w es) := by
  intro es' r w' hr
  have h₁ := ha es' r w' hr
  have h₂ := ha' es' r w' hr
  cases r <;> exact ⟨h₁, h₂⟩

/-- What holds behind no calls holds behind others of the calls that follow them. -/
theorem Always.shift {h : Handler α} (ha : h.Always w [] Q E) (es : Transcript) :
    h.Always w es (fun a w' es' => ∃ es₁, es' = es ++ es₁ ∧ Q a w' es₁)
      (fun e w' es' => ∃ es₁, es' = es ++ es₁ ∧ E e w' es₁) := by
  intro es' r w' hr
  have h₁ := ha es' r w' hr
  cases r <;> exact ⟨es', rfl, h₁⟩

/-- The calls that were made stay made. -/
theorem Always.grows {h : Handler α} (ha : h.Always w es Q E) :
    h.Always w es (fun a w' es' => Q a w' es' ∧ es <+: es')
      (fun e w' es' => E e w' es' ∧ es <+: es') := by
  intro es' r w' hr
  have := ha es' r w' hr
  cases r <;> exact ⟨this, List.prefix_append es es'⟩

/-! ## Results and ends -/

theorem always_pure {a : α} : (pure a : Handler α).Always w es Q E ↔ Q a w es := by
  constructor
  · intro h
    simpa using h [] (.ok a) w .done
  · intro h es' r w' hr
    obtain ⟨rfl, hr⟩ := run_done_iff.1 hr
    cases hr
    simpa using h

theorem always_fail {e : SessionError} : (fail e : Handler α).Always w es Q E ↔ E e w es := by
  constructor
  · intro h
    simpa using h [] (.error e) w .done
  · intro h es' r w' hr
    obtain ⟨rfl, hr⟩ := run_done_iff.1 hr
    cases hr
    simpa using h

theorem always_refuse {fault : WireError} :
    (refuse fault : Handler α).Always w es Q E ↔ E (.violation fault) w es :=
  always_fail

theorem always_check {r : Except IoError α} :
    (check r).Always w es Q E ↔ match r with
      | .ok a => Q a w es
      | .error e => E (.transport e) w es := by
  cases r with
  | ok a => exact always_pure
  | error e => exact always_fail

/-! ## Sequencing -/

theorem always_bind {h : Handler α} {f : α → Handler β} {Q : β → Work → Transcript → Prop} :
    (h >>= f).Always w es Q E ↔ h.Always w es (fun a w' es' => (f a).Always w' es' Q E) E := by
  constructor
  · intro hb es₁ r w₁ h₁
    cases r with
    | ok a =>
      intro es₂ r w₂ h₂
      have hr : Run ((h >>= f).exec w) (es₁ ++ es₂) (r, w₂) := by
        rw [exec_bind]; exact run_bind_iff.2 ⟨es₁, es₂, _, rfl, h₁, h₂⟩
      simpa [List.append_assoc] using hb _ _ _ hr
    | error e =>
      have hr : Run ((h >>= f).exec w) es₁ (.error e, w₁) := by
        rw [exec_bind]; exact run_bind_iff.2 ⟨es₁, [], _, by simp, h₁, .done⟩
      exact hb _ _ _ hr
  · intro hh es' r w' hr
    rw [exec_bind] at hr
    obtain ⟨es₁, es₂, ⟨a, w₁⟩, rfl, h₁, h₂⟩ := run_bind_iff.1 hr
    cases a with
    | ok a => simpa [List.append_assoc] using hh _ _ _ h₁ es₂ r w' h₂
    | error e =>
      obtain ⟨rfl, heq⟩ := run_done_iff.1 h₂
      cases heq
      simpa using hh _ _ _ h₁

theorem always_outcome {h : Handler α} {Q : Except SessionError α → Work → Transcript → Prop} :
    (outcome h).Always w es Q E ↔
      h.Always w es (fun a => Q (.ok a)) (fun e => Q (.error e)) := by
  constructor
  · intro ho es' r w' hr
    have := ho es' (.ok r) w' (by
      rw [exec_outcome]; exact run_bind_iff.2 ⟨es', [], _, by simp, hr, .done⟩)
    cases r <;> exact this
  · intro hh es' r w' hr
    rw [exec_outcome] at hr
    obtain ⟨es₁, es₂, ⟨a, w₁⟩, rfl, h₁, h₂⟩ := run_bind_iff.1 hr
    obtain ⟨rfl, heq⟩ := run_done_iff.1 h₂
    cases heq
    have := hh _ _ _ h₁
    cases a <;> simpa using this

/-! ## The session -/

theorem always_session {Q : Session → Work → Transcript → Prop} :
    session.Always w es Q E ↔ Q w.session w es := by
  constructor
  · intro h
    simpa using h [] (.ok w.session) w (by rw [exec_session]; exact .done)
  · intro h es' r w' hr
    rw [exec_session] at hr
    obtain ⟨rfl, hr⟩ := run_done_iff.1 hr
    cases hr
    simpa using h

theorem always_update {f : Session → Session} {Q : Unit → Work → Transcript → Prop} :
    (update f).Always w es Q E ↔ Q () { w with session := f w.session } es := by
  constructor
  · intro h
    simpa using h [] (.ok ()) _ (by rw [exec_update]; exact .done)
  · intro h es' r w' hr
    rw [exec_update] at hr
    obtain ⟨rfl, hr⟩ := run_done_iff.1 hr
    cases hr
    simpa using h

/-! ## Talking -/

theorem always_talk {p : Talk α} :
    (talk p).Always w es Q E ↔ ∀ es' a, Run p es' a → Q a w (es ++ es') := by
  constructor
  · intro h es' a hr
    exact h es' (.ok a) w (by
      rw [exec_talk]; exact run_bind_iff.2 ⟨es', [], a, by simp, hr, .done⟩)
  · intro h es' r w' hr
    rw [exec_talk] at hr
    obtain ⟨es₁, es₂, a, rfl, h₁, h₂⟩ := run_bind_iff.1 hr
    obtain ⟨rfl, heq⟩ := run_done_iff.1 h₂
    cases heq
    simpa using h _ _ h₁

theorem always_ask {c : SessionCall} {Q : c.Answer → Work → Transcript → Prop} :
    (ask c).Always w es Q E ↔ ∀ r, Q r w (es ++ [⟨c, r⟩]) := by
  constructor
  · intro h r
    exact h [⟨c, r⟩] (.ok r) w (.ask .done)
  · intro h es' r w' hr
    obtain ⟨a, es₁, rfl, h₁⟩ := run_ask_iff.1 hr
    obtain ⟨rfl, heq⟩ := run_done_iff.1 h₁
    cases heq
    exact h a

theorem always_attempt {p : Talk (Except IoError α)} :
    (attempt p).Always w es Q E ↔ ∀ es' r, Run p es' r →
      match r with
      | .ok a => Q a w (es ++ es')
      | .error e => E (.transport e) w (es ++ es') := by
  simp only [attempt, always_bind, always_talk, always_check]

theorem run_log_iff {mark : LogMark} {level : LogLevel} {source : LogSource} {text : String}
    {es : Transcript} {u : Unit} :
    Run (Talk.log mark level source text) es u ↔
      es = [⟨.log mark ⟨level, source, text⟩, ()⟩] := by
  constructor
  · intro h
    obtain ⟨r, es', rfl, h'⟩ := run_ask_iff.1 h
    obtain ⟨rfl, -⟩ := run_done_iff.1 h'
    rfl
  · rintro rfl
    exact .ask .done

theorem always_log {level : LogLevel} {text : String} {Q : Unit → Work → Transcript → Prop} :
    (log level text).Always w es Q E ↔
      Q () w (es ++ [⟨.log .session ⟨level, .session, text⟩, ()⟩]) := by
  rw [log, always_talk]
  constructor
  · intro h
    exact h _ () (run_log_iff.2 rfl)
  · rintro h es' ⟨⟩ hr
    rw [run_log_iff.1 hr]
    exact h

/-! ## Streams -/

theorem always_onClientStream {f : Stream → Talk (Except IoError α × Stream)} :
    (onClientStream f).Always w es Q E ↔
      ∀ es' r stream, Run (f w.session.client.stream) es' (r, stream) →
        match r with
        | .ok a => Q a { w with session := w.session.withClientStream stream } (es ++ es')
        | .error e =>
          E (.transport e) { w with session := w.session.withClientStream stream } (es ++ es') := by
  simp only [onClientStream, always_bind, always_session, always_talk, always_update, always_check]
  constructor
  · intro h es' r stream hr
    exact h es' (r, stream) hr
  · intro h es' a hr
    exact h es' a.1 a.2 hr

theorem always_onRemoteStream {f : Stream → Talk (Except IoError α × Stream)}
    {Q : Option α → Work → Transcript → Prop} (stream : Stream)
    (hs : w.session.remoteStream? = some stream) :
    (onRemoteStream f).Always w es Q E ↔
      ∀ es' r stream', Run (f stream) es' (r, stream') →
        match r with
        | .ok a => Q (some a) { w with session := w.session.withRemoteStream stream' } (es ++ es')
        | .error e =>
          E (.transport e) { w with session := w.session.withRemoteStream stream' } (es ++ es') := by
  obtain ⟨out, hout, hs⟩ := Session.remoteStream?_eq_some.1 hs
  have ho : w.session.outgoing? = some out := by simp only [Session.outgoing?, hout]
  have hw : ∀ stream', w.session.withRemoteStream stream' =
      w.session.withOutgoing { out with stream := some stream' } :=
    fun stream' => Session.withRemoteStream_of_remote hout
  simp only [onRemoteStream, always_bind, always_session, ho, hs, always_talk, always_update,
    always_check, always_pure, hw]
  constructor
  · intro h es' r stream' hr
    have := h es' (r, stream') hr
    cases r <;> exact this
  · intro h es' a hr
    have := h es' a.1 a.2 hr
    rcases a with ⟨_ | _, _⟩ <;> exact this

end Handler

end SocksProxy
