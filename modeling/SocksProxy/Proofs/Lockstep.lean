/-
  Handlers that make the same calls.

  * `Manner`: what an environment may answer;
  * `Talk.Follows`: a second dialogue makes the calls of a first one for as long as that goes on, whatever
    the answers are;
  * `Handler.Alike`: two handlers make the same calls and end alike. The `alike_` lemmas take both apart
    step by step;
  * `Talk.feed`: a dialogue that reads certain bytes, read by read. `Talk.Follows.feed` says that what
    does not read is not changed by them.
-/
import SocksProxy.Proofs.Rehearsal

namespace SocksProxy

open Dialogue

/-- Whether the call reads from a stream. -/
def SessionCall.isRead : SessionCall → Bool
  | receive _ _ => true
  | _ => false

/-! ## Environments -/

/-- What an environment may answer, and whether a loop may use up its turns. -/
structure Manner where
  may : (c : SessionCall) → c.Answer → Prop
  tires : Prop

namespace Manner

/-- Any answer may be given. -/
def unruly : Manner where
  may _ _ := True
  tires := True

/-- A stream takes what it is offered, and sending a datagram is not interrupted. -/
def obliging : Manner where
  may
    | .send _ data, r => r = .ok (Fin.last data.length)
    | .sendTo _ _ _, r => ∀ e, r = .error e → e.isInterrupted = false
    | _, _ => True
  tires := False

/-- A loop that sends does not use up its turns, or it may. -/
inductive Serves : Manner → Nat → Prop where
  | unruly {turns : Nat} : Serves unruly turns
  | obliging {turns : Nat} : Serves obliging (turns + 1)

/-- The environment gives such answers only. -/
def Rules {σ : Type} (m : Manner) (answer : (c : SessionCall) → σ → c.Answer × σ) : Prop :=
  ∀ c state, m.may c (answer c state).1

theorem unruly_rules {σ : Type} (answer : (c : SessionCall) → σ → c.Answer × σ) :
    unruly.Rules answer :=
  fun _ _ => trivial

end Manner

namespace Talk

variable {α β γ δ : Type} {m : Manner}

/-! ## Following -/

/-- The second dialogue makes the calls of the first one, whatever the answers are, and does not read.
    When the first one is done, `S` holds of its result and of what is left of the second. -/
inductive Follows (m : Manner) (S : α → Talk β → Prop) : Talk α → Talk β → Prop where
  | done {a : α} {rest : Talk β} : S a rest → Follows m S (.done a) rest
  | ask {c : SessionCall} {next : c.Answer → Talk α} {next' : c.Answer → Talk β} :
      c.isRead = false → (∀ r, m.may c r → Follows m S (next r) (next' r)) →
      Follows m S (.ask c next) (.ask c next')
  | stuck : m.tires → Follows m S .stuck .stuck

variable {S S' : α → Talk β → Prop} {p : Talk α} {q : Talk β}

theorem Follows.imp (h : Follows m S p q) (hS : ∀ a rest, S a rest → S' a rest) :
    Follows m S' p q := by
  induction h with
  | done h => exact .done (hS _ _ h)
  | ask hc _ ih => exact .ask hc ih
  | stuck h => exact .stuck h

theorem Follows.bind {S' : γ → Talk δ → Prop} {f : α → Talk γ} {g : β → Talk δ}
    (h : Follows m S p q) (hf : ∀ a rest, S a rest → Follows m S' (f a) (rest.bind g)) :
    Follows m S' (p.bind f) (q.bind g) := by
  induction h with
  | done h => exact hf _ _ h
  | ask hc _ ih => exact .ask hc ih
  | stuck h => exact .stuck h

/-- Both dialogues are done together, and `R` holds of their results. -/
def Lockstep (m : Manner) (R : α → β → Prop) : Talk α → Talk β → Prop :=
  Follows m fun a rest => ∃ b, rest = .done b ∧ R a b

variable {R : α → β → Prop}

theorem lockstep_done {a : α} {b : β} (h : R a b) : Lockstep m R (.done a) (.done b) :=
  .done ⟨b, rfl, h⟩

theorem Lockstep.bind {S' : γ → Talk δ → Prop} {f : α → Talk γ} {g : β → Talk δ}
    (h : Lockstep m R p q) (hf : ∀ a b, R a b → Follows m S' (f a) (g b)) :
    Follows m S' (p.bind f) (q.bind g) :=
  Follows.bind h fun a _ ⟨b, hb, hr⟩ => by
    rw [hb]
    exact hf a b hr

/-! ## Playing -/

section
variable {σ : Type} {answer : (c : SessionCall) → σ → c.Answer × σ} {state : σ}

/-- Dialogues in lockstep have the same calls with every environment. -/
theorem Lockstep.play (state : σ) (hm : m.Rules answer) (h : Lockstep m R p q) :
    Option.Rel (fun x y => x.1 = y.1 ∧ R x.2.1 y.2.1 ∧ x.2.2 = y.2.2)
      (Dialogue.play (I := SessionNet) answer p state)
      (Dialogue.play (I := SessionNet) answer q state) := by
  induction h generalizing state with
  | done h =>
    obtain ⟨b, rfl, hr⟩ := h
    exact .some ⟨rfl, hr, rfl⟩
  | @ask c next next' _ _ ih =>
    have hrest := @ih (answer c state).1 (hm c state) (answer c state).2
    simp only [Dialogue.play]
    generalize Dialogue.play (I := SessionNet) answer (next _) _ = x at hrest ⊢
    generalize Dialogue.play (I := SessionNet) answer (next' _) _ = y at hrest ⊢
    cases hrest with
    | none => exact .none
    | some h => exact .some ⟨congrArg _ h.1, h.2⟩
  | stuck => exact .none

/-- Where no loop uses up its turns, there is a result. -/
theorem Follows.play_isSome (hm : m.Rules answer) (hties : ¬ m.tires) (h : Follows m S p q) :
    (Dialogue.play (I := SessionNet) answer p state).isSome = true := by
  induction h generalizing state with
  | done => rfl
  | @ask c _ _ _ _ ih =>
    simp only [Dialogue.play, Option.isSome_map]
    exact ih _ (hm c state)
  | stuck h => exact absurd h hties

end

/-! ## Dialogues that do not read -/

/-- The dialogue does not read. -/
def Unread (m : Manner) (p : Talk α) : Prop :=
  Lockstep m (· = ·) p p

theorem unread_done {a : α} : Unread m (.done a) :=
  lockstep_done rfl

theorem unread_ask {c : SessionCall} {next : c.Answer → Talk α} (hc : c.isRead = false)
    (h : ∀ r, m.may c r → Unread m (next r)) : Unread m (.ask c next) :=
  .ask hc h

theorem unread_bind {f : α → Talk γ} (h : Unread m p) (hf : ∀ a, Unread m (f a)) :
    Unread m (p.bind f) :=
  Lockstep.bind h fun a _ hb => hb ▸ hf a

theorem unread_call {c : SessionCall} (hc : c.isRead = false) :
    Unread m (Dialogue.call (I := SessionNet) c) :=
  unread_ask hc fun _ _ => unread_done

theorem unread_log {mark : LogMark} {level : LogLevel} {source : LogSource} {text : String} :
    Unread m (log mark level source text) :=
  unread_call rfl

theorem unread_deregister {s : Socket} : Unread m (deregister s) :=
  unread_ask rfl fun (r : Except IoError Unit) _ => by
    cases r with
    | ok _ => exact unread_done
    | error e => exact unread_log

theorem unread_close {stream : Stream} : Unread m stream.close :=
  unread_bind unread_deregister fun _ => unread_bind (unread_call rfl) fun _ => unread_done

theorem unread_tune {s : Socket} {switches : List TcpSwitch} : Unread m (tune s switches) := by
  induction switches with
  | nil => exact unread_done
  | cons switch rest ih =>
    refine unread_ask rfl fun (r : Except IoError Unit) _ => ?_
    cases r with
    | ok _ => exact ih
    | error e => exact unread_done

theorem unread_openStream {s : Socket} {target : Endpoint} {options : TcpOptions} :
    Unread m (openStream s target options) := by
  refine unread_ask rfl fun (r : Except IoError Unit) _ => ?_
  cases r with
  | error e => exact unread_done
  | ok _ =>
    refine unread_bind unread_tune fun r => ?_
    cases r with
    | error e => exact unread_done
    | ok _ =>
      refine unread_bind (unread_call rfl) fun (r : Except IoError Unit) => ?_
      cases r with
      | ok _ => exact unread_done
      | error e => exact unread_bind unread_close fun _ => unread_done

theorem unread_openDatagram {s : Socket} {addr : Endpoint} : Unread m (openDatagram s addr) :=
  unread_ask rfl fun (r : Except IoError Unit) _ => by
    cases r with
    | ok _ => exact unread_call rfl
    | error e => exact unread_done

theorem unread_resume {stream : Stream} : Unread m stream.resume :=
  unread_ask rfl fun (r : Except IoError Unit) _ => by cases r <;> exact unread_done

theorem unread_settle {stream : Stream} : Unread m stream.settle := by
  rw [Stream.settle]
  split
  · exact unread_done
  · exact unread_resume

/-! ## Loops that do not read -/

theorem unread_retry {p : Talk (Except IoError α)} (h : Unread .unruly p) {turns : Nat} :
    Unread .unruly (retry p turns) := by
  induction turns with
  | zero => exact .stuck trivial
  | succ turns ih =>
    refine unread_bind h fun r => ?_
    cases r with
    | ok a => exact unread_done
    | error e =>
      simp only
      split
      · exact unread_done
      · split
        · exact ih
        · exact unread_done

theorem unread_sendTo {turns : Nat} {s : Socket} {data : Bytes} {dest : Endpoint}
    (hm : m.Serves turns) : Unread m (sendTo turns s data dest) := by
  refine unread_bind ?_ fun r => by cases r <;> exact unread_done
  cases hm with
  | unruly => exact unread_retry (unread_call rfl)
  | obliging =>
    refine unread_ask rfl fun (r : Except IoError Unit) hr => ?_
    cases r with
    | ok _ => exact unread_done
    | error e =>
      have he : e.isInterrupted = false := hr e rfl
      change Unread _ (if e.isWouldBlock then _ else if e.isInterrupted then _ else _)
      rw [he]
      split <;> exact unread_done

/-- Writing to a stream is no reading. -/
theorem unread_via {p : Dialogue Writer α} {s : Socket} :
    Unread .unruly (p.via (Stream.sendRoute s)) := by
  induction p with
  | done a => exact unread_done
  | ask data next ih => exact unread_ask rfl fun r _ => ih r
  | stuck => exact .stuck trivial

theorem unread_offer {turns : Nat} {s : Socket} {data : Bytes} (hm : m.Serves turns) :
    Unread m ((Schedule.offer turns data).via (Stream.sendRoute s)) := by
  cases hm with
  | unruly => exact unread_via
  | @obliging turns =>
    cases data with
    | nil => exact unread_done
    | cons b data =>
      refine unread_ask rfl fun (r : Except IoError (Fin _)) hr => ?_
      -- All of it is taken, so the next turn offers nothing.
      have hr : r = .ok (Fin.last (b :: data).length) := hr
      subst hr
      change Unread _ ((Schedule.offer turns ((b :: data).drop (b :: data).length)).via _)
      rw [List.drop_length, Schedule.offer]
      exact unread_done

theorem unread_send {turns : Nat} {stream : Stream} {data : Bytes} (hm : m.Serves turns) :
    Unread m (stream.send turns data) := by
  by_cases hp : stream.outbound.isEmpty = true
  · rw [Stream.send, Schedule.send, if_pos hp, via_bind]
    refine unread_bind (unread_bind (unread_offer hm) fun r => ?_) fun _ => unread_done
    cases r <;> exact unread_done
  · rw [Stream.send, Schedule.send, if_neg hp]
    exact unread_done

/-! ## What is read -/

/-- What a read finds when the chunks are there to be read, and those that are left. -/
def firstRead (max : Nat) : List Bytes → Except IoError (Chunk max) × List Bytes
  | [] => (.error (.plain .wouldBlock), [])
  | b :: rest => (.ok ⟨b.take max, List.length_take_le max b⟩, rest)

/-- The dialogue in which the chunks are there to be read, one for each read, and no more for now. Those
    that are not read are told with its result. -/
def feed : (chunks : List Bytes) → Talk α → Talk (α × List Bytes)
  | chunks, .done a => .done (a, chunks)
  | chunks, .ask c next =>
    match c, next with
    | .receive _ max, next =>
      feed (firstRead max chunks).2 (next (firstRead max chunks).1)
    | c, next => .ask c fun r => feed chunks (next r)
  | _, .stuck => .stuck

/-- What does not read does the same whatever there is to read, and leaves all of it for later. -/
theorem Follows.feed {chunks : List Bytes} {S' : γ × List Bytes → Talk δ → Prop} {f : α → Talk γ}
    {g : β → Talk δ} (h : Follows m S p q)
    (hf : ∀ a rest, S a rest → Follows m S' (Talk.feed chunks (f a)) (rest.bind g)) :
    Follows m S' (Talk.feed chunks (p.bind f)) (q.bind g) := by
  induction h with
  | done h => exact hf _ _ h
  | @ask c _ _ hc _ ih =>
    cases c with
    | receive => nomatch hc
    | _ => exact .ask hc ih
  | stuck h => exact .stuck h

theorem Lockstep.feed {chunks : List Bytes} (h : Lockstep m R p q) :
    Lockstep m (fun x b => R x.1 b ∧ x.2 = chunks) (Talk.feed chunks p) q := by
  rw [← bind_done p, ← bind_done q]
  refine Follows.feed h fun a rest ⟨b, hb, hr⟩ => ?_
  rw [hb]
  exact lockstep_done ⟨hr, rfl⟩

end Talk

namespace Handler

variable {α β γ δ : Type} {m : Manner}

/-! ## Handlers -/

/-- Two ends of handlers: both have results, for which `Q` holds, or the same error, for which `E`
    holds. -/
inductive EndsAlike (Q : α → Work → β → Work → Prop) (E : SessionError → Work → Work → Prop) :
    Except SessionError α × Work → Except SessionError β × Work → Prop where
  | ok {a : α} {b : β} {w w' : Work} : Q a w b w' → EndsAlike Q E (.ok a, w) (.ok b, w')
  | error {e : SessionError} {w w' : Work} : E e w w' → EndsAlike Q E (.error e, w) (.error e, w')

/-- The handlers make the same calls, whatever the answers are, do not read from the client, and end
    alike. -/
def Alike (m : Manner) (h : Handler α) (h' : Handler β) (w w' : Work) (Q : α → Work → β → Work → Prop)
    (E : SessionError → Work → Work → Prop) : Prop :=
  Talk.Lockstep m (EndsAlike Q E) (h.exec w) (h'.exec w')

variable {w w' : Work} {h : Handler α} {h' : Handler β} {Q : α → Work → β → Work → Prop}
  {E : SessionError → Work → Work → Prop}

theorem Alike.imp {Q' : α → Work → β → Work → Prop} {E' : SessionError → Work → Work → Prop}
    (ha : Alike m h h' w w' Q E) (hQ : ∀ a w₁ b w₁', Q a w₁ b w₁' → Q' a w₁ b w₁')
    (hE : ∀ e w₁ w₁', E e w₁ w₁' → E' e w₁ w₁') : Alike m h h' w w' Q' E' := by
  refine Talk.Follows.imp ha fun x _ ⟨y, hy, hxy⟩ => ⟨y, hy, ?_⟩
  cases hxy with
  | ok h => exact .ok (hQ _ _ _ _ h)
  | error h => exact .error (hE _ _ _ h)

theorem alike_pure {a : α} {b : β} (hq : Q a w b w') : Alike m (pure a) (pure b) w w' Q E :=
  .done ⟨_, rfl, .ok hq⟩

theorem alike_fail {e : SessionError} (he : E e w w') :
    Alike m (fail e : Handler α) (fail e : Handler β) w w' Q E :=
  .done ⟨_, rfl, .error he⟩

theorem alike_refuse {fault : WireError} (he : E (.violation fault) w w') :
    Alike m (refuse fault : Handler α) (refuse fault : Handler β) w w' Q E :=
  alike_fail he

theorem alike_bind {f : α → Handler γ} {f' : β → Handler δ} {Q : γ → Work → δ → Work → Prop}
    (ha : Alike m h h' w w' (fun a w₁ b w₁' => Alike m (f a) (f' b) w₁ w₁' Q E) E) :
    Alike m (h >>= f) (h' >>= f') w w' Q E := by
  rw [Alike, exec_bind, exec_bind]
  refine Talk.Lockstep.bind ha fun x y hxy => ?_
  cases hxy with
  | ok h => exact h
  | error h => exact .done ⟨_, rfl, .error h⟩

theorem alike_outcome
    {Q : Except SessionError α → Work → Except SessionError β → Work → Prop}
    (ha : Alike m h h' w w' (fun a w₁ b w₁' => Q (.ok a) w₁ (.ok b) w₁')
      fun e w₁ w₁' => Q (.error e) w₁ (.error e) w₁') :
    Alike m (outcome h) (outcome h') w w' Q E := by
  rw [Alike, exec_outcome, exec_outcome]
  refine Talk.Lockstep.bind ha fun x y hxy => ?_
  cases hxy with
  | ok h | error h => exact .done ⟨_, rfl, .ok h⟩

theorem alike_session {Q : Session → Work → Session → Work → Prop}
    (hq : Q w.session w w'.session w') : Alike m session session w w' Q E :=
  .done ⟨_, rfl, .ok hq⟩

theorem alike_update {f f' : Session → Session} {Q : Unit → Work → Unit → Work → Prop}
    (hq : Q () { w with session := f w.session } () { w' with session := f' w'.session }) :
    Alike m (update f) (update f') w w' Q E :=
  .done ⟨_, rfl, .ok hq⟩

theorem alike_talk {p : Talk α} {Q : α → Work → α → Work → Prop} (hp : Talk.Unread m p)
    (hq : ∀ a, Q a w a w') : Alike m (talk p) (talk p) w w' Q E := by
  rw [Alike, exec_talk, exec_talk]
  refine Talk.Lockstep.bind hp fun a b hab => ?_
  subst hab
  exact .done ⟨_, rfl, .ok (hq a)⟩

theorem alike_ask {c : SessionCall} {Q : c.Answer → Work → c.Answer → Work → Prop}
    (hc : c.isRead = false) (hq : ∀ a, Q a w a w') : Alike m (ask c) (ask c) w w' Q E :=
  alike_talk (Talk.unread_call hc) hq

theorem alike_log {level : LogLevel} {text : String} {Q : Unit → Work → Unit → Work → Prop}
    (hq : Q () w () w') : Alike m (log level text) (log level text) w w' Q E :=
  alike_talk Talk.unread_log fun _ => hq

theorem alike_check {r : Except IoError α} {Q : α → Work → α → Work → Prop}
    (hq : ∀ a, r = .ok a → Q a w a w') (he : ∀ e, r = .error e → E (.transport e) w w') :
    Alike m (check r) (check r) w w' Q E := by
  cases r with
  | ok a => exact alike_pure (hq a rfl)
  | error e => exact alike_fail (he e rfl)

theorem alike_attempt {p : Talk (Except IoError α)} {Q : α → Work → α → Work → Prop}
    (hp : Talk.Unread m p) (hq : ∀ a, Q a w a w') (he : ∀ e, E (.transport e) w w') :
    Alike m (attempt p) (attempt p) w w' Q E :=
  alike_bind (alike_talk hp fun _ => alike_check (fun a _ => hq a) fun e _ => he e)

/-! ## The stream of the client -/

theorem alike_onClientStream {f : Stream → Talk (Except IoError α × Stream)}
    {Q : α → Work → α → Work → Prop} (hc : w'.session.client = w.session.client)
    (hp : Talk.Unread m (f w.session.client.stream))
    (hq : ∀ a stream, Q a { w with session := w.session.withClientStream stream } a
      { w' with session := w'.session.withClientStream stream })
    (he : ∀ e stream, E (.transport e) { w with session := w.session.withClientStream stream }
      { w' with session := w'.session.withClientStream stream }) :
    Alike m (onClientStream f) (onClientStream f) w w' Q E := by
  refine alike_bind (alike_session ?_)
  rw [hc]
  refine alike_bind (alike_talk hp fun x => alike_bind (alike_update ?_))
  exact alike_check (fun a _ => hq a x.2) fun e _ => he e x.2

theorem alike_sendClient {ctx : Context} {data : Bytes} {Q : Unit → Work → Unit → Work → Prop}
    (hm : m.Serves ctx.turns)     (hc : w'.session.client = w.session.client)
    (hq : ∀ stream, Q () { w with session := w.session.withClientStream stream } ()
      { w' with session := w'.session.withClientStream stream })
    (he : ∀ e stream, E (.transport e) { w with session := w.session.withClientStream stream }
      { w' with session := w'.session.withClientStream stream }) :
    Alike m (sendClient ctx data) (sendClient ctx data) w w' Q E := by
  have hclient {stream : Stream} : (w'.session.withClientStream stream).client =
      (w.session.withClientStream stream).client := by
    simp only [Session.withClientStream, hc]
  refine alike_bind (alike_onClientStream hc (Talk.unread_send hm) (fun _ stream => ?_) he)
  exact alike_onClientStream hclient Talk.unread_settle (fun _ stream' => hq stream')
    fun e stream' => he e stream'

theorem alike_sendLast {ctx : Context} {data : Bytes} {Q : Unit → Work → Unit → Work → Prop}
    (hm : m.Serves ctx.turns)     (hc : w'.session.client = w.session.client)
    (hq : ∀ stream, Q () { w with session := w.session.withClientStream stream } ()
      { w' with session := w'.session.withClientStream stream }) :
    Alike m (sendLast ctx data) (sendLast ctx data) w w' Q E := by
  refine alike_bind (alike_session ?_)
  rw [hc]
  refine alike_bind (alike_talk (Talk.unread_send hm) fun x => alike_bind (alike_update ?_))
  rcases x with ⟨_ | _, stream⟩
  · exact alike_talk Talk.unread_log fun _ => hq stream
  · exact alike_pure (hq stream)

end Handler

end SocksProxy
