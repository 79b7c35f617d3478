/-
  The lives of sessions: every session that can come about, with everything that happened to it.

  * `Life` holds of a session whose handlers have let it go on so far, `Ended` of one that was closed,
    by a handler or with the whole server. What the network answers is not restricted, nor is the
    order of events;
  * `turn_steps` and `turn_fails`: a turn is made of steps.
-/
import SocksProxy.Proofs.TurnSteps

namespace SocksProxy

open Dialogue

/-! ## Histories -/

/-- Something that happens to a session. -/
inductive Entry where
  | event (role : Role) (r : Readiness)
  /-- A call of a turn that began in the stage. -/
  | call (stage : Stage) (e : SessionEvent)

/-- What happened to a session, in order. -/
abbrev History := List Entry

namespace Entry

/-- The call, if it is made in a turn that began in a stage of the kind. -/
def callIn? (p : Stage → Bool) : Entry → Option SessionEvent
  | event _ _ => none
  | call stage e => if p stage then some e else none

/-- Whether the entry says that there is something to read from the socket of the role. -/
def isReadable (role : Role) : Entry → Bool
  | event role' r => role' = role ∧ r.readable
  | call _ _ => false

end Entry

namespace History

/-- The calls of the turns that began in a stage of the kind. -/
def callsIn (p : Stage → Bool) (h : History) : Transcript :=
  h.filterMap (Entry.callIn? p)

/-- All calls. -/
def calls (h : History) : Transcript :=
  h.callsIn fun _ => true

/-- The calls of a turn that began in the stage, as entries. -/
def turn (stage : Stage) (es : Transcript) : History :=
  es.map (.call stage)

variable {h h' : History} {p : Stage → Bool} {stage : Stage} {es : Transcript} {role : Role}
  {r : Readiness}

theorem turn_append {es' : Transcript} : turn stage (es ++ es') = turn stage es ++ turn stage es' :=
  List.map_append

@[simp] theorem callsIn_append : callsIn p (h ++ h') = callsIn p h ++ callsIn p h' :=
  List.filterMap_append

@[simp] theorem callsIn_event : callsIn p (h ++ [.event role r]) = callsIn p h := by
  rw [callsIn_append]
  exact List.append_nil _

@[simp] theorem callsIn_turn : callsIn p (turn stage es) = if p stage then es else [] := by
  induction es with
  | nil => simp [turn, callsIn]
  | cons e es ih =>
    have hcons : callsIn p (turn stage (e :: es)) =
        (if p stage then [e] else []) ++ callsIn p (turn stage es) := by
      cases hp : p stage <;> simp [turn, callsIn, Entry.callIn?, hp]
    rw [hcons, ih]
    split <;> rfl

@[simp] theorem calls_append : calls (h ++ h') = calls h ++ calls h' :=
  callsIn_append

@[simp] theorem calls_event : calls (h ++ [.event role r]) = calls h :=
  callsIn_event

@[simp] theorem calls_singleton : calls [.event role r] = [] := rfl

@[simp] theorem calls_turn : calls (turn stage es) = es := by
  simp [calls]

end History

/-! ## What histories say -/

section
variable {origin : Stage} {es es' : Transcript}

/-- What a turn that began in the stage `origin` reads of the handshake. -/
def heardIn (origin : Stage) (es : Transcript) : Bytes :=
  if origin.isHandshake then Transcript.read .client es else []

/-- What a turn that began in the stage `origin` reads for a tunnel. -/
def relayedIn (origin : Stage) (es : Transcript) : Bytes :=
  if origin = .connected then Transcript.read .client es else []

/-- Whether a turn that began in the stage `origin` sees the end of the client behind a tunnel. -/
def sawEndIn (origin : Stage) (es : Transcript) : Bool :=
  origin = .connected && Transcript.sawEnd .client es

theorem heardIn_nil (h : Transcript.read .client es = []) : heardIn origin es = [] := by
  rw [heardIn, h, ite_self]

theorem relayedIn_nil (h : Transcript.read .client es = []) : relayedIn origin es = [] := by
  rw [relayedIn, h, ite_self]

theorem heardIn_of_handshake (h : origin.isHandshake = true) :
    heardIn origin es = Transcript.read .client es :=
  if_pos h

theorem heardIn_of_not_handshake (h : origin.isHandshake = false) : heardIn origin es = [] := by
  rw [heardIn, h, if_neg Bool.false_ne_true]

theorem relayedIn_connected : relayedIn .connected es = Transcript.read .client es :=
  if_pos rfl

theorem relayedIn_of_ne (h : origin ≠ .connected) : relayedIn origin es = [] :=
  if_neg h

theorem sawEndIn_connected : sawEndIn .connected es = Transcript.sawEnd .client es :=
  rfl

theorem sawEndIn_of_not_sawEnd (h : Transcript.sawEnd .client es = false) :
    sawEndIn origin es = false := by
  rw [sawEndIn, h, Bool.and_false]

theorem connected_of_sawEndIn (h : sawEndIn origin es = true) : origin = .connected :=
  of_decide_eq_true (Bool.and_eq_true_iff.1 h).1

theorem Transcript.Deaf.sawEndIn (h : Transcript.Deaf .client es) :
    SocksProxy.sawEndIn origin es = false :=
  sawEndIn_of_not_sawEnd h.sawEnd

end

namespace History

variable {h : History} {stage : Stage} {es : Transcript} {role role' : Role} {r : Readiness}

/-- What was read from the client in the handshake. -/
def heard (h : History) : Bytes :=
  Transcript.read .client (h.callsIn Stage.isHandshake)

/-- What was read from the client while the tunnel was up. -/
def relayed (h : History) : Bytes :=
  Transcript.read .client (h.callsIn (· = .connected))

/-- Whether a read has found the end of the client while the tunnel was up. -/
def sawClientEnd (h : History) : Bool :=
  Transcript.sawEnd .client (h.callsIn (· = .connected))

/-- What the streams of the role have taken. -/
def taken (role : Role) (h : History) : Bytes :=
  Transcript.taken role h.calls

@[simp] theorem heard_turn : heard (h ++ turn stage es) = h.heard ++ heardIn stage es := by
  rw [heard, callsIn_append, callsIn_turn, Transcript.read_append]
  cases hst : stage.isHandshake <;> simp [heard, heardIn, hst]

@[simp] theorem relayed_turn : relayed (h ++ turn stage es) = h.relayed ++ relayedIn stage es := by
  rw [relayed, callsIn_append, callsIn_turn, Transcript.read_append]
  by_cases hst : stage = .connected <;> simp [relayed, relayedIn, hst]

@[simp] theorem sawClientEnd_turn :
    sawClientEnd (h ++ turn stage es) = (h.sawClientEnd || sawEndIn stage es) := by
  rw [sawClientEnd, callsIn_append, callsIn_turn, Transcript.sawEnd_append]
  by_cases hst : stage = .connected <;> simp [sawClientEnd, sawEndIn, hst]

@[simp] theorem taken_turn :
    taken role (h ++ turn stage es) = h.taken role ++ Transcript.taken role es := by
  rw [taken, calls_append, calls_turn, Transcript.taken_append]
  rfl

@[simp] theorem heard_event : heard (h ++ [.event role r]) = h.heard := by
  simp only [heard, callsIn_event]

@[simp] theorem relayed_event : relayed (h ++ [.event role r]) = h.relayed := by
  simp only [relayed, callsIn_event]

@[simp] theorem sawClientEnd_event : sawClientEnd (h ++ [.event role r]) = h.sawClientEnd := by
  simp only [sawClientEnd, callsIn_event]

@[simp] theorem taken_event : taken role' (h ++ [.event role r]) = h.taken role' := by
  simp only [taken, calls_event]

end History

/-! ## Lives -/

/-- A session that goes on, and what happened to it. -/
inductive Life (ctx : Context) : History → Session → Prop where
  | start {peer : Endpoint} {es : Transcript} {s : Session} :
      Run (Session.start ctx.settings peer) es (.ok s) → Life ctx (History.turn .accepted es) s
  | turn {h : History} {s s' : Session} {role : Role} {r : Readiness} {ids ids' : Dns.QueryIds}
      {es : Transcript} :
      Life ctx h s → Run (Session.handle ctx role r ⟨s, ids⟩) es (true, ⟨s', ids'⟩) →
      Life ctx (h ++ [.event role r] ++ History.turn s.stage es) s'

/-- A session that was closed, as it was then, and what happened to it: a handler has ended it, or it
    was closed between two turns. -/
inductive Ended (ctx : Context) : History → Session → Prop where
  | failed {h : History} {s s' : Session} {role : Role} {r : Readiness} {ids ids' : Dns.QueryIds}
      {es es' : Transcript} :
      Life ctx h s → Run (Session.handle ctx role r ⟨s, ids⟩) es (false, ⟨s', ids'⟩) →
      Run s'.close es' () →
      Ended ctx (h ++ [.event role r] ++ History.turn s.stage (es ++ es')) s'
  | stopped {h : History} {s : Session} {es : Transcript} :
      Life ctx h s → Run s.close es () → Ended ctx (h ++ History.turn s.stage es) s

/-! ## The first state -/

/-- The session of a client that was accepted just now. -/
def Session.fresh (peer localAddress : Endpoint) : Session where
  stage := .accepted
  client := ⟨peer, localAddress, Stream.new ⟨.client, 0⟩ .read⟩
  remote := none
  relay := none
  lookups := .replicate _ none
  inbound := []
  pending := none

/-- The calls that open a session: last, the client is registered for reading. -/
def Transcript.Opens (es : Transcript) : Prop :=
  ∃ es₁, es = es₁ ++ [⟨.register ⟨.client, 0⟩ .read, (.ok () : Except IoError Unit)⟩] ∧
    All (· = .aside) es₁

theorem start_cases {settings : Settings} {peer : Endpoint} {es : Transcript} {s : Session}
    (h : Run (Session.start settings peer) es (.ok s)) :
    (∃ localAddress, s = Session.fresh peer localAddress) ∧ Transcript.Opens es := by
  simp only [Session.start] at h
  obtain ⟨es₁, es₂, a, rfl, h₁, h₂⟩ := run_monad_bind_iff.1 h
  have hall := Talk.tune_all h₁
  cases a with
  | error e => nomatch (run_pure_iff.1 h₂).2
  | ok _ =>
    obtain ⟨es₃, es₄, (b : Except IoError Endpoint), rfl, h₃, h₄⟩ := run_monad_bind_iff.1 h₂
    obtain rfl := run_call_iff.1 h₃
    cases b with
    | error e => nomatch (run_pure_iff.1 h₄).2
    | ok localAddress =>
      obtain ⟨es₅, es₆, (c : Except IoError Unit), rfl, h₅, h₆⟩ := run_monad_bind_iff.1 h₄
      obtain rfl := run_call_iff.1 h₅
      cases c with
      | error e => nomatch (run_pure_iff.1 h₆).2
      | ok _ =>
        obtain ⟨rfl, heq⟩ := run_pure_iff.1 h₆
        cases heq
        have hone : Transcript.All (· = .aside)
            [⟨.localAddress ⟨.client, 0⟩, (.ok localAddress : Except IoError Endpoint)⟩] :=
          Transcript.all_singleton rfl
        exact ⟨⟨localAddress, rfl⟩, _, (List.append_assoc ..).symm, hall.append hone⟩

theorem Session.fresh_shaped {peer localAddress : Endpoint} :
    (Session.fresh peer localAddress).Shaped := by
  have hl : (Session.fresh peer localAddress).NoLookups := rfl
  exact ⟨rfl, fun slot lookup h => absurd h (hl.getElem? slot lookup), hl, rfl, rfl, rfl⟩

/-! ## Turns -/

section
variable {ctx : Context} {s s' : Session} {role : Role} {r : Readiness} {ids ids' : Dns.QueryIds}
  {es : Transcript}

/-- A turn is the run of a handler; if that ends the session, the reason is logged behind it. -/
theorem run_handle_iff {w w' : Work} {goesOn : Bool} :
    Run (Session.handle ctx role r w) es (goesOn, w') ↔ ∃ es₁ es₂ x, es = es₁ ++ es₂ ∧
      Run ((Handler.onEvent ctx role r).exec w) es₁ (x, w') ∧ match x with
        | .ok _ => es₂ = [] ∧ goesOn = true
        | .error e => Run (Session.logEnd w'.session.stage e) es₂ () ∧ goesOn = false := by
  rw [Session.handle, run_monad_bind_iff]
  refine exists_congr fun es₁ => exists_congr fun es₂ => ?_
  constructor
  · rintro ⟨⟨x, w₁⟩, rfl, h₁, h₂⟩
    cases x with
    | ok _ =>
      obtain ⟨rfl, heq⟩ := run_pure_iff.1 h₂
      cases heq
      exact ⟨.ok (), rfl, h₁, rfl, rfl⟩
    | error e =>
      obtain ⟨es₃, es₄, _, rfl, h₃, h₄⟩ := run_monad_bind_iff.1 h₂
      obtain ⟨rfl, heq⟩ := run_pure_iff.1 h₄
      cases heq
      exact ⟨.error e, rfl, h₁, by rwa [List.append_nil], rfl⟩
  · rintro ⟨x, rfl, h₁, h₂⟩
    refine ⟨(x, w'), rfl, h₁, ?_⟩
    cases x with
    | ok _ =>
      obtain ⟨rfl, rfl⟩ := h₂
      exact .done
    | error e =>
      obtain ⟨h₂, rfl⟩ := h₂
      exact run_monad_bind_iff.2 ⟨es₂, [], (), (List.append_nil es₂).symm, h₂, .done⟩

/-- A turn that the session survives is the run of a handler. -/
theorem handle_goes (h : Run (Session.handle ctx role r ⟨s, ids⟩) es (true, ⟨s', ids'⟩)) :
    Run ((Handler.onEvent ctx role r).exec ⟨s, ids⟩) es (.ok (), ⟨s', ids'⟩) := by
  obtain ⟨es₁, es₂, _ | _, rfl, h₁, h₂⟩ := run_handle_iff.1 h
  · nomatch h₂.2
  · obtain rfl := h₂.1
    rwa [List.append_nil]

theorem turn_steps (hs : s.Shaped)
    (h : Run (Session.handle ctx role r ⟨s, ids⟩) es (true, ⟨s', ids'⟩)) :
    Steps ctx s.stage s es (.ok ()) s' ∧
      (role = .client → r.readable = true → Handler.ClientServed ⟨s', ids'⟩ es) ∧
      (role = .remote → s.stage = .connected → r.readable = true →
        Handler.RemoteServed ⟨s', ids'⟩ es) :=
  Handler.onEvent_walks hs es (.ok ()) _ (handle_goes h)

theorem logEnd_all {stage : Stage} {why : SessionError} {u : Unit}
    (h : Run (Session.logEnd stage why) es u) : Transcript.All (· = .aside) es := by
  cases why <;>
  · obtain rfl := Handler.run_log_iff.1 h
    exact Transcript.all_singleton rfl

/-- A turn that ends the session is the run of a handler, and the reason is logged behind it. -/
theorem handle_fails (h : Run (Session.handle ctx role r ⟨s, ids⟩) es (false, ⟨s', ids'⟩)) :
    ∃ es₁ es₂ e, es = es₁ ++ es₂ ∧
      Run ((Handler.onEvent ctx role r).exec ⟨s, ids⟩) es₁ (.error e, ⟨s', ids'⟩) ∧
      Run (Session.logEnd s'.stage e) es₂ () := by
  obtain ⟨es₁, es₂, e | _, rfl, h₁, h₂⟩ := run_handle_iff.1 h
  · exact ⟨es₁, es₂, e, rfl, h₁, h₂.1⟩
  · nomatch h₂.2

/-- A turn that ends the session is made of steps, and a line is logged behind them. -/
theorem turn_fails (hs : s.Shaped)
    (h : Run (Session.handle ctx role r ⟨s, ids⟩) es (false, ⟨s', ids'⟩)) :
    ∃ es₁ es₂ e, es = es₁ ++ es₂ ∧ Steps ctx s.stage s es₁ (.error e) s' ∧
      Transcript.All (· = .aside) es₂ := by
  obtain ⟨es₁, es₂, e, rfl, h₁, h₂⟩ := handle_fails h
  exact ⟨es₁, es₂, e, rfl, Handler.onEvent_walks hs es₁ (.error e) _ h₁, logEnd_all h₂⟩

end

theorem Life.shaped {ctx : Context} {h : History} {s : Session} (hl : Life ctx h s) : s.Shaped := by
  induction hl with
  | start h =>
    obtain ⟨⟨localAddress, rfl⟩, -⟩ := start_cases h
    exact Session.fresh_shaped
  | turn _ h ih => exact (turn_steps ih h).1.shaped rfl ih

/-! ## Closing -/

/-- A call that neither moves data nor opens a socket. -/
def Verb.IsUpkeep (v : Verb) : Prop :=
  v = .aside ∨ ∃ s, v = .register s

theorem Verb.IsUpkeep.sends {v : Verb} {role : Role} (h : v.IsUpkeep) : v.sends role = false := by
  rcases h with rfl | ⟨s, rfl⟩ <;> rfl

theorem Verb.IsUpkeep.receives {v : Verb} {role : Role} (h : v.IsUpkeep) :
    v.receives role = false := by
  rcases h with rfl | ⟨s, rfl⟩ <;> rfl

theorem Transcript.mute_of_upkeep {es : Transcript} {role : Role} (h : All Verb.IsUpkeep es) :
    Mute role es :=
  h.imp fun _ hv => hv.sends

theorem Transcript.deaf_of_upkeep {es : Transcript} {role : Role} (h : All Verb.IsUpkeep es) :
    Deaf role es :=
  h.imp fun _ hv => hv.receives

theorem Transcript.Opens.upkeep {es : Transcript} (h : Opens es) : All Verb.IsUpkeep es := by
  obtain ⟨es₁, rfl, h₁⟩ := h
  exact (h₁.imp fun _ hv => .inl hv).append (all_singleton (.inr ⟨_, rfl⟩))

theorem deregisterAll_upkeep {sockets : List Socket} {es : Transcript} {u : Unit}
    (h : Run (Talk.deregisterAll sockets) es u) : Transcript.All Verb.IsUpkeep es := by
  induction sockets generalizing es with
  | nil =>
    obtain ⟨rfl, -⟩ := run_done_iff.1 h
    exact Transcript.all_nil
  | cons s rest ih =>
    obtain ⟨es₁, es₂, _, rfl, h₁, h₂⟩ := run_monad_bind_iff.1 h
    exact ((Talk.deregister_all h₁).imp fun v hv => hv.imp_right fun h => ⟨s, h⟩).append (ih h₂)

theorem closeStream_upkeep {stream : Stream} {es : Transcript} {u : Unit}
    (h : Run stream.close es u) : Transcript.All Verb.IsUpkeep es :=
  (Talk.close_all h).imp fun _ hv => hv.imp_right fun h => ⟨_, h⟩

/-- The stream of an attempt that is given up is closed, if there is one. -/
theorem Outgoing.abandon_upkeep {out : Outgoing} {es : Transcript}
    (hsome : ∀ stream, out.stream = some stream → Run stream.close es ())
    (hnone : out.stream = none → es = []) : Transcript.All Verb.IsUpkeep es := by
  cases hout : out.stream with
  | none => exact hnone hout ▸ Transcript.all_nil
  | some stream => exact closeStream_upkeep (hsome stream hout)

/-! ## Parts of closing -/

namespace Session

/-- Observers are told that the remote side is gone if it was connected, and then its stream is closed. -/
theorem closeRemote_parts {out : Outgoing} {es : Transcript} {u : Unit}
    (h : Run (closeRemote (.stream out)) es u) :
    ∃ es', es = out.attempts.peer.toList.map (fun peer => (⟨.notify (.remoteDisconnected peer), ()⟩ :
        SessionEvent)) ++ es' ∧
      (∀ stream, out.stream = some stream → Run stream.close es' ()) ∧ (out.stream = none → es' = []) := by
  rw [closeRemote] at h
  cases hpeer : out.attempts.peer <;> cases hstream : out.stream <;> simp only [hpeer, hstream] at h
  case none.none =>
    obtain ⟨rfl, -⟩ := run_pure_iff.1 h
    exact ⟨[], rfl, by simp, by simp⟩
  case none.some stream => exact ⟨es, rfl, by rintro _ ⟨⟩; exact h, by simp⟩
  case some.none peer =>
    obtain ⟨es₁, es₂, _, rfl, h₁, h₂⟩ := run_monad_bind_iff.1 h
    obtain rfl := run_call_iff.1 h₁
    obtain ⟨rfl, -⟩ := run_pure_iff.1 h₂
    exact ⟨[], rfl, by simp, by simp⟩
  case some.some peer stream =>
    obtain ⟨es₁, es₂, _, rfl, h₁, h₂⟩ := run_monad_bind_iff.1 h
    obtain rfl := run_call_iff.1 h₁
    exact ⟨es₂, rfl, by rintro _ ⟨⟩; exact h₂, by simp⟩

/-- A session is closed part by part, and its client last. -/
theorem close_parts {s : Session} {es : Transcript} (h : Run s.close es ()) :
    ∃ es₁ es₂ es₃ es₄, es = es₁ ++ (es₂ ++ (es₃ ++ (es₄ ++
        [⟨.notify (.clientDisconnected s.client.peer), ()⟩,
          ⟨.log .session ⟨.debug, .session, "Session closed"⟩, ()⟩]))) ∧
      Run (Talk.deregisterAll s.lookupSockets) es₁ () ∧
      (∀ relay, s.relay = some relay → Run (Talk.deregister relay.socket) es₂ ()) ∧
      (s.relay = none → es₂ = []) ∧
      (∀ remote, s.remote = some remote → Run (closeRemote remote) es₃ ()) ∧
      (s.remote = none → es₃ = []) ∧
      Run s.client.stream.close es₄ () := by
  have hclient {es : Transcript} (h : Run (do
      s.client.stream.close
      let _ ← call (I := SessionNet) (.notify (.clientDisconnected s.client.peer))
      Talk.log .session .debug .session "Session closed" : Talk Unit) es ()) :
      ∃ es₄, es = es₄ ++ [⟨.notify (.clientDisconnected s.client.peer), ()⟩,
        ⟨.log .session ⟨.debug, .session, "Session closed"⟩, ()⟩] ∧
        Run s.client.stream.close es₄ () := by
    obtain ⟨es₁, es₂, _, rfl, h₁, h₂⟩ := run_monad_bind_iff.1 h
    obtain ⟨es₃, es₄, _, rfl, h₃, h₄⟩ := run_monad_bind_iff.1 h₂
    obtain rfl := run_call_iff.1 h₃
    obtain rfl := Handler.run_log_iff.1 h₄
    exact ⟨es₁, rfl, h₁⟩
  rw [close] at h
  obtain ⟨es₁, es', _, rfl, h₁, h'⟩ := run_monad_bind_iff.1 h
  cases hrelay : s.relay <;> cases hremote : s.remote <;> simp only [hrelay, hremote] at h'
  case none.none =>
    obtain ⟨es₄, rfl, h₄⟩ := hclient h'
    exact ⟨es₁, [], [], es₄, rfl, h₁, by simp, by simp, by simp, by simp, h₄⟩
  case none.some remote =>
    obtain ⟨es₃, es'', _, rfl, h₃, h''⟩ := run_monad_bind_iff.1 h'
    obtain ⟨es₄, rfl, h₄⟩ := hclient h''
    exact ⟨es₁, [], es₃, es₄, rfl, h₁, by simp, by simp, by rintro _ ⟨⟩; exact h₃, by simp, h₄⟩
  case some.none relay =>
    obtain ⟨es₂, es'', _, rfl, h₂, h''⟩ := run_monad_bind_iff.1 h'
    obtain ⟨es₄, rfl, h₄⟩ := hclient h''
    exact ⟨es₁, es₂, [], es₄, rfl, h₁, by rintro _ ⟨⟩; exact h₂, by simp, by simp, by simp, h₄⟩
  case some.some relay remote =>
    obtain ⟨es₂, es'', _, rfl, h₂, h''⟩ := run_monad_bind_iff.1 h'
    obtain ⟨es₃, es₅, _, rfl, h₃, h₅⟩ := run_monad_bind_iff.1 h''
    obtain ⟨es₄, rfl, h₄⟩ := hclient h₅
    exact ⟨es₁, es₂, es₃, es₄, rfl, h₁, by rintro _ ⟨⟩; exact h₂, by simp,
      by rintro _ ⟨⟩; exact h₃, by simp, h₄⟩

end Session

theorem closeRemote_upkeep {remote : Remote} {es : Transcript} {u : Unit}
    (h : Run (Session.closeRemote remote) es u) : Transcript.All Verb.IsUpkeep es := by
  cases remote with
  | datagram socket =>
    exact (Talk.deregister_all h).imp fun v hv => hv.imp_right fun h => ⟨socket, h⟩
  | stream out =>
    obtain ⟨es', rfl, hstream, hnone⟩ := Session.closeRemote_parts h
    have hnotes : Transcript.All Verb.IsUpkeep
        (out.attempts.peer.toList.map fun peer => ⟨.notify (.remoteDisconnected peer), ()⟩) := by
      cases out.attempts.peer with
      | none => exact Transcript.all_nil
      | some peer => exact Transcript.all_singleton (.inl rfl)
    refine hnotes.append ?_
    cases hs : out.stream with
    | none => rw [hnone hs]; exact Transcript.all_nil
    | some stream => exact closeStream_upkeep (hstream stream hs)

theorem close_upkeep {s : Session} {es : Transcript} (h : Run s.close es ()) :
    Transcript.All Verb.IsUpkeep es := by
  obtain ⟨es₁, es₂, es₃, es₄, rfl, h₁, hrelay, hnorelay, hremote, hnoremote, h₄⟩ := Session.close_parts h
  have h₂ : Transcript.All Verb.IsUpkeep es₂ := by
    cases hr : s.relay with
    | none => rw [hnorelay hr]; exact Transcript.all_nil
    | some relay =>
      exact (Talk.deregister_all (hrelay relay hr)).imp fun v hv => hv.imp_right fun h => ⟨_, h⟩
  have h₃ : Transcript.All Verb.IsUpkeep es₃ := by
    cases hr : s.remote with
    | none => rw [hnoremote hr]; exact Transcript.all_nil
    | some remote => exact closeRemote_upkeep (hremote remote hr)
  have hlast : Transcript.All Verb.IsUpkeep [⟨.notify (.clientDisconnected s.client.peer), ()⟩,
      ⟨.log .session ⟨.debug, .session, "Session closed"⟩, ()⟩] :=
    .cons (.inl rfl) (Transcript.all_singleton (.inl rfl))
  exact (deregisterAll_upkeep h₁).append (h₂.append (h₃.append ((closeStream_upkeep h₄).append hlast)))

end SocksProxy
