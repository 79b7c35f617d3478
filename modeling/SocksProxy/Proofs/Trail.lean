/-
  What attempts leave in a history.

  An attempt fails at once, or it is under way until a look at its socket shows that it has failed or
  has found a peer.

  * `Transcript.Misfires`, `Transcript.Begins`, `Transcript.Looks` and `Transcript.Closes` are the calls
    of an attempt, and the runs that make them;
  * `Pursues`: candidates were tried in order, each when the one before had failed and its socket was
    closed;
  * `UnderWay`, `Established` and `Exhausted` are the ways in which this goes on.
-/
import SocksProxy.Proofs.ClientWork
import SocksProxy.Proofs.Life

namespace SocksProxy

open Dialogue

namespace Transcript

/-! ## Calls -/

/-- Lines of the log. -/
def Logs (es : Transcript) : Prop :=
  ∀ e ∈ es, ∃ mark line, e = ⟨.log mark line, ()⟩

/-- Switches of the socket are turned on. -/
def Tunes (socket : Socket) (es : Transcript) : Prop :=
  ∀ e ∈ es, ∃ switch, e = ⟨.tune socket switch, (.ok () : Except IoError Unit)⟩

/-- The socket is taken off the poller and shut down. -/
inductive Closes (socket : Socket) : Transcript → Prop where
  | intro {es : Transcript} {r r' : Except IoError Unit} : es.Logs →
      Closes socket (⟨.deregister socket, r⟩ :: es ++ [⟨.shutdown socket, r'⟩])

/-- An attempt to reach the target begins. -/
inductive Begins (socket : Socket) (target : Endpoint) : Transcript → Prop where
  | intro {es : Transcript} : es.Tunes socket → Begins socket target
      (⟨.connect socket target, (.ok () : Except IoError Unit)⟩ :: es ++
        [⟨.register socket .write, (.ok () : Except IoError Unit)⟩])

/-- An attempt to reach the target fails at once. A socket that the poller may have is closed. -/
inductive Misfires (socket : Socket) (target : Endpoint) : Transcript → IoError → Prop where
  | connect {e : IoError} :
      Misfires socket target [⟨.connect socket target, (.error e : Except IoError Unit)⟩] e
  | option {es : Transcript} {switch : TcpSwitch} {e : IoError} : es.Tunes socket →
      Misfires socket target (⟨.connect socket target, (.ok () : Except IoError Unit)⟩ :: es ++
        [⟨.tune socket switch, (.error e : Except IoError Unit)⟩]) e
  | registration {es es₁ : Transcript} {e : IoError} : es.Tunes socket → Closes socket es₁ →
      Misfires socket target (⟨.connect socket target, (.ok () : Except IoError Unit)⟩ :: es ++
        ⟨.register socket .write, (.error e : Except IoError Unit)⟩ :: es₁) e

/-- A look at the socket of an attempt, with what is seen: a failure, a peer, or neither. -/
inductive Looks (socket : Socket) : Transcript → Except IoError (Option Endpoint) → Prop where
  | broken {e : IoError} :
      Looks socket [⟨.pendingError socket, (.ok (some e) : Except IoError (Option IoError))⟩] (.error e)
  | unknown {e : IoError} :
      Looks socket [⟨.pendingError socket, (.error e : Except IoError (Option IoError))⟩] (.error e)
  | peerless {e : IoError} : e.kind ≠ .notConnected →
      Looks socket [⟨.pendingError socket, (.ok none : Except IoError (Option IoError))⟩,
        ⟨.peerAddress socket, (.error e : Except IoError Endpoint)⟩] (.error e)
  | undecided {e : IoError} : e.kind = .notConnected →
      Looks socket [⟨.pendingError socket, (.ok none : Except IoError (Option IoError))⟩,
        ⟨.peerAddress socket, (.error e : Except IoError Endpoint)⟩] (.ok none)
  | reached {peer : Endpoint} :
      Looks socket [⟨.pendingError socket, (.ok none : Except IoError (Option IoError))⟩,
        ⟨.peerAddress socket, (.ok peer : Except IoError Endpoint)⟩] (.ok (some peer))

/-- Why an attempt is given up: its socket has failed, or an event says that nothing will come of it. -/
inductive Breaks (socket : Socket) (r : Readiness) : Transcript → IoError → Prop where
  | failed {es : Transcript} {e : IoError} : Looks socket es (.error e) → Breaks socket r es e
  | fatal {es : Transcript} : Looks socket es (.ok none) → r.isFatal = true →
      Breaks socket r es (.plain .notConnected)

/-- The targets of the attempts, in order. -/
def targets (es : Transcript) : List Endpoint :=
  es.filterMap fun e => match e.1 with
    | .connect _ target => some target
    | _ => none

/-! ## Kinds of calls -/

variable {es es' : Transcript} {socket : Socket} {target : Endpoint} {e : IoError}

theorem logs_nil : Logs [] :=
  List.forall_mem_nil _

theorem logs_singleton {mark : LogMark} {line : LogLine} : Logs [⟨.log mark line, ()⟩] :=
  List.forall_mem_singleton.2 ⟨mark, line, rfl⟩

theorem Logs.aside (h : Logs es) : All (· = .aside) es := by
  intro e he
  obtain ⟨mark, line, rfl⟩ := h e he
  rfl

theorem Logs.ofClient (h : Logs es) : OfClient es := by
  intro e he
  obtain ⟨mark, line, rfl⟩ := h e he
  trivial

theorem Tunes.aside (h : Tunes socket es) : All (· = .aside) es := by
  intro e he
  obtain ⟨switch, rfl⟩ := h e he
  rfl

theorem Tunes.setup (h : Tunes socket es) : All (Verb.IsSetup socket) es :=
  h.aside.imp fun _ hv => .inl hv

theorem Closes.upkeep (h : Closes socket es) :
    All (fun v => v = .aside ∨ v = .register socket) es := by
  cases h with
  | intro hlogs =>
    exact ((hlogs.aside.imp fun _ hv => .inl hv).cons (.inr rfl)).append (all_singleton (.inl rfl))

theorem Closes.setup (h : Closes socket es) : All (Verb.IsSetup socket) es :=
  h.upkeep.imp fun _ hv => hv.imp_right .inr

theorem Begins.setup (h : Begins socket target es) : All (Verb.IsSetup socket) es := by
  cases h with
  | intro h => exact (h.setup.cons (.inr (.inl rfl))).append (all_singleton (.inr (.inr rfl)))

theorem Misfires.setup (h : Misfires socket target es e) : All (Verb.IsSetup socket) es := by
  cases h with
  | connect => exact all_singleton (.inr (.inl rfl))
  | option h => exact (h.setup.cons (.inr (.inl rfl))).append (all_singleton (.inl rfl))
  | registration h hclose =>
    exact (h.setup.cons (.inr (.inl rfl))).append (hclose.setup.cons (.inr (.inr rfl)))

theorem Looks.aside {x : Except IoError (Option Endpoint)} (h : Looks socket es x) :
    All (· = .aside) es := by
  cases h with
  | broken | unknown => exact all_singleton rfl
  | peerless | undecided | reached => exact All.cons rfl (all_singleton rfl)

theorem Breaks.aside {r : Readiness} (h : Breaks socket r es e) : All (· = .aside) es := by
  cases h with
  | failed h | fatal h => exact h.aside

end Transcript

/-! ## Runs -/

namespace Talk

variable {es : Transcript} {socket : Socket} {target : Endpoint} {stream : Stream}

theorem tune_tunes {switches : List TcpSwitch} {r : Except IoError Unit}
    (h : Run (tune socket switches) es r) :
    (r = .ok () → es.Tunes socket) ∧ ∀ e, r = .error e → ∃ (es₁ : Transcript) (switch : TcpSwitch),
      es = es₁ ++ [⟨.tune socket switch, (.error e : Except IoError Unit)⟩] ∧ es₁.Tunes socket := by
  induction switches generalizing es with
  | nil =>
    obtain ⟨rfl, rfl⟩ := run_done_iff.1 h
    exact ⟨fun _ => List.forall_mem_nil _, nofun⟩
  | cons switch rest ih =>
    obtain ⟨(a : Except IoError Unit), es', rfl, h'⟩ := run_ask_iff.1 h
    cases a with
    | error e =>
      obtain ⟨rfl, rfl⟩ := run_done_iff.1 h'
      refine ⟨nofun, ?_⟩
      rintro _ ⟨⟩
      exact ⟨[], switch, rfl, List.forall_mem_nil _⟩
    | ok _ =>
      obtain ⟨hok, hfail⟩ := ih h'
      refine ⟨fun hr => List.forall_mem_cons.2 ⟨⟨switch, rfl⟩, hok hr⟩, fun e he => ?_⟩
      obtain ⟨es₁, last, rfl, h₁⟩ := hfail e he
      exact ⟨_ :: es₁, last, rfl, List.forall_mem_cons.2 ⟨⟨switch, rfl⟩, h₁⟩⟩

theorem close_closes {u : Unit} (h : Run stream.close es u) : es.Closes stream.socket := by
  simp only [Stream.close] at h
  obtain ⟨es₁, es₂, _, rfl, h₁, h₂⟩ := run_monad_bind_iff.1 h
  obtain ⟨es₃, es₄, _, rfl, h₃, h₄⟩ := run_monad_bind_iff.1 h₂
  obtain rfl := run_call_iff.1 h₃
  obtain ⟨rfl, -⟩ := run_pure_iff.1 h₄
  obtain ⟨(a : Except IoError Unit), es', rfl, h'⟩ := run_ask_iff.1 h₁
  cases a with
  | ok _ =>
    obtain ⟨rfl, -⟩ := run_done_iff.1 h'
    exact .intro Transcript.logs_nil
  | error e =>
    obtain rfl := Handler.run_log_iff.1 h'
    exact .intro Transcript.logs_singleton

/-- A stream is opened for an attempt, or the attempt fails at once. -/
theorem openStream_begins {options : TcpOptions} {r : Except IoError Stream}
    (h : Run (openStream socket target options) es r) :
    (∀ stream, r = .ok stream → stream.socket = socket ∧ es.Begins socket target) ∧
      ∀ e, r = .error e → es.Misfires socket target e := by
  obtain ⟨(a : Except IoError Unit), es', rfl, h'⟩ := run_ask_iff.1 h
  cases a with
  | error e =>
    obtain ⟨rfl, rfl⟩ := run_done_iff.1 h'
    refine ⟨nofun, ?_⟩
    rintro _ ⟨⟩
    exact .connect
  | ok _ =>
    obtain ⟨es₁, es₂, b, rfl, h₁, h₂⟩ := run_monad_bind_iff.1 h'
    obtain ⟨htunes, hfails⟩ := tune_tunes h₁
    cases b with
    | error e =>
      obtain ⟨rfl, rfl⟩ := run_pure_iff.1 h₂
      obtain ⟨es₂, switch, rfl, h₂⟩ := hfails e rfl
      refine ⟨nofun, ?_⟩
      rintro _ ⟨⟩
      rw [List.append_nil]
      exact .option h₂
    | ok _ =>
      obtain ⟨es₃, es₄, (c : Except IoError Unit), rfl, h₃, h₄⟩ := run_monad_bind_iff.1 h₂
      obtain rfl := run_call_iff.1 h₃
      cases c with
      | ok _ =>
        obtain ⟨rfl, rfl⟩ := run_pure_iff.1 h₄
        refine ⟨?_, nofun⟩
        rintro _ ⟨⟩
        exact ⟨rfl, .intro (htunes rfl)⟩
      | error e =>
        obtain ⟨es₅, es₆, _, rfl, h₅, h₆⟩ := run_monad_bind_iff.1 h₄
        obtain ⟨rfl, rfl⟩ := run_pure_iff.1 h₆
        refine ⟨nofun, ?_⟩
        rintro _ ⟨⟩
        rw [List.append_nil]
        exact .registration (htunes rfl) (close_closes h₅)

theorem peerOf_looks {x : Except IoError (Option Endpoint)} (h : Run (peerOf stream) es x) :
    es.Looks stream.socket x := by
  obtain ⟨(a : Except IoError (Option IoError)), es', rfl, h'⟩ := run_ask_iff.1 h
  rcases a with e | _ | e
  · obtain ⟨rfl, rfl⟩ := run_done_iff.1 h'
    exact .unknown
  · obtain ⟨(b : Except IoError Endpoint), es', rfl, h''⟩ := run_ask_iff.1 h'
    cases b with
    | ok peer =>
      obtain ⟨rfl, rfl⟩ := run_done_iff.1 h''
      exact .reached
    | error e =>
      obtain ⟨rfl, rfl⟩ := run_done_iff.1 h''
      by_cases he : e.kind = .notConnected
      · rw [if_pos he]
        exact .undecided he
      · rw [if_neg he]
        exact .peerless he
  · obtain ⟨rfl, rfl⟩ := run_done_iff.1 h'
    exact .broken

end Talk

/-! ## Histories -/

/-- Nothing comes of the attempt of the socket: other events are handled, which is about the client
    alone, and looks at the socket show nothing. -/
inductive Waits (socket : Socket) : History → Prop where
  | nil : Waits socket []
  | event {h : History} {role : Role} {r : Readiness} : Waits socket h → role ≠ .remote →
      Waits socket (h ++ [.event role r])
  | calls {h : History} {stage : Stage} {es : Transcript} : Waits socket h → es.OfClient →
      Waits socket (h ++ .turn stage es)
  | look {h : History} {r : Readiness} {stage : Stage} {es : Transcript} : Waits socket h →
      r.isFatal = false → es.Looks socket (.ok none) →
      Waits socket (h ++ [.event .remote r] ++ .turn stage es)

/-- An attempt has failed: at once, or when an event led to a look at its socket. Then the socket was
    closed. -/
inductive Fails (socket : Socket) (target : Endpoint) : History → IoError → Prop where
  | atOnce {stage : Stage} {es : Transcript} {e : IoError} : es.Misfires socket target e →
      Fails socket target (.turn stage es) e
  | later {h : History} {stage stage' : Stage} {es es₁ es₂ es₃ : Transcript} {r : Readiness}
      {e : IoError} :
      es.Begins socket target → Waits socket h → es₁.Breaks socket r e → es₂.Logs →
      es₃.Closes socket →
      Fails socket target
        (.turn stage es ++ h ++ [.event .remote r] ++ .turn stage' (es₁ ++ es₂ ++ es₃)) e

/-- The targets of the failures were tried, one after the other, and nothing else was. -/
inductive Pursues : List (Endpoint × IoError) → History → Prop where
  | untried {h : History} : h.calls.targets = [] → Pursues [] h
  | logged {failures : List (Endpoint × IoError)} {h : History} {stage : Stage} {es : Transcript} :
      Pursues failures h → es.Logs → Pursues failures (h ++ .turn stage es)
  | failed {failures : List (Endpoint × IoError)} {h h' : History} {target : Endpoint} {e : IoError} :
      Pursues failures h → Fails ⟨.remote, failures.length⟩ target h' e →
      Pursues (failures ++ [(target, e)]) (h ++ h')

/-- Behind the failures an attempt to reach the target is under way. -/
inductive Attempting (failures : List (Endpoint × IoError)) (target : Endpoint) : History → Prop where
  | intro {h h' : History} {stage : Stage} {es : Transcript} :
      Pursues failures h → es.Begins ⟨.remote, failures.length⟩ target →
      Waits ⟨.remote, failures.length⟩ h' → Attempting failures target (h ++ .turn stage es ++ h')

/-- One of the candidates is tried, and those in front of it have failed. -/
inductive UnderWay (candidates : List Endpoint) (h : History) : Prop where
  | intro {failures : List (Endpoint × IoError)} {target : Endpoint} {rest : List Endpoint} :
      failures.map (·.1) ++ target :: rest = candidates → Attempting failures target h →
      UnderWay candidates h

/-- One of the candidates was reached when those in front of it had failed, and none was tried since. -/
inductive Established (candidates : List Endpoint) : History → Prop where
  | intro {failures : List (Endpoint × IoError)} {target peer : Endpoint} {rest : List Endpoint}
      {h h' : History} {r : Readiness} {stage : Stage} {es : Transcript} :
      failures.map (·.1) ++ target :: rest = candidates → Attempting failures target h →
      es.Looks ⟨.remote, failures.length⟩ (.ok (some peer)) → h'.calls.targets = [] →
      Established candidates (h ++ [.event .remote r] ++ .turn stage es ++ h')

/-- All candidates have failed, the last one with the error, and none was tried since. -/
inductive Exhausted (candidates : List Endpoint) (last : Endpoint) (e : IoError) : History → Prop where
  | intro {failures : List (Endpoint × IoError)} {h h' : History} :
      failures.map (·.1) = candidates → failures.getLast? = some (last, e) → Pursues failures h →
      h'.calls.targets = [] → Exhausted candidates last e (h ++ h')

/-! ## Targets -/

namespace Transcript

variable {es es' : Transcript} {socket : Socket} {target : Endpoint}

@[simp] theorem targets_append : targets (es ++ es') = targets es ++ targets es' :=
  List.filterMap_append

theorem targets_connect {r : Except IoError Unit} :
    targets (⟨.connect socket target, r⟩ :: es) = target :: targets es :=
  rfl

theorem targets_eq_nil (h : All (fun v => ∀ socket, v ≠ .connect socket) es) : targets es = [] := by
  refine List.filterMap_eq_nil_iff.2 fun e he => ?_
  split
  · next socket target hc => exact absurd (by rw [hc]; rfl) (h e he socket)
  · rfl

theorem OfClient.targets (h : OfClient es) : targets es = [] :=
  targets_eq_nil h.not_connect

theorem targets_of_aside (h : All (· = .aside) es) : targets es = [] :=
  targets_eq_nil (h.imp fun v hv => by rw [hv]; nofun)

theorem Closes.targets (h : Closes socket es) : targets es = [] :=
  targets_eq_nil (h.upkeep.imp fun v hv => by rcases hv with rfl | rfl <;> nofun)

theorem Begins.targets (h : Begins socket target es) : targets es = [target] := by
  cases h with
  | intro h =>
    rw [List.cons_append, targets_connect, targets_append, targets_of_aside h.aside]
    rfl

theorem Misfires.targets {e : IoError} (h : Misfires socket target es e) : targets es = [target] := by
  cases h with
  | connect => rfl
  | option h =>
    rw [List.cons_append, targets_connect, targets_append, targets_of_aside h.aside]
    rfl
  | @registration _ es₁ _ h hclose =>
    have hregister : targets (⟨.register socket .write, (.error e : Except IoError Unit)⟩ :: es₁) =
        targets es₁ := rfl
    rw [List.cons_append, targets_connect, targets_append, targets_of_aside h.aside, hregister,
      hclose.targets]
    rfl

end Transcript

section
variable {h : History} {socket : Socket} {target : Endpoint} {e : IoError}
  {failures : List (Endpoint × IoError)} {candidates : List Endpoint}

theorem Waits.targets (hw : Waits socket h) : h.calls.targets = [] := by
  induction hw with
  | nil => rfl
  | event _ _ ih =>
    rw [History.calls_event]
    exact ih
  | calls _ hes ih =>
    rw [History.calls_append, History.calls_turn, Transcript.targets_append, ih, hes.targets]
    rfl
  | look _ _ hes ih =>
    rw [History.calls_append, History.calls_event, History.calls_turn, Transcript.targets_append, ih,
      Transcript.targets_of_aside hes.aside]
    rfl

theorem Fails.targets (hf : Fails socket target h e) : h.calls.targets = [target] := by
  cases hf with
  | atOnce h =>
    rw [History.calls_turn]
    exact h.targets
  | later h₁ hw h₂ h₃ h₄ =>
    simp only [History.calls_append, History.calls_singleton, History.calls_turn,
      Transcript.targets_append, h₁.targets, hw.targets, Transcript.targets_of_aside h₂.aside,
      Transcript.targets_of_aside h₃.aside, h₄.targets, List.append_nil]

theorem Pursues.targets (hp : Pursues failures h) : h.calls.targets = failures.map (·.1) := by
  induction hp with
  | untried h => exact h
  | logged _ hes ih =>
    rw [History.calls_append, History.calls_turn, Transcript.targets_append, ih,
      Transcript.targets_of_aside hes.aside, List.append_nil]
  | failed _ hf ih =>
    rw [History.calls_append, Transcript.targets_append, ih, hf.targets, List.map_append]
    rfl

theorem Attempting.targets (ha : Attempting failures target h) :
    h.calls.targets = failures.map (·.1) ++ [target] := by
  cases ha with
  | intro hp hb hw =>
    simp only [History.calls_append, History.calls_turn, Transcript.targets_append, hp.targets,
      hb.targets, hw.targets, List.append_nil]

/-- What was tried is the front of the candidates. -/
theorem UnderWay.targets (hu : UnderWay candidates h) : h.calls.targets <+: candidates := by
  obtain ⟨rfl, ha⟩ := hu
  rw [ha.targets]
  exact ⟨_, List.append_assoc ..⟩

theorem Established.targets (he : Established candidates h) : h.calls.targets <+: candidates := by
  obtain ⟨rfl, ha, hlook, hrest⟩ := he
  simp only [History.calls_append, History.calls_singleton, History.calls_turn,
    Transcript.targets_append, ha.targets, Transcript.targets_of_aside hlook.aside, hrest,
    List.append_nil]
  exact ⟨_, List.append_assoc ..⟩

theorem Exhausted.targets {last : Endpoint} (hx : Exhausted candidates last e h) :
    h.calls.targets = candidates := by
  obtain ⟨rfl, -, hp, hrest⟩ := hx
  rw [History.calls_append, Transcript.targets_append, hp.targets, hrest, List.append_nil]

end

end SocksProxy
