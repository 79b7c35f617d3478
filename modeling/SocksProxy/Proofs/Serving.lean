/-
  What the parts of serving do to the sessions of a server.

  * `Serving.exec` runs a part; the `exec_` lemmas say what each step of one does;
  * `Welcomes` and `Accepting` are all that can come of welcoming a client and of accepting those who wait;
  * `Server.Numbered`: every live session has an id that was given away;
  * `Server.Follows` is what all parts have in common: a session that has ended stays so, and whoever
    is accepted gets an id of its own.
-/
import SocksProxy.Proofs.Logic
import SocksProxy.Server.Serve

namespace SocksProxy

open Dialogue

/-- A call of the server with its answer. -/
abbrev ServerEvent := ServerNet.Event

/-- A call of the session, as a call of the server. -/
def SessionEvent.onBehalf (id : SessionId) (e : SessionEvent) : ServerEvent :=
  ⟨.session id e.1, e.2⟩

theorem run_via_session {α : Type} {id : SessionId} {p : Talk α} {es : List ServerEvent} {a : α}
    (h : Run (p.via (sessionRoute id)) es a) :
    ∃ es' : Transcript, Run p es' a ∧ es = es'.map (SessionEvent.onBehalf id) := by
  induction p generalizing es with
  | done b =>
    obtain ⟨rfl, rfl⟩ := run_done_iff.1 h
    exact ⟨[], .done, rfl⟩
  | ask c next ih =>
    obtain ⟨r, es₁, rfl, h₁⟩ := run_ask_iff.1 h
    obtain ⟨es₂, h₂, rfl⟩ := ih _ h₁
    exact ⟨⟨c, r⟩ :: es₂, .ask h₂, rfl⟩
  | stuck => nomatch h

theorem run_via_of_run {α : Type} {id : SessionId} {p : Talk α} {es : Transcript} {a : α}
    (h : Run p es a) : Run (p.via (sessionRoute id)) (es.map (SessionEvent.onBehalf id)) a := by
  induction h with
  | done => exact .done
  | ask _ ih => exact .ask ih

/-! ## Running a part -/

namespace Serving

variable {α β : Type} {server : Server}

/-- Runs a part of serving on a server. -/
def exec (p : Serving α) (server : Server) : Dialogue ServerNet (Except Failure α × Server) :=
  p.run.run server

theorem exec_pure (a : α) : exec (pure a) server = .done (.ok a, server) := rfl

theorem exec_get : exec get server = .done (.ok server, server) := rfl

theorem exec_set (server' : Server) : exec (set server') server = .done (.ok (), server') := rfl

theorem exec_modify (f : Server → Server) :
    exec (modify f) server = .done (.ok (), f server) := rfl

/-- A part that fails goes no further. -/
theorem exec_bind (p : Serving α) (f : α → Serving β) :
    exec (p >>= f) server = (exec p server).bind fun
      | (.ok a, server) => exec (f a) server
      | (.error failure, server) => .done (.error failure, server) := by
  simp only [exec, ExceptT.run_bind, StateT.run_bind]
  refine congrArg (Dialogue.bind _) (funext fun (r, w) => ?_)
  cases r <;> rfl

theorem exec_talk (p : Dialogue ServerNet α) :
    exec (talk p) server = p.bind fun a => .done (Except.ok a, server) :=
  Dialogue.bind_assoc p (fun a => .done (a, server)) fun x => .done (Except.ok x.1, x.2)

theorem exec_ask (c : ServerCall) : exec (ask c) server = .ask c fun r => .done (.ok r, server) :=
  rfl

theorem exec_logOf (id : SessionId) (level : LogLevel) (text : String) :
    exec (logOf id level text) server =
      .ask (.log (some id) ⟨level, .server, text⟩) fun r => .done (.ok r, server) :=
  rfl

theorem exec_log (level : LogLevel) (text : String) :
    exec (log level text) server =
      .ask (.log none ⟨level, .server, text⟩) fun r => .done (.ok r, server) :=
  rfl

end Serving

/-! ## Calls that accept nobody -/

/-- No client is accepted. -/
def AcceptsNobody (es : List ServerEvent) : Prop :=
  ∀ e ∈ es, ∀ id, e.1 ≠ .accept id

theorem AcceptsNobody.cons {e : ServerEvent} {es : List ServerEvent} (he : ∀ id, e.1 ≠ .accept id)
    (h : AcceptsNobody es) : AcceptsNobody (e :: es) :=
  List.forall_mem_cons.2 ⟨he, h⟩

theorem AcceptsNobody.append {es es' : List ServerEvent} (h : AcceptsNobody es)
    (h' : AcceptsNobody es') : AcceptsNobody (es ++ es') :=
  List.forall_mem_append.2 ⟨h, h'⟩

theorem acceptsNobody_nil : AcceptsNobody [] :=
  List.forall_mem_nil _

theorem acceptsNobody_log {id : Option SessionId} {line : LogLine} :
    AcceptsNobody [⟨.log id line, ()⟩] :=
  .cons nofun acceptsNobody_nil

theorem acceptsNobody_notify {notice : ServerNotice} : AcceptsNobody [⟨.notify notice, ()⟩] :=
  .cons nofun acceptsNobody_nil

theorem acceptsNobody_onBehalf {id : SessionId} {es : Transcript} :
    AcceptsNobody (es.map (SessionEvent.onBehalf id)) :=
  List.forall_mem_map.2 fun _ _ => nofun

/-! ## Live sessions -/

namespace Sessions

variable {ss : Sessions} {id id' : SessionId} {s s' : Session}

theorem find?_cons : find? ((id', s) :: ss) id = if id = id' then some s else find? ss id := by
  rw [find?, List.lookup_cons]
  by_cases heq : id = id'
  · rw [if_pos heq, beq_iff_eq.2 heq]
  · rw [if_neg heq, beq_false_of_ne heq]
    rfl

theorem find?_replace (h : ss.find? id = some s) : (ss.replace id s').find? id = some s' := by
  induction ss with
  | nil => cases h
  | cons entry rest ih =>
    obtain ⟨id', s₀⟩ := entry
    rw [find?_cons] at h
    simp only [replace, List.map_cons, beq_iff_eq] at ih ⊢
    by_cases heq : id = id'
    · rw [if_pos heq.symm, find?_cons, if_pos rfl]
    · rw [if_neg (Ne.symm heq), find?_cons, if_neg heq]
      exact ih (by rwa [if_neg heq] at h)

theorem find?_add : (ss.add id s).find? id' = (ss.find? id').or (if id' = id then some s else none) := by
  rw [find?, add, List.lookup_append, ← find?, ← find?, find?_cons]
  rfl

theorem find?_remove : (ss.remove id).find? id = none := by
  induction ss with
  | nil => rfl
  | cons entry rest ih =>
    obtain ⟨id', s⟩ := entry
    simp only [remove, List.filter_cons, bne_iff_ne, ne_eq, ite_not] at ih ⊢
    split
    · exact ih
    · next hne => rw [find?_cons, if_neg (Ne.symm hne), ih]

theorem remove_replace : (ss.replace id s).remove id = ss.remove id := by
  induction ss with
  | nil => rfl
  | cons entry rest ih =>
    have hcons (entry : SessionId × Session) (ss : Sessions) :
        remove (entry :: ss) id = if entry.1 = id then ss.remove id else entry :: ss.remove id := by
      simp only [remove, List.filter_cons, bne_iff_ne, ite_not, ne_eq]
    have hreplace : replace (entry :: rest) id s =
        (if entry.1 = id then (id, s) else entry) :: replace rest id s := by
      simp [replace]
    rw [hreplace, hcons, hcons, ih]
    by_cases heq : entry.1 = id <;> simp [heq]

end Sessions

namespace Server

/-- What the handlers of its sessions go by. -/
def context (server : Server) (turns : Nat) : Context :=
  ⟨server.settings, server.nameServer, turns⟩

/-- The server has a session with the id. -/
def Live (server : Server) (id : SessionId) : Prop :=
  (server.sessions.find? id).isSome = true

instance {server : Server} {id : SessionId} : Decidable (server.Live id) :=
  inferInstanceAs (Decidable (_ = true))

/-- Every live session has an id that was given away. -/
def Numbered (server : Server) : Prop :=
  ∀ id, server.Live id → id < server.nextId

/-- The id was given away, and its session is over. -/
def Dead (server : Server) (id : SessionId) : Prop :=
  id < server.nextId ∧ ¬ server.Live id

variable {server server₁ server₂ : Server} {id id' : SessionId} {s : Session}

theorem not_live_iff : ¬ server.Live id ↔ server.sessions.find? id = none := by
  simp [Live]

theorem live_iff_exists : server.Live id ↔ ∃ entry ∈ server.sessions, entry.1 = id := by
  rw [Live, Sessions.find?, List.lookup_isSome_iff]
  refine exists_congr fun entry => and_congr_right fun _ => ?_
  rw [beq_iff_eq, eq_comm]

/-- The calls `es` turn the server into another one: ids stay given away, sessions that have ended do
    not come back, and clients get ids that were never given away. -/
structure Follows (server : Server) (es : List ServerEvent) (server' : Server) : Prop where
  nextId : server.nextId ≤ server'.nextId
  ended : ∀ id, server.Dead id → ¬ server'.Live id
  accepted : ∀ id x, (⟨.accept id, x⟩ : ServerEvent) ∈ es → server.nextId ≤ id
  numbered : server.Numbered → server'.Numbered

namespace Follows

variable {es es' : List ServerEvent}

theorem refl : server.Follows [] server :=
  ⟨Nat.le_refl _, fun _ h => h.2, nofun, fun h => h⟩

theorem dead (h : server.Follows es server₁) (hd : server.Dead id) : server₁.Dead id :=
  ⟨Nat.lt_of_lt_of_le hd.1 h.nextId, h.ended id hd⟩

theorem trans (h : server.Follows es server₁) (h' : server₁.Follows es' server₂) :
    server.Follows (es ++ es') server₂ where
  nextId := Nat.le_trans h.nextId h'.nextId
  ended id hd := h'.ended id (h.dead hd)
  accepted id x hm := by
    rcases List.mem_append.1 hm with hm | hm
    · exact h.accepted id x hm
    · exact Nat.le_trans h.nextId (h'.accepted id x hm)
  numbered hn := h'.numbered (h.numbered hn)

/-- A session that is live all along was live in between. -/
theorem live (h : server₁.Follows es server₂) (hlt : id < server₁.nextId) (hl : server₂.Live id) :
    server₁.Live id := by
  by_cases hl₁ : server₁.Live id
  · exact hl₁
  · exact absurd hl (h.ended id ⟨hlt, hl₁⟩)

/-- Calls that accept nobody, and sessions with at most the ids of before. -/
theorem of_keeps (hn : server₁.nextId = server.nextId)
    (hl : ∀ id, server₁.Live id → server.Live id)
    (he : AcceptsNobody es) : server.Follows es server₁ where
  nextId := Nat.le_of_eq hn.symm
  ended id hd hlive := hd.2 (hl id hlive)
  accepted id _ hm := absurd rfl (he _ hm id)
  numbered h id hlive := hn ▸ h id (hl id hlive)

end Follows

end Server

/-! ## Handling and closing -/

namespace Serving

variable {α : Type} {turns : Nat} {server server' : Server} {es : List ServerEvent}

theorem exec_process_dead {key : Key} {r : Readiness} (h : ¬ server.Live key.session) :
    (process turns key r).exec server = .done (.ok true, server) := by
  rw [process, exec_bind, exec_get]
  simp only [Dialogue.bind, Server.not_live_iff.1 h]
  rfl

theorem exec_process_live {key : Key} {r : Readiness} {s : Session}
    (h : server.sessions.find? key.session = some s) :
    (process turns key r).exec server =
      ((Session.handle (server.context turns) key.role r ⟨s, server.ids⟩).via
        (sessionRoute key.session)).bind fun (goesOn, w) =>
          .done (.ok goesOn,
            { server with sessions := server.sessions.replace key.session w.session, ids := w.ids }) := by
  rw [process, exec_bind, exec_get]
  simp only [Dialogue.bind, h]
  rw [exec_bind, talkAs, exec_talk, Dialogue.bind_assoc]
  rfl

theorem exec_teardown_live {id : SessionId} {s : Session} (h : server.sessions.find? id = some s) :
    (teardown id).exec server = (s.close.via (sessionRoute id)).bind fun _ =>
      .done (.ok (), { server with sessions := server.sessions.remove id }) := by
  rw [teardown, exec_bind, exec_get]
  simp only [Dialogue.bind, h]
  rw [exec_bind, exec_set, talkAs]
  simp only [Dialogue.bind, exec_talk]

/-! ## Accepting -/

/-- What can come of welcoming a client: no session can be set up for it, or it gets one. -/
inductive Welcomes (id : SessionId) (peer : Endpoint) (server : Server) :
    List ServerEvent → Server → Prop where
  | refused {es : Transcript} {e : IoError} {line : LogLine} :
      Run (Session.start server.settings peer) es (.error e) →
      Welcomes id peer server (es.map (SessionEvent.onBehalf id) ++ [⟨.log none line, ()⟩]) server
  | admitted {es : Transcript} {s : Session} {line : LogLine} :
      Run (Session.start server.settings peer) es (.ok s) →
      Welcomes id peer server (es.map (SessionEvent.onBehalf id) ++
          [⟨.log (some id) line, ()⟩, ⟨.notify (.clientAccepted id peer), ()⟩])
        { server with sessions := server.sessions.add id s }

/-- What can come of accepting clients. Whoever waits is accepted until the listener has an error; some of
    them are passed over. -/
inductive Accepting : Server → List ServerEvent → Except Failure Unit → Server → Prop where
  | nobody {server : Server} {e : IoError} : e.isWouldBlock = true →
      Accepting server [⟨.accept server.nextId, .error e⟩] (.ok ()) server
  | interrupted {server server' : Server} {es : List ServerEvent} {x : Except Failure Unit} {e : IoError} :
      e.isInterrupted = true → Accepting server es x server' →
      Accepting server (⟨.accept server.nextId, .error e⟩ :: es) x server'
  | gone {server server' : Server} {es : List ServerEvent} {x : Except Failure Unit} {e : IoError}
      {line : LogLine} : e.isTransientAccept = true → Accepting server es x server' →
      Accepting server (⟨.accept server.nextId, .error e⟩ :: ⟨.log none line, ()⟩ :: es) x server'
  /-- Descriptors have run out, and clients are left waiting. -/
  | exhausted {server : Server} {e : IoError} {line : LogLine} : e.isExhaustion = true →
      Accepting server [⟨.accept server.nextId, .error e⟩, ⟨.log none line, ()⟩] (.ok ())
        { server with acceptStalled := true }
  | broken {server : Server} {e : IoError} : e.isExhaustion = false →
      Accepting server [⟨.accept server.nextId, .error e⟩] (.error ⟨some "Accept failed", e⟩) server
  | welcomed {server server₁ server' : Server} {es es' : List ServerEvent} {x : Except Failure Unit}
      {peer : Endpoint} :
      Welcomes server.nextId peer { server with nextId := server.nextId + 1 } es server₁ →
      Accepting server₁ es' x server' →
      Accepting server (⟨.accept server.nextId, .ok peer⟩ :: es ++ es') x server'

theorem welcome_welcomes {id : SessionId} {peer : Endpoint} {x : Except Failure Unit}
    (h : Run ((welcome id peer).exec server) es (x, server')) :
    x = .ok () ∧ Welcomes id peer server es server' := by
  unfold welcome talkAs at h
  rw [exec_bind, exec_get] at h
  simp only [Dialogue.bind, exec_bind, exec_talk, Dialogue.bind_assoc] at h
  obtain ⟨es₁, es₂, r, rfl, h₁, h₂⟩ := run_bind_iff.1 h
  obtain ⟨es₁, hstart, rfl⟩ := run_via_session h₁
  cases r with
  | error e =>
    obtain ⟨_, es₃, rfl, h₃⟩ := run_ask_iff.1 h₂
    obtain ⟨rfl, heq⟩ := run_done_iff.1 h₃
    cases heq
    exact ⟨rfl, .refused hstart⟩
  | ok session =>
    obtain ⟨_, es₃, rfl, h₃⟩ := run_ask_iff.1 h₂
    obtain ⟨_, es₄, rfl, h₄⟩ := run_ask_iff.1 h₃
    obtain ⟨rfl, heq⟩ := run_done_iff.1 h₄
    cases heq
    exact ⟨rfl, .admitted hstart⟩

theorem acceptLoop_accepting {x : Except Failure Unit}
    (h : Run ((acceptLoop turns).exec server) es (x, server')) : Accepting server es x server' := by
  induction turns generalizing server es with
  | zero => cases h
  | succ turns ih =>
    rw [acceptLoop, exec_bind, exec_get] at h
    simp only [Dialogue.bind, exec_bind, exec_ask] at h
    obtain ⟨r, es₁, rfl, h₁⟩ := run_ask_iff.1 h
    cases r with
    | ok peer =>
      rw [exec_bind, exec_set] at h₁
      simp only [Dialogue.bind] at h₁
      rw [exec_bind] at h₁
      obtain ⟨es₂, es₃, ⟨y, server₁⟩, rfl, h₂, h₃⟩ := run_bind_iff.1 h₁
      obtain ⟨rfl, hwelcomes⟩ := welcome_welcomes h₂
      exact .welcomed hwelcomes (ih h₃)
    | error e =>
      simp only at h₁
      split at h₁
      · next hwait =>
        obtain ⟨rfl, heq⟩ := run_done_iff.1 h₁
        cases heq
        exact .nobody hwait
      · split at h₁
        · next hagain => exact .interrupted hagain (ih h₁)
        · split at h₁
          · next hgone =>
            rw [exec_bind, exec_log] at h₁
            obtain ⟨_, es₂, rfl, h₂⟩ := run_ask_iff.1 h₁
            exact .gone hgone (ih h₂)
          · split at h₁
            · next hout =>
              rw [exec_bind, exec_log] at h₁
              obtain ⟨_, es₂, rfl, h₂⟩ := run_ask_iff.1 h₁
              obtain ⟨rfl, heq⟩ := run_done_iff.1 h₂
              cases heq
              exact .exhausted hout
            · next hbroken =>
              obtain ⟨rfl, heq⟩ := run_done_iff.1 h₁
              cases heq
              exact .broken (Bool.eq_false_iff.2 hbroken)

theorem accept_accepting {x : Except Failure Unit} (h : Run ((accept turns).exec server) es (x, server')) :
    Accepting { server with acceptStalled := false } es x server' := by
  rw [accept, exec_bind, exec_modify] at h
  exact acceptLoop_accepting h

/-! ### Who is new -/

/-- A client that is welcomed is the only one that is new. -/
theorem Welcomes.newcomer {id : SessionId} {peer : Endpoint} (h : Welcomes id peer server es server') :
    server'.nextId = server.nextId ∧ (∀ id', server'.Live id' → server.Live id' ∨ id' = id) ∧
      AcceptsNobody es := by
  cases h with
  | refused => exact ⟨rfl, fun id' hl => .inl hl, acceptsNobody_onBehalf.append acceptsNobody_log⟩
  | admitted =>
    refine ⟨rfl, fun id' hl => ?_,
      acceptsNobody_onBehalf.append (acceptsNobody_log.append acceptsNobody_notify)⟩
    obtain ⟨entry, hm, rfl⟩ := Server.live_iff_exists.1 hl
    rcases List.mem_append.1 hm with hm | hm
    · exact .inl (Server.live_iff_exists.2 ⟨entry, hm, rfl⟩)
    · exact .inr (congrArg Prod.fst (List.mem_singleton.1 hm))

theorem Welcomes.follows {peer : Endpoint}
    (h : Welcomes server.nextId peer { server with nextId := server.nextId + 1 } es server') :
    server.Follows (⟨.accept server.nextId, .ok peer⟩ :: es) server' := by
  obtain ⟨hnext, hlive, hes⟩ := h.newcomer
  refine ⟨by rw [hnext]; exact Nat.le_succ _, ?_, ?_, ?_⟩
  · rintro id ⟨hlt, hdead⟩ hl
    rcases hlive id hl with hl | rfl
    · exact hdead hl
    · exact Nat.lt_irrefl _ hlt
  · rintro id x (_ | ⟨_, hm⟩)
    · exact Nat.le_refl _
    · exact absurd rfl (hes _ hm id)
  · intro hn id hl
    rw [hnext]
    rcases hlive id hl with hl | rfl
    · exact Nat.lt_succ_of_lt (hn id hl)
    · exact Nat.lt_succ_self _

/-- Where the listener has an error, at most the flag changes. -/
theorem follows_refused {e : IoError} {b : Bool} (he : AcceptsNobody es) :
    server.Follows (⟨.accept server.nextId, .error e⟩ :: es) { server with acceptStalled := b } where
  nextId := Nat.le_refl _
  ended _ h := h.2
  accepted id x hm := by
    rcases List.mem_cons.1 hm with heq | hm
    · cases heq
      exact Nat.le_refl _
    · exact absurd rfl (he _ hm id)
  numbered h := h

theorem Accepting.follows {x : Except Failure Unit} (h : Accepting server es x server') :
    server.Follows es server' := by
  induction h with
  | nobody | broken => exact follows_refused acceptsNobody_nil
  | interrupted _ _ ih => exact (follows_refused acceptsNobody_nil).trans ih
  | gone _ _ ih => exact (follows_refused acceptsNobody_log).trans ih
  | exhausted => exact follows_refused acceptsNobody_log
  | welcomed hw _ ih => exact hw.follows.trans ih

theorem accept_follows {x : Except Failure Unit}
    (h : Run ((accept turns).exec server) es (x, server')) : server.Follows es server' := by
  obtain ⟨hnext, hended, haccepted, hnumbered⟩ := (accept_accepting h).follows
  exact ⟨hnext, hended, haccepted, hnumbered⟩

end Serving

end SocksProxy
