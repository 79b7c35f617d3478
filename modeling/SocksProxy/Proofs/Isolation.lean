/-
  Sessions do not meddle with each other.

  * `Serving.visit`: what comes of an event of a session, told from what the session itself is and gets to
    know. `exec_handleOne` says that a server does nothing else with the event;
  * `Server.Touches id`: all that has happened to a server is about one session;
  * `Serving.tell` dispatches a batch and tells for which events an id was drawn;
  * `handleEvent_local`: what an event does is the same on every server that has the session, and from it
    `tell_swap`: events of two sessions can change places.

  **`sessions_are_isolated`** puts them together.
-/
import SocksProxy.Proofs.Drawing
import SocksProxy.Proofs.Registry

namespace SocksProxy

open Dialogue

/-! ## Calls of one session -/

/-- The call is one of the session, or a line about it. -/
def ServerEvent.IsOf (id : SessionId) : ServerEvent → Prop
  | ⟨.session id' _, _⟩ => id' = id
  | ⟨.log (some id') _, _⟩ => id' = id
  | _ => False

section
variable {id id' : SessionId} {es es' es₁ es₂ : List ServerEvent} {e : ServerEvent}

theorem ServerEvent.IsOf.of?_eq_none (h : e.IsOf id) (hne : id' ≠ id) : e.of? id' = none := by
  obtain ⟨c, r⟩ := e
  cases c with
  | session id'' c =>
    obtain rfl : id'' = id := h
    exact if_neg hne.symm
  | _ => rfl

theorem ServerEvent.IsOf.move?_eq_some (h : e.IsOf id) {m : Enrolled × Move} (hm : e.move? = some m) :
    ∃ k, m.1 = .socket id k := by
  obtain ⟨c, r⟩ := e
  cases c with
  | session id'' c =>
    obtain rfl : id'' = id := h
    obtain ⟨m', -, rfl⟩ := Option.map_eq_some_iff.1 hm
    exact ⟨m'.1, rfl⟩
  | log => nomatch hm
  | _ => exact h.elim

theorem isOf_onBehalf {es : Transcript} : ∀ e ∈ es.map (SessionEvent.onBehalf id), e.IsOf id := by
  intro e he
  obtain ⟨e, -, rfl⟩ := List.mem_map.1 he
  rfl

theorem callsOf_eq_nil (h : ∀ e ∈ es, e.IsOf id) (hne : id' ≠ id) : callsOf id' es = [] :=
  List.filterMap_eq_nil_iff.2 fun e he => (h e he).of?_eq_none hne

/-- The poller has what it had, except for sockets of the session. -/
theorem count_registry_append (h : ∀ e ∈ es', e.IsOf id) {x : Enrolled} (hx : ∀ k, x ≠ .socket id k) :
    (registry (es ++ es')).count x = (registry es).count x := by
  have hnone : movesOf x es' = [] := movesOf_eq_nil fun e he m hm heq => by
    obtain ⟨k, hk⟩ := (h e he).move?_eq_some hm
    exact hx k (heq ▸ hk)
  rw [count_registry, count_registry, movesOf_append, hnone, List.append_nil]

/-- Calls of two sessions have changed places, and nothing else. -/
def Swapped (id id' : SessionId) (es es' : List ServerEvent) : Prop :=
  ∃ before es₁ es₂ behind, es = before ++ es₁ ++ es₂ ++ behind ∧ es' = before ++ es₂ ++ es₁ ++ behind ∧
    (∀ e ∈ es₁, e.IsOf id) ∧ ∀ e ∈ es₂, e.IsOf id'

theorem Swapped.refl : Swapped id id' es es :=
  ⟨es, [], [], [], by simp, by simp, List.forall_mem_nil _, List.forall_mem_nil _⟩

theorem Swapped.behind (h : Swapped id id' es es') (before : List ServerEvent) :
    Swapped id id' (before ++ es) (before ++ es') := by
  obtain ⟨before', es₁, es₂, behind, rfl, rfl, h₁, h₂⟩ := h
  exact ⟨before ++ before', es₁, es₂, behind, by simp, by simp, h₁, h₂⟩

/-- No session can tell. -/
theorem Swapped.callsOf (h : Swapped id id' es es') (hne : id ≠ id') (id'' : SessionId) :
    SocksProxy.callsOf id'' es' = SocksProxy.callsOf id'' es := by
  obtain ⟨before, es₁, es₂, behind, rfl, rfl, h₁, h₂⟩ := h
  have hnone : SocksProxy.callsOf id'' es₁ = [] ∨ SocksProxy.callsOf id'' es₂ = [] := by
    by_cases heq : id'' = id
    · exact .inr (callsOf_eq_nil h₂ (heq ▸ hne))
    · exact .inl (callsOf_eq_nil h₁ heq)
  rcases hnone with hnone | hnone <;> simp [hnone]

end

/-! ## Sessions of a server -/

namespace Sessions

variable {ss : Sessions} {id id' : SessionId} {s s' : Session} {f g : Sessions → Sessions}

/-- The others are the same, in the same order. -/
theorem EditAt.remove_eq (h : EditAt id f) : (f ss).remove id = ss.remove id := by
  cases h with
  | keep => rfl
  | replace s => exact remove_replace
  | remove => simp [Sessions.remove]

theorem EditAt.comm (hf : EditAt id f) (hg : EditAt id' g) (hne : id ≠ id') : f (g ss) = g (f ss) := by
  have hreplace (s : Session) (entry : SessionId × Session) (id id' : SessionId) (hne : id ≠ id') :
      ((if entry.1 == id then (id, s) else entry).1 != id') = (entry.1 != id') := by
    split
    · next heq => rw [eq_of_beq heq]
    · rfl
  cases hf <;> cases hg
  case keep.keep | keep.replace | keep.remove | replace.keep | remove.keep => rfl
  case replace.replace s s' =>
    simp only [Sessions.replace, List.map_map]
    refine List.map_congr_left fun entry _ => ?_
    simp only [Function.comp, beq_iff_eq]
    by_cases h₁ : entry.1 = id
    · simp [h₁, hne]
    · by_cases h₂ : entry.1 = id' <;> simp [h₁, h₂, hne.symm]
  case replace.remove s =>
    simp only [Sessions.replace, Sessions.remove, List.filter_map, Function.comp_def]
    simp only [hreplace s _ id id' hne]
  case remove.replace s =>
    simp only [Sessions.replace, Sessions.remove, List.filter_map, Function.comp_def]
    simp only [hreplace s _ id' id hne.symm]
  case remove.remove =>
    simp only [Sessions.remove, List.filter_filter, Bool.and_comm]

end Sessions

/-! ## Events of one session -/

namespace Server

/-- The server behind an event of a session, which goes on as `s?` says. -/
def put (server : Server) (id : SessionId) (s? : Option Session) (ids : Dns.QueryIds) : Server :=
  match s? with
  | some s => { server with sessions := server.sessions.replace id s, ids }
  | none => { server with sessions := server.sessions.remove id, ids }

/-- All that has happened to a server is about one session. -/
structure Touches (id : SessionId) (server : Server) (es : List ServerEvent) (server' : Server) :
    Prop where
  /-- No call was made for anybody else, of whatever kind. -/
  calls : ∀ e ∈ es, e.IsOf id
  /-- Nothing else of the server has changed. -/
  rest : server' = { server with sessions := server'.sessions, ids := server'.ids }
  /-- The other sessions are what they were, each in its place. -/
  others : server'.sessions.remove id = server.sessions.remove id ∧
    ∀ id', id' ≠ id → server'.sessions.find? id' = server.sessions.find? id'
  /-- At most one id was drawn for a query. -/
  ids : server'.ids = server.ids ∨ server'.ids = server.ids.draw.2
  /-- No other session has called, and what else was on the poller is there as often as before. -/
  spares : (∀ id', id' ≠ id → callsOf id' es = []) ∧
    ∀ before x, (∀ k, x ≠ .socket id k) → (registry (before ++ es)).count x = (registry before).count x

end Server

namespace Serving

variable {turns : Nat} {server server' : Server} {es : List ServerEvent} {ctx : Context} {key : Key}
  {r : Readiness} {stale : Nat} {later : List ReadyEvent} {w : Work}

/-- What becomes of a session behind its handler. How many more events the batch has of it is only
    logged. -/
def conclude (key : Key) (stale : Nat) (goesOn : Bool) (s : Session) : Dialogue ServerNet (Option Session) :=
  if goesOn then .done (some s)
  else (s.close.via (sessionRoute key.session)).bind fun _ =>
    if 0 < stale then
      .ask (.log (some key.session) ⟨.trace, .server, s!"Dropped {stale} stale events"⟩) fun _ => .done none
    else .done none

/-- What comes of an event of a session: how it goes on, if it does, and what the counter of ids is then. -/
def visit (ctx : Context) (key : Key) (r : Readiness) (stale : Nat) (w : Work) :
    Dialogue ServerNet (Option Session × Dns.QueryIds) :=
  ((Session.handle ctx key.role r w).via (sessionRoute key.session)).bind fun (goesOn, w) =>
    (conclude key stale goesOn w.session).bind fun s? => .done (s?, w.ids)

theorem exec_handleOne :
    (handleOne turns key r later).exec server = match server.sessions.find? key.session with
      | none => .done (.ok true, server)
      | some s => (visit (server.context turns) key r (countOf key.session later) ⟨s, server.ids⟩).bind
          fun (s?, ids) => .done (.ok s?.isSome, server.put key.session s? ids) := by
  rw [handleOne, exec_bind]
  cases hfind : server.sessions.find? key.session with
  | none =>
    rw [exec_process_dead (Server.not_live_iff.2 hfind)]
    rfl
  | some s =>
    rw [exec_process_live hfind]
    simp only [visit, Dialogue.bind_assoc]
    refine congrArg (Dialogue.bind _) (funext ?_)
    rintro ⟨goesOn, w⟩
    cases goesOn with
    | true => rfl
    | false =>
      simp only [Dialogue.bind, conclude, Bool.false_eq_true, if_false]
      rw [exec_bind, exec_teardown_live (Sessions.find?_replace hfind), Dialogue.bind_assoc,
        Dialogue.bind_assoc]
      refine congrArg (Dialogue.bind _) (funext fun _ => ?_)
      simp only [Dialogue.bind]
      split
      · rw [exec_bind, exec_logOf]
        simp only [Dialogue.bind, exec_pure, Server.put, Sessions.remove_replace]
        rfl
      · simp only [Dialogue.bind, exec_pure, Server.put, Sessions.remove_replace]
        rfl

theorem conclude_calls {goesOn : Bool} {s : Session} {s? : Option Session}
    (h : Run (conclude key stale goesOn s) es s?) : ∀ e ∈ es, e.IsOf key.session := by
  unfold conclude at h
  split at h
  · obtain ⟨rfl, -⟩ := run_done_iff.1 h
    exact List.forall_mem_nil _
  · obtain ⟨es₁, es₂, _, rfl, h₁, h₂⟩ := run_bind_iff.1 h
    obtain ⟨es₁, -, rfl⟩ := run_via_session h₁
    refine List.forall_mem_append.2 ⟨isOf_onBehalf, ?_⟩
    split at h₂
    · obtain ⟨_, es₃, rfl, h₃⟩ := run_ask_iff.1 h₂
      obtain ⟨rfl, -⟩ := run_done_iff.1 h₃
      exact List.forall_mem_singleton.2 rfl
    · obtain ⟨rfl, -⟩ := run_done_iff.1 h₂
      exact List.forall_mem_nil _

theorem run_visit_iff {s? : Option Session} {ids : Dns.QueryIds} :
    Run (visit ctx key r stale w) es (s?, ids) ↔ ∃ es₁ es₂ goesOn s,
      es = es₁.map (SessionEvent.onBehalf key.session) ++ es₂ ∧
      Run (Session.handle ctx key.role r w) es₁ (goesOn, ⟨s, ids⟩) ∧
      Run (conclude key stale goesOn s) es₂ s? := by
  rw [visit, run_bind_iff]
  constructor
  · rintro ⟨_, es₂, ⟨goesOn, w'⟩, rfl, h₁, h₂⟩
    obtain ⟨es₁, hhandle, rfl⟩ := run_via_session h₁
    obtain ⟨es₂, _, s?, rfl, hconclude, h₃⟩ := run_bind_iff.1 h₂
    obtain ⟨rfl, heq⟩ := run_done_iff.1 h₃
    cases heq
    exact ⟨es₁, es₂, goesOn, w'.session, by simp, hhandle, hconclude⟩
  · rintro ⟨es₁, es₂, goesOn, s, rfl, h₁, h₂⟩
    exact ⟨_, es₂, (goesOn, ⟨s, ids⟩), rfl, run_via_of_run h₁,
      run_bind_iff.2 ⟨es₂, [], s?, by simp, h₂, .done⟩⟩

theorem visit_calls {x : Option Session × Dns.QueryIds} (h : Run (visit ctx key r stale w) es x) :
    ∀ e ∈ es, e.IsOf key.session := by
  obtain ⟨es₁, es₂, goesOn, s, rfl, -, h₂⟩ := run_visit_iff.1 h
  exact List.forall_mem_append.2 ⟨isOf_onBehalf, conclude_calls h₂⟩

/-- The counter is of no matter to the session, or it is moved by one. -/
theorem visit_frugal {s? : Option Session} {ids : Dns.QueryIds}
    (h : Run (visit ctx key r stale w) es (s?, ids)) :
    (ids = w.ids ∧ ∀ ids, Run (visit ctx key r stale { w with ids }) es (s?, ids)) ∨
      ids = w.ids.draw.2 := by
  obtain ⟨es₁, es₂, goesOn, s, rfl, h₁, h₂⟩ := run_visit_iff.1 h
  exact (Session.handle_frugal h₁).imp_left fun ⟨hkept, hany⟩ =>
    ⟨hkept, fun ids => run_visit_iff.2 ⟨es₁, es₂, goesOn, s, rfl, hany ids, h₂⟩⟩

end Serving

namespace Server

variable {server : Server} {id : SessionId} {s? : Option Session} {ids : Dns.QueryIds}

theorem exists_edit_put : ∃ f, Sessions.EditAt id f ∧ ∀ (server : Server) ids,
    server.put id s? ids = { server with sessions := f server.sessions, ids } := by
  cases s? with
  | some s => exact ⟨_, .replace s, fun _ _ => rfl⟩
  | none => exact ⟨_, .remove, fun _ _ => rfl⟩

theorem Touches.refl : server.Touches id [] server where
  calls := List.forall_mem_nil _
  rest := rfl
  others := ⟨rfl, fun _ _ => rfl⟩
  ids := .inl rfl
  spares := ⟨fun _ _ => rfl, fun before x _ => by rw [List.append_nil]⟩

theorem touches_put {es : List ServerEvent} (hcalls : ∀ e ∈ es, e.IsOf id)
    (hids : ids = server.ids ∨ ids = server.ids.draw.2) :
    server.Touches id es (server.put id s? ids) := by
  obtain ⟨f, hf, hput⟩ : ∃ f, Sessions.EditAt id f ∧ ∀ (server : Server) ids,
      server.put id s? ids = { server with sessions := f server.sessions, ids } := exists_edit_put
  rw [hput]
  exact {
    calls := hcalls
    rest := rfl
    others := ⟨hf.remove_eq, fun id' hne => hf.find?_ne hne⟩
    ids := hids
    spares := ⟨fun id' hne => callsOf_eq_nil hcalls hne, fun before x hx => count_registry_append hcalls hx⟩ }

end Server

namespace Serving

variable {turns : Nat} {server server' : Server} {es : List ServerEvent} {key : Key} {r : Readiness}
  {later : List ReadyEvent}

theorem handleOne_touches {x : Except Failure Bool}
    (h : Run ((handleOne turns key r later).exec server) es (x, server')) :
    server.Touches key.session es server' ∧ ∃ goesOn, x = .ok goesOn := by
  rw [exec_handleOne] at h
  split at h
  · obtain ⟨rfl, heq⟩ := run_done_iff.1 h
    cases heq
    exact ⟨.refl, true, rfl⟩
  · obtain ⟨es₁, es₂, ⟨s?, ids⟩, rfl, h₁, h₂⟩ := run_bind_iff.1 h
    obtain ⟨rfl, heq⟩ := run_done_iff.1 h₂
    cases heq
    rw [List.append_nil]
    exact ⟨Server.touches_put (visit_calls h₁) ((visit_frugal h₁).imp_left And.left), _, rfl⟩

/-! ## Events of a batch -/

/-- Handles one event of a batch, and tells which session it has ended, if any. -/
def handleEvent (turns : Nat) (event : ReadyEvent) (later : List ReadyEvent) :
    Serving (Option SessionId) := do
  match event.target with
  | .listener =>
    accept turns
    return none
  | .waker | .closed => return none
  | .socket key =>
    let goesOn ← handleOne turns key event.readiness later
    return if goesOn then none else some key.session

/-- The rest of a batch, when a session has ended or none has. -/
def dropped (ended : Option SessionId) (rest : List ReadyEvent) : List ReadyEvent :=
  match ended with
  | none => rest
  | some id => invalidate id rest

theorem handleFirst_cons {n : Nat} {event : ReadyEvent} {rest : List ReadyEvent} :
    handleFirst turns (n + 1) (event :: rest) =
      handleEvent turns event rest >>= fun ended => handleFirst turns n (dropped ended rest) := by
  cases htarget : event.target with
  | waker | closed =>
    simp only [handleFirst, handleEvent, htarget, LawfulMonad.pure_bind]
    rfl
  | listener =>
    simp only [handleFirst, handleEvent, htarget, LawfulMonad.bind_assoc, LawfulMonad.pure_bind]
    rfl
  | socket key =>
    rw [handleFirst_socket htarget]
    simp only [handleEvent, htarget, LawfulMonad.bind_assoc, LawfulMonad.pure_bind]
    congr 1
    funext goesOn
    cases goesOn <;> rfl

/-- Of the rest of the batch only the number of events of each session matters. -/
theorem handleEvent_congr {event : ReadyEvent} {later' : List ReadyEvent}
    (h : ∀ id, countOf id later' = countOf id later) :
    handleEvent turns event later' = handleEvent turns event later := by
  unfold handleEvent
  split
  · rfl
  · rfl
  · rfl
  · simp only [handleOne, h]

theorem exec_handleEvent_socket {event : ReadyEvent} (htarget : event.target = .socket key) :
    (handleEvent turns event later).exec server = match server.sessions.find? key.session with
      | none => .done (.ok none, server)
      | some s => (visit (server.context turns) key event.readiness (countOf key.session later)
          ⟨s, server.ids⟩).bind fun (s?, ids) =>
            .done (.ok (if s?.isSome then none else some key.session), server.put key.session s? ids) := by
  simp only [handleEvent, htarget]
  rw [exec_bind, exec_handleOne]
  split
  · rfl
  · rw [Dialogue.bind_assoc]
    rfl

/-! ### What is dropped -/

theorem dropped_eq_map {ended : Option SessionId} {rest : List ReadyEvent} :
    dropped ended rest = rest.map fun e => if ended.any e.target.isOf then .closed else e := by
  cases ended with
  | none => simp [dropped]
  | some id => rfl

theorem dropped_comm {ended ended' : Option SessionId} {rest : List ReadyEvent} :
    dropped ended (dropped ended' rest) = dropped ended' (dropped ended rest) := by
  have hclosed (ended : Option SessionId) : ended.any ReadyEvent.closed.target.isOf = false := by
    cases ended <;> rfl
  simp only [dropped_eq_map, List.map_map]
  refine List.map_congr_left fun e _ => ?_
  by_cases h : ended.any e.target.isOf <;> by_cases h' : ended'.any e.target.isOf <;> simp [h, h', hclosed]

end Serving

/-- The entry is of the session, or of nobody. -/
def ReadyEvent.Within (id : SessionId) (e : ReadyEvent) : Prop :=
  e.target ≠ .listener ∧ ∀ key, e.target = .socket key → key.session = id

namespace Serving

variable {turns n : Nat} {server server' server₁ server₂ : Server} {es es₁ es₂ : List ServerEvent}
  {id id' : SessionId} {event a b : ReadyEvent} {later rest pre post : List ReadyEvent}
  {ended ended₁ ended₂ : Option SessionId}

theorem within_map (h : event.Within id) :
    (if ended.any event.target.isOf then ReadyEvent.closed else event).Within id := by
  split
  · exact ⟨nofun, nofun⟩
  · exact h

theorem isOf_eq_false (h : event.Within id') (hne : id ≠ id') : event.target.isOf id = false := by
  unfold Target.isOf
  split
  · next key htarget => exact beq_false_of_ne ((h.2 key htarget).trans_ne hne.symm)
  · rfl

/-- Entries of other sessions stay when one ends. -/
theorem dropped_cons (h : b.Within id') (hended : ended = none ∨ ended = some id) (hne : id ≠ id') :
    dropped ended (b :: rest) = b :: dropped ended rest := by
  rcases hended with rfl | rfl
  · rfl
  · simp only [dropped, invalidate, List.map_cons, isOf_eq_false h hne, Bool.false_eq_true, if_false]

theorem countOf_cons (h : b.Within id') (hne : id ≠ id') : countOf id (b :: rest) = countOf id rest :=
  List.countP_cons_of_neg (by simp [isOf_eq_false h hne])

theorem countOf_dropped (hended : ended = none ∨ ended = some id) (hne : id ≠ id') :
    countOf id' (dropped ended rest) = countOf id' rest := by
  rcases hended with rfl | rfl
  · rfl
  · rw [dropped, invalidate, countOf, countOf, List.countP_map]
    refine List.countP_congr fun e _ => ?_
    simp only [Function.comp]
    split
    · next hof =>
      have hkey : e.target.isOf id' = false := by
        unfold Target.isOf at hof ⊢
        split at hof
        · exact beq_false_of_ne ((eq_of_beq hof).trans_ne hne)
        · cases hof
      rw [hkey]
      rfl
    · rfl

/-! ### An event is the same everywhere -/

/-- What an event does: it edits one session, and makes calls for it alone. It does the same on every
    server that has the session, unless it depends on the counter of ids. -/
structure Local (turns : Nat) (id : SessionId) (event : ReadyEvent) (later : List ReadyEvent)
    (server : Server) (es : List ServerEvent) (ended : Option SessionId) (f : Sessions → Sessions)
    (ids : Dns.QueryIds) : Prop where
  ends : ended = none ∨ ended = some id
  edit : Sessions.EditAt id f
  calls : ∀ e ∈ es, e.IsOf id
  anywhere : ∀ (other : Server) later', other.context turns = server.context turns →
    other.sessions.find? id = server.sessions.find? id → countOf id later' = countOf id later →
    ∀ ids', other.ids = server.ids ∧ ids' = ids ∨ ids = server.ids ∧ ids' = other.ids →
      Run ((handleEvent turns event later').exec other) es
        (.ok ended, { other with sessions := f other.sessions, ids := ids' })

/-- An event for which nothing is done. -/
theorem Local.idle (h : ∀ (other : Server) later', other.sessions.find? id = server.sessions.find? id →
    (handleEvent turns event later').exec other = .done (.ok none, other)) :
    Local turns id event later server [] none (fun sessions => sessions) server.ids where
  ends := .inl rfl
  edit := .keep
  calls := List.forall_mem_nil _
  anywhere other later' _ hother _ ids' hids := by
    have hsame : ids' = other.ids := by
      rcases hids with ⟨heq, rfl⟩ | ⟨-, heq⟩
      · exact heq.symm
      · exact heq
    rw [h other later' hother, hsame]
    exact .done

/-- An event of a session that is there. Its handler draws an id, or the counter is of no matter to it. -/
theorem Local.visited {key : Key} {s : Session} {s? : Option Session} {ids : Dns.QueryIds}
    {f : Sessions → Sessions} (htarget : event.target = .socket key)
    (hfind : server.sessions.find? key.session = some s) (hf : Sessions.EditAt key.session f)
    (hput : ∀ (server : Server) ids,
      server.put key.session s? ids = { server with sessions := f server.sessions, ids })
    (h : Run (visit (server.context turns) key event.readiness (countOf key.session later)
      ⟨s, server.ids⟩) es (s?, ids)) :
    Local turns key.session event later server es (if s?.isSome then none else some key.session) f ids where
  ends := by
    cases s? with
    | some s => exact .inl rfl
    | none => exact .inr rfl
  edit := hf
  calls := visit_calls h
  anywhere other later' hctx hother hcount ids' hids := by
    rw [exec_handleEvent_socket htarget, hother, hfind, hctx, hcount]
    refine run_bind_iff.2 ⟨es, [], (s?, ids'), (List.append_nil _).symm, ?_, ?_⟩
    · rcases hids with ⟨heq, rfl⟩ | ⟨heq, rfl⟩
      · rw [heq]
        exact h
      · rcases visit_frugal h with ⟨-, hany⟩ | hdrawn
        · exact hany other.ids
        · exact absurd (hdrawn.symm.trans heq) (Dns.QueryIds.draw_ne _)
    · rw [← hput]
      exact .done

theorem handleEvent_local (hw : event.Within id) {x : Except Failure (Option SessionId)}
    (h : Run ((handleEvent turns event later).exec server) es (x, server')) :
    ∃ ended f, x = .ok ended ∧ server' = { server with sessions := f server.sessions, ids := server'.ids } ∧
      Local turns id event later server es ended f server'.ids := by
  have hidle (hnone : ∀ (other : Server) later', other.sessions.find? id = server.sessions.find? id →
      (handleEvent turns event later').exec other = .done (.ok none, other)) :
      ∃ ended f, x = .ok ended ∧
        server' = { server with sessions := f server.sessions, ids := server'.ids } ∧
        Local turns id event later server es ended f server'.ids := by
    rw [hnone server later rfl] at h
    obtain ⟨rfl, heq⟩ := run_done_iff.1 h
    cases heq
    exact ⟨none, _, rfl, rfl, .idle hnone⟩
  cases htarget : event.target with
  | listener => exact absurd htarget hw.1
  | waker | closed =>
    refine hidle fun other later' _ => ?_
    simp only [handleEvent, htarget]
    rfl
  | socket key =>
    obtain rfl : key.session = id := hw.2 key htarget
    cases hfind : server.sessions.find? key.session with
    | none =>
      refine hidle fun other later' hother => ?_
      rw [exec_handleEvent_socket htarget, hother, hfind]
    | some s =>
      rw [exec_handleEvent_socket htarget, hfind] at h
      obtain ⟨es₁, es₂, ⟨s?, ids⟩, rfl, h₁, h₂⟩ := run_bind_iff.1 h
      obtain ⟨rfl, heq⟩ := run_done_iff.1 h₂
      cases heq
      obtain ⟨f, hf, hput⟩ : ∃ f, Sessions.EditAt key.session f ∧ ∀ (server : Server) ids,
          server.put key.session s? ids = { server with sessions := f server.sessions, ids } :=
        Server.exists_edit_put
      rw [List.append_nil, hput]
      exact ⟨_, f, rfl, rfl, .visited htarget hfind hf hput h₁⟩

/-- Events of two sessions can change places, unless both draw an id. -/
theorem handleEvent_commute (ha : a.Within id) (hb : b.Within id') (hne : id ≠ id')
    (h₁ : Run ((handleEvent turns a (b :: rest)).exec server) es₁ (.ok ended₁, server₁))
    (h₂ : Run ((handleEvent turns b (dropped ended₁ rest)).exec server₁) es₂ (.ok ended₂, server₂))
    (hone : server₁.ids = server.ids ∨ server₂.ids = server₁.ids) :
    ∃ server₃, Run ((handleEvent turns b (a :: rest)).exec server) es₂ (.ok ended₂, server₃) ∧
      Run ((handleEvent turns a (dropped ended₂ rest)).exec server₃) es₁ (.ok ended₁, server₂) := by
  obtain ⟨_, f, heq, hserver₁, hl₁⟩ := handleEvent_local ha h₁
  cases heq
  obtain ⟨_, g, heq, hserver₂, hl₂⟩ := handleEvent_local hb h₂
  cases heq
  have hcontext : server.context turns = server₁.context turns := by rw [hserver₁]; rfl
  have hfind : server.sessions.find? id' = server₁.sessions.find? id' := by
    rw [hserver₁]
    exact (hl₁.edit.find?_ne hne.symm).symm
  have hcount : countOf id' (a :: rest) = countOf id' (dropped ended₁ rest) := by
    rw [countOf_cons ha hne.symm, countOf_dropped hl₁.ends hne]
  have hcount' : countOf id (dropped ended₂ rest) = countOf id (b :: rest) := by
    rw [countOf_dropped hl₂.ends hne.symm, countOf_cons hb hne]
  have hserver₂ : server₂ = { server with
      sessions := f (g server.sessions), ids := server₂.ids } := by
    rw [hserver₂, hserver₁, hl₁.edit.comm hl₂.edit hne]
  -- Whichever does not draw is handled with the ids that the other one leaves it.
  rcases hone with hone | hone
  · refine ⟨_, hl₂.anywhere server (a :: rest) hcontext hfind hcount server₂.ids (.inl ⟨hone.symm, rfl⟩), ?_⟩
    have h := hl₁.anywhere { server with sessions := g server.sessions, ids := server₂.ids }
      (dropped ended₂ rest) rfl (hl₂.edit.find?_ne hne) hcount' server₂.ids (.inr ⟨hone, rfl⟩)
    rwa [hserver₂]
  · refine ⟨_, hl₂.anywhere server (a :: rest) hcontext hfind hcount server.ids (.inr ⟨hone, rfl⟩), ?_⟩
    have h := hl₁.anywhere { server with sessions := g server.sessions } (dropped ended₂ rest) rfl
      (hl₂.edit.find?_ne hne) hcount' server₁.ids (.inl ⟨rfl, rfl⟩)
    rw [hserver₂, hone]
    exact h

/-! ## Telling who draws -/

/-- Handles the first `n` events of a batch in order, and tells of each whether an id was drawn for it. -/
def tellFirst (turns : Nat) : (n : Nat) → (batch : List ReadyEvent) → Server →
    Dialogue ServerNet (List Bool × Except Failure Unit × Server)
  | 0, _, server | _, [], server => .done ([], .ok (), server)
  | n + 1, event :: rest, server =>
    ((handleEvent turns event rest).exec server).bind fun
      | (.ok ended, after) =>
        (tellFirst turns n (dropped ended rest) after).bind fun (told, r, last) =>
          .done (decide (after.ids ≠ server.ids) :: told, r, last)
      | (.error failure, after) => .done ([], .error failure, after)

/-- What is done behind the events of a batch, if nothing has failed. -/
def afterAll (turns live : Nat) (r : Except Failure Unit) (server : Server) :
    Dialogue ServerNet (Except Failure Unit × Server) :=
  match r with
  | .ok _ =>
    if server.acceptStalled && server.sessions.length < live then (accept turns).exec server
    else .done (.ok (), server)
  | .error failure => .done (.error failure, server)

/-- Dispatches a batch, and tells of each event whether an id was drawn for it. -/
def tell (turns : Nat) (batch : List ReadyEvent) (server : Server) :
    Dialogue ServerNet (List Bool × Except Failure Unit × Server) :=
  (tellFirst turns batch.length batch server).bind fun (told, r, after) =>
    (afterAll turns server.sessions.length r after).bind fun (r, last) => .done (told, r, last)

theorem handleFirst_eq_tellFirst {batch : List ReadyEvent} :
    (handleFirst turns n batch).exec server =
      (tellFirst turns n batch server).bind fun x => .done x.2 := by
  induction n generalizing batch server with
  | zero => rfl
  | succ n ih =>
    cases batch with
    | nil => rfl
    | cons event rest =>
      rw [handleFirst_cons, exec_bind, tellFirst, Dialogue.bind_assoc]
      refine congrArg (Dialogue.bind _) (funext fun (x, after) => ?_)
      cases x with
      | ok ended =>
        simp only [Dialogue.bind_assoc]
        exact ih
      | error failure => rfl

theorem dispatch_eq_tell {batch : List ReadyEvent} :
    (dispatch turns batch).exec server = (tell turns batch server).bind fun x => .done x.2 := by
  unfold dispatch handleAll tell
  rw [exec_bind, exec_get]
  simp only [Dialogue.bind]
  rw [exec_bind, handleFirst_eq_tellFirst, Dialogue.bind_assoc, Dialogue.bind_assoc]
  refine congrArg (Dialogue.bind _) (funext ?_)
  rintro ⟨told, r, after⟩
  simp only [Dialogue.bind, Dialogue.bind_assoc]
  cases r with
  | error failure => rfl
  | ok _ =>
    simp only [afterAll]
    rw [exec_bind, exec_get]
    simp only [Dialogue.bind]
    split
    · exact (Dialogue.bind_done _).symm
    · rfl

theorem run_tellFirst_cons_iff {told : List Bool} {r : Except Failure Unit} :
    Run (tellFirst turns (n + 1) (event :: rest) server) es (told, r, server') ↔
      (∃ es₁ es₂ ended server₁ told', es = es₁ ++ es₂ ∧
        Run ((handleEvent turns event rest).exec server) es₁ (.ok ended, server₁) ∧
        Run (tellFirst turns n (dropped ended rest) server₁) es₂ (told', r, server') ∧
        told = decide (server₁.ids ≠ server.ids) :: told') ∨
      ∃ failure, Run ((handleEvent turns event rest).exec server) es (.error failure, server') ∧
        r = .error failure ∧ told = [] := by
  rw [tellFirst, run_bind_iff]
  constructor
  · rintro ⟨es₁, es₂, ⟨x, server₁⟩, rfl, h₁, h₂⟩
    cases x with
    | ok ended =>
      obtain ⟨es₂, es₃, ⟨told', r', server₂⟩, rfl, h₂, h₃⟩ := run_bind_iff.1 h₂
      obtain ⟨rfl, heq⟩ := run_done_iff.1 h₃
      cases heq
      exact .inl ⟨es₁, es₂, ended, server₁, told', by simp, h₁, h₂, rfl⟩
    | error failure =>
      obtain ⟨rfl, heq⟩ := run_done_iff.1 h₂
      cases heq
      exact .inr ⟨failure, by rwa [List.append_nil], rfl, rfl⟩
  · rintro (⟨es₁, es₂, ended, server₁, told', rfl, h₁, h₂, rfl⟩ | ⟨failure, h₁, rfl, rfl⟩)
    · exact ⟨es₁, es₂, _, rfl, h₁, run_bind_iff.2 ⟨es₂, [], _, by simp, h₂, .done⟩⟩
    · exact ⟨es, [], _, by simp, h₁, .done⟩

theorem tellFirst_swap {k : Nat} {told : List Bool} {r : Except Failure Unit} (ha : a.Within id)
    (hb : b.Within id') (hne : id ≠ id') (hk : pre.length = k)
    (h : Run (tellFirst turns (k + (n + 2)) (pre ++ a :: b :: post) server) es (told, r, server'))
    (hone : ¬ (told[k]? = some true ∧ told[k + 1]? = some true)) :
    ∃ es' told', Run (tellFirst turns (k + (n + 2)) (pre ++ b :: a :: post) server) es'
      (told', r, server') ∧ Swapped id id' es es' := by
  induction k generalizing pre a b post server es told with
  | zero =>
    obtain rfl := List.length_eq_zero_iff.1 hk
    rw [Nat.zero_add, List.nil_append] at h ⊢
    obtain ⟨es₁, es₂, ended₁, server₁, told₁, rfl, h₁, hrest, rfl⟩ | ⟨failure, h₁, -, -⟩ :=
      run_tellFirst_cons_iff.1 h
    · obtain ⟨_, _, heq, -, hl₁⟩ := handleEvent_local ha h₁
      cases heq
      rw [dropped_cons hb hl₁.ends hne] at hrest
      obtain ⟨es₂, es₃, ended₂, server₂, told₂, rfl, h₂, h₃, rfl⟩ | ⟨failure, h₂, -, -⟩ :=
        run_tellFirst_cons_iff.1 hrest
      · obtain ⟨_, _, heq, -, hl₂⟩ := handleEvent_local hb h₂
        cases heq
        have hone : server₁.ids = server.ids ∨ server₂.ids = server₁.ids := by
          by_contra hboth
          rw [not_or] at hboth
          exact hone ⟨by simpa using hboth.1, by simpa using hboth.2⟩
        obtain ⟨server₃, h₂', h₁'⟩ := handleEvent_commute ha hb hne h₁ h₂ hone
        rw [dropped_comm] at h₃
        have hthen : Run (tellFirst turns (n + 1) (dropped ended₂ (a :: post)) server₃) (es₁ ++ es₃)
            (decide (server₂.ids ≠ server₃.ids) :: told₂, r, server') := by
          rw [dropped_cons ha hl₂.ends hne.symm]
          exact run_tellFirst_cons_iff.2 (.inl ⟨es₁, es₃, ended₁, server₂, told₂, rfl, h₁', h₃, rfl⟩)
        exact ⟨es₂ ++ (es₁ ++ es₃), _, run_tellFirst_cons_iff.2 (.inl ⟨es₂, _, ended₂, server₃, _, rfl,
          h₂', hthen, rfl⟩), [], es₁, es₂, es₃, by simp, by simp, hl₁.calls, hl₂.calls⟩
      · obtain ⟨_, _, heq, -⟩ := handleEvent_local hb h₂
        cases heq
    · obtain ⟨_, _, heq, -⟩ := handleEvent_local ha h₁
      cases heq
  | succ k ih =>
    obtain ⟨c, pre, rfl⟩ := List.exists_cons_of_length_eq_add_one hk
    rw [Nat.add_right_comm, List.cons_append] at h ⊢
    have hcongr : handleEvent turns c (pre ++ b :: a :: post) = handleEvent turns c (pre ++ a :: b :: post) :=
      handleEvent_congr fun id => List.Perm.countP_eq _ (List.Perm.append_left pre (.swap a b post))
    obtain ⟨es₁, es₂, ended, server₁, told₁, rfl, h₁, hrest, rfl⟩ | ⟨failure, h₁, rfl, rfl⟩ :=
      run_tellFirst_cons_iff.1 h
    · -- What the first event closes, it closes in both batches.
      rw [dropped_eq_map, List.map_append, List.map_cons, List.map_cons] at hrest
      obtain ⟨es', told', hrest', hswapped⟩ := ih (within_map ha) (within_map hb)
        (by rw [List.length_map]; exact Nat.add_right_cancel hk) hrest
        (by simpa only [List.getElem?_cons_succ] using hone)
      refine ⟨es₁ ++ es', _, run_tellFirst_cons_iff.2 (.inl ⟨es₁, es', ended, server₁, told', rfl,
        hcongr ▸ h₁, ?_, rfl⟩), hswapped.behind es₁⟩
      rw [dropped_eq_map, List.map_append, List.map_cons, List.map_cons]
      exact hrest'
    · exact ⟨es, [], run_tellFirst_cons_iff.2 (.inr ⟨failure, hcongr ▸ h₁, rfl, rfl⟩), .refl⟩

theorem tell_swap {told : List Bool} {r : Except Failure Unit} (ha : a.Within id) (hb : b.Within id')
    (hne : id ≠ id') (h : Run (tell turns (pre ++ a :: b :: post) server) es (told, r, server'))
    (hone : ¬ (told[pre.length]? = some true ∧ told[pre.length + 1]? = some true)) :
    ∃ es' told', Run (tell turns (pre ++ b :: a :: post) server) es' (told', r, server') ∧
      Swapped id id' es es' := by
  have hlength (x y : ReadyEvent) :
      (pre ++ x :: y :: post).length = pre.length + (post.length + 2) := by
    simp
  obtain ⟨es₁, es₂, ⟨told₁, r₁, server₁⟩, rfl, h₁, hrest⟩ := run_bind_iff.1 h
  obtain ⟨es₂, es₃, ⟨r₂, server₂⟩, rfl, h₂, h₃⟩ := run_bind_iff.1 hrest
  obtain ⟨rfl, heq⟩ := run_done_iff.1 h₃
  cases heq
  rw [hlength] at h₁
  obtain ⟨es', told', h₁', before, es₃, es₄, behind, rfl, rfl, hid, hid'⟩ :=
    tellFirst_swap ha hb hne rfl h₁ hone
  refine ⟨_, told', run_bind_iff.2 ⟨_, es₂, (told', r₁, server₁), rfl, by rw [hlength]; exact h₁',
    run_bind_iff.2 ⟨es₂, [], (r, server'), by simp, h₂, .done⟩⟩,
    before, es₃, es₄, behind ++ es₂, by simp, by simp, hid, hid'⟩

/-! ## What can fail -/

/-- The last thing that was done is that no client could be accepted, and that is the failure. -/
def FailsToAccept (es : List ServerEvent) (failure : Failure) : Prop :=
  ∃ es₁ id e, es = es₁ ++ [⟨.accept id, .error e⟩] ∧ failure = ⟨some "Accept failed", e⟩

theorem FailsToAccept.behind {failure : Failure} (h : FailsToAccept es failure) (before : List ServerEvent) :
    FailsToAccept (before ++ es) failure := by
  obtain ⟨es₁, id, e, rfl, rfl⟩ := h
  exact ⟨before ++ es₁, id, e, by simp, rfl⟩

theorem Accepting.fails {x : Except Failure Unit} {failure : Failure} (h : Accepting server es x server')
    (hx : x = .error failure) : FailsToAccept es failure := by
  induction h with
  | nobody | exhausted => cases hx
  | interrupted _ _ ih => exact (ih hx).behind [_]
  | gone _ _ ih => exact (ih hx).behind [_, _]
  | broken =>
    cases hx
    exact ⟨[], _, _, rfl, rfl⟩
  | @welcomed server _ _ es _ _ peer _ _ ih => exact (ih hx).behind (⟨.accept server.nextId, .ok peer⟩ :: es)

theorem accept_fails {tries : Nat} {failure : Failure}
    (h : Run ((accept tries).exec server) es (.error failure, server')) : FailsToAccept es failure :=
  (accept_accepting h).fails rfl

theorem handleEvent_fails {failure : Failure}
    (h : Run ((handleEvent turns event later).exec server) es (.error failure, server')) :
    FailsToAccept es failure := by
  cases htarget : event.target with
  | listener =>
    simp only [handleEvent, htarget] at h
    rw [exec_bind] at h
    obtain ⟨es₁, es₂, ⟨x, server₁⟩, rfl, h₁, h₂⟩ := run_bind_iff.1 h
    cases x with
    | ok _ => cases (run_done_iff.1 h₂).2
    | error e =>
      obtain ⟨rfl, heq⟩ := run_done_iff.1 h₂
      cases heq
      rw [List.append_nil]
      exact accept_fails h₁
  | waker | closed =>
    simp only [handleEvent, htarget] at h
    cases (run_done_iff.1 h).2
  | socket key =>
    have hwithin : event.Within key.session :=
      ⟨by rw [htarget]; nofun, fun key' h => by rw [htarget] at h; cases h; rfl⟩
    obtain ⟨_, _, heq, -⟩ := handleEvent_local hwithin h
    cases heq

theorem tellFirst_fails {batch : List ReadyEvent} {told : List Bool} {failure : Failure}
    (h : Run (tellFirst turns n batch server) es (told, .error failure, server')) :
    FailsToAccept es failure := by
  induction n generalizing batch server es told with
  | zero => cases (run_done_iff.1 h).2
  | succ n ih =>
    cases batch with
    | nil => cases (run_done_iff.1 h).2
    | cons event rest =>
      obtain ⟨es₁, es₂, ended, server₁, told', rfl, -, h₂, -⟩ | ⟨failure, h₁, heq, -⟩ :=
        run_tellFirst_cons_iff.1 h
      · exact (ih h₂).behind es₁
      · cases heq
        exact handleEvent_fails h₁

/-- Nothing but the listener makes the dispatch of a batch fail. -/
theorem dispatch_fails {batch : List ReadyEvent} {failure : Failure}
    (h : Run ((dispatch turns batch).exec server) es (.error failure, server')) :
    FailsToAccept es failure := by
  rw [dispatch_eq_tell] at h
  obtain ⟨es₁, es₂, ⟨told, r, server₁⟩, rfl, h₁, h₂⟩ := run_bind_iff.1 h
  obtain ⟨rfl, heq⟩ := run_done_iff.1 h₂
  cases heq
  rw [List.append_nil]
  obtain ⟨es₃, es₄, ⟨told', r', server₂⟩, rfl, h₃, h₄⟩ := run_bind_iff.1 h₁
  obtain ⟨es₅, es₆, ⟨r'', server₃⟩, rfl, h₅, h₆⟩ := run_bind_iff.1 h₄
  obtain ⟨rfl, heq⟩ := run_done_iff.1 h₆
  cases heq
  rw [List.append_nil]
  cases r' with
  | error e =>
    obtain ⟨rfl, heq⟩ := run_done_iff.1 h₅
    cases heq
    rw [List.append_nil]
    exact tellFirst_fails h₃
  | ok _ =>
    simp only [afterAll] at h₅
    split at h₅
    · exact (accept_fails h₅).behind es₃
    · cases (run_done_iff.1 h₅).2

end Serving

/-! ## Isolation -/

open Serving in
/-- **Sessions are isolated from each other.**

    Take any server and any event of a socket of a session. What comes of the event, and of closing the session
    if its handler fails, is told by `visit` from the configuration, the name server, the record of the session
    and the counter of ids; all that the environment has a say in is the calls of that session. So nothing else
    is touched (`Server.Touches`), and there is no failure.

    A batch whose neighbouring events of two sessions have changed places leads to the same server, unless an id
    was drawn for both of them; every session makes the same calls. And only the listener makes the dispatch of
    a batch fail. -/
theorem sessions_are_isolated (turns : Nat) (server : Server) :
    (∀ key r later,
      (handleOne turns key r later).exec server = (match server.sessions.find? key.session with
        | none => .done (.ok true, server)
        | some s =>
          (visit (server.context turns) key r (countOf key.session later) ⟨s, server.ids⟩).bind
            fun (s?, ids) => .done (.ok s?.isSome, server.put key.session s? ids)) ∧
      ∀ es x server', Run ((handleOne turns key r later).exec server) es (x, server') →
        server.Touches key.session es server' ∧ ∃ goesOn, x = .ok goesOn) ∧
    (∀ n event rest key, event.target = .socket key →
      handleFirst turns (n + 1) (event :: rest) =
        handleOne turns key event.readiness rest >>= fun goesOn =>
          handleFirst turns n (if goesOn then rest else invalidate key.session rest)) ∧
    (∀ batch, (dispatch turns batch).exec server = (tell turns batch server).bind fun x => .done x.2) ∧
    (∀ pre a b post key key', a.target = .socket key → b.target = .socket key' →
      key.session ≠ key'.session → ∀ es told r server',
        Run (tell turns (pre ++ a :: b :: post) server) es (told, r, server') →
        ¬ (told[pre.length]? = some true ∧ told[pre.length + 1]? = some true) →
        ∃ es' told', Run (tell turns (pre ++ b :: a :: post) server) es' (told', r, server') ∧
          Swapped key.session key'.session es es' ∧ ∀ id, callsOf id es' = callsOf id es) ∧
    ∀ batch es failure server', Run ((dispatch turns batch).exec server) es (.error failure, server') →
      FailsToAccept es failure := by
  have hwithin {e : ReadyEvent} {key : Key} (h : e.target = .socket key) : e.Within key.session :=
    ⟨by rw [h]; nofun, fun key' h' => by rw [h] at h'; cases h'; rfl⟩
  refine ⟨fun key r later => ⟨exec_handleOne, fun es x server' => handleOne_touches⟩,
    fun n event rest key => handleFirst_socket, fun batch => dispatch_eq_tell, ?_,
    fun batch es failure server' => dispatch_fails⟩
  intro pre a b post key key' ha hb hne es told r server' h hone
  obtain ⟨es', told', h', hswapped⟩ := tell_swap (hwithin ha) (hwithin hb) hne h hone
  exact ⟨es', told', h', hswapped, hswapped.callsOf hne⟩

/-! ## Two events of a batch -/

/-- Two sessions: the first waits for a request, the second for a greeting. -/
def crossing : Server where
  settings := {}
  localAddress := ⟨.v4 ⟨192, 0, 2, 1⟩, 1080⟩
  nameServer := some ⟨.v4 ⟨192, 0, 2, 53⟩, 53⟩
  sessions := [(1, { Session.fresh ⟨.v4 ⟨192, 0, 2, 9⟩, 4000⟩ ⟨.v4 ⟨192, 0, 2, 1⟩, 1080⟩ with
    stage := .authenticated }), (2, Session.fresh ⟨.v4 ⟨192, 0, 2, 7⟩, 4000⟩ ⟨.v4 ⟨192, 0, 2, 1⟩, 1080⟩)]
  nextId := 3
  ids := ⟨7⟩
  acceptStalled := false

/-- The first client asks for a name, the second one greets. -/
def ServerScript.crossing : ServerScript where
  sockets
    | 1 => .between [[5, 1, 0, 3, 1, 97, 0, 80]] []
    | _ => .between [[5, 1, 0]] []

/-- An id is drawn for one of the two events, so that they can change places. -/
theorem crossing_events_change_places :
    ∃ es server' es' told', Run (Serving.tell 8 [.fromClient 1, .fromClient 2] crossing) es
        ([true, false], .ok (), server') ∧
      server'.ids = ⟨8⟩ ∧ server'.Live 1 ∧ server'.Live 2 ∧
      Run (Serving.tell 8 [.fromClient 2, .fromClient 1] crossing) es' (told', .ok (), server') ∧
      Swapped 1 2 es es' ∧ ∀ id, callsOf id es' = callsOf id es := by
  let seen (y : List Bool × Except Failure Unit × Server) : Bool :=
    decide (y.1 = [true, false]) && y.2.1.isOk && decide (y.2.2.ids = ⟨8⟩) && decide (y.2.2.Live 1) &&
      decide (y.2.2.Live 2)
  have hplay : ((Serving.tell 8 [.fromClient 1, .fromClient 2] crossing).play ServerScript.answer
      .crossing).any (fun x => seen x.2.1) = true := by
    decide +kernel
  obtain ⟨es, ⟨told, r, server'⟩, hrun, hp⟩ := exists_run_of_play (q := fun _ => seen) hplay
  simp only [seen, Bool.and_eq_true, decide_eq_true_eq] at hp
  obtain ⟨⟨⟨⟨rfl, hok⟩, hids⟩, hlive⟩, hlive'⟩ := hp
  cases r with
  | error failure => nomatch hok
  | ok _ =>
    obtain ⟨-, -, -, hswap, -⟩ := sessions_are_isolated 8 crossing
    obtain ⟨es', told', hrun', hswapped, hcalls⟩ := hswap [] (.fromClient 1) (.fromClient 2) [] ⟨1, .client⟩
      ⟨2, .client⟩ rfl rfl (by decide) es _ _ server' hrun (by decide)
    exact ⟨es, server', es', told', hrun, hids, hlive, hlive', hrun', hswapped, hcalls⟩

end SocksProxy
