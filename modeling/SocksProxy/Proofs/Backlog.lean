/-
  Clients that are left waiting when descriptors have run out.

  The listener does not report them again. They are accepted when it reports somebody else, or behind
  a batch that has released descriptors.

  * `stalledAfter` reads off the calls whether clients were left waiting, `closings` and `welcomes` how
    many sessions are over and how many are new;
  * `Server.Orderly`: every session has an id of its own and is as it should be between two turns;
  * `Server.Tallies`: what the calls say is what the server has written down. One lemma for each part of
    serving, `handleFirst_tallies` for a batch.

  **`accepting_resumes`** says what becomes of those who wait when a session is closed: they are accepted
  behind the batch exactly if more sessions are over than new. `newcomer_takes_the_place` is a batch in
  which one is over and one is new, and nobody is accepted any more.
-/
import Mathlib.Data.List.Nodup
import SocksProxy.Proofs.Dispatch
import SocksProxy.Proofs.Notices

namespace SocksProxy

open Dialogue

/-! ## What the calls say -/

namespace ServerEvent

/-- The listener is asked for a client. -/
def isAccept (e : ServerEvent) : Bool :=
  match e.1 with
  | .accept _ => true
  | _ => false

/-- A session is closed: observers are told that its client is gone. -/
def isClosing (e : ServerEvent) : Bool :=
  match e.1 with
  | .session _ (.notify (.clientDisconnected _)) => true
  | _ => false

/-- A client has got a session, and observers are told. -/
def isWelcome (e : ServerEvent) : Bool :=
  match e.1 with
  | .notify (.clientAccepted _ _) => true
  | _ => false

/-- Whether clients are left waiting behind the call. -/
def stalls (before : Bool) : ServerEvent → Bool
  | ⟨.accept _, .ok _⟩ => false
  | ⟨.accept _, .error e⟩ => e.isExhaustion
  | _ => before

variable {e : ServerEvent} {b b' : Bool}

/-- What was the case before an answer of the listener does not matter. -/
theorem stalls_of_accept (h : e.isAccept = true) : e.stalls b = e.stalls b' := by
  have haccept (id : SessionId) (x : Except IoError Endpoint) :
      stalls b ⟨.accept id, x⟩ = stalls b' ⟨.accept id, x⟩ := by
    cases x <;> rfl
  obtain ⟨c, x⟩ := e
  cases c with
  | accept id => exact haccept id x
  | _ => nomatch h

theorem stalls_of_not_accept (h : e.isAccept = false) : e.stalls b = b := by
  obtain ⟨c, x⟩ := e
  cases c with
  | accept id => nomatch h
  | _ => rfl

end ServerEvent

/-- Whether clients are left waiting behind the calls, because descriptors have run out. -/
def stalledAfter (before : Bool) (es : List ServerEvent) : Bool :=
  es.foldl ServerEvent.stalls before

/-- How many sessions are closed. -/
def closings (es : List ServerEvent) : Nat :=
  es.countP ServerEvent.isClosing

/-- How many clients have got a session. -/
def welcomes (es : List ServerEvent) : Nat :=
  es.countP ServerEvent.isWelcome

section
variable {es es' : List ServerEvent} {e : ServerEvent} {b b' : Bool}

theorem stalledAfter_append : stalledAfter b (es ++ es') = stalledAfter (stalledAfter b es) es' :=
  List.foldl_append

theorem stalledAfter_of_acceptsNobody (h : ∀ e ∈ es, e.isAccept = false) : stalledAfter b es = b := by
  induction es with
  | nil => rfl
  | cons e es ih =>
    obtain ⟨he, hes⟩ := List.forall_mem_cons.1 h
    rw [stalledAfter, List.foldl_cons, ServerEvent.stalls_of_not_accept he]
    exact ih hes

/-- The listener is asked first. -/
def AsksFirst (es : List ServerEvent) : Prop :=
  ∃ e rest, es = e :: rest ∧ e.isAccept = true

/-- The listener is asked last. -/
def AsksLast (es : List ServerEvent) : Prop :=
  ∃ front e, es = front ++ [e] ∧ e.isAccept = true

theorem AsksLast.behind (h : AsksLast es') (es : List ServerEvent) : AsksLast (es ++ es') := by
  obtain ⟨front, e, rfl, he⟩ := h
  exact ⟨es ++ front, e, (List.append_assoc ..).symm, he⟩

/-- The last call is in every end of the calls. -/
theorem AsksLast.of_append (h : AsksLast (es ++ e :: es')) : ∃ e' ∈ e :: es', e'.isAccept = true := by
  obtain ⟨front, last, heq, hlast⟩ := h
  refine ⟨last, ?_, hlast⟩
  rcases List.append_eq_append_iff.1 heq with ⟨mid, rfl, hmid⟩ | ⟨mid, rfl, hmid⟩
  · rw [hmid]
    exact List.mem_append_right _ (List.mem_singleton_self _)
  · cases mid with
    | nil => exact (show [last] = e :: es' from hmid) ▸ List.mem_singleton_self _
    | cons x mid => exact absurd (List.cons.inj hmid).2 (by simp)

theorem AsksFirst.stalledAfter_eq (h : AsksFirst es) : stalledAfter b es = stalledAfter b' es := by
  obtain ⟨e, rest, rfl, he⟩ := h
  rw [stalledAfter, stalledAfter, List.foldl_cons, List.foldl_cons, ServerEvent.stalls_of_accept he]

theorem closings_cons (h : e.isClosing = false) : closings (e :: es) = closings es :=
  List.countP_cons_of_neg (by rw [h]; nofun)

theorem closings_append : closings (es ++ es') = closings es + closings es' :=
  List.countP_append

theorem welcomes_append : welcomes (es ++ es') = welcomes es + welcomes es' :=
  List.countP_append

end

/-! ## What sessions say -/

/-- A client is gone. -/
def Notice.isParting : Notice → Bool
  | .clientDisconnected _ => true
  | _ => false

section
variable {id : SessionId} {es : Transcript} {b : Bool}

theorem onBehalf_acceptsNobody : ∀ e ∈ es.map (SessionEvent.onBehalf id), e.isAccept = false :=
  List.forall_mem_map.2 fun _ _ => rfl

theorem welcomes_onBehalf : welcomes (es.map (SessionEvent.onBehalf id)) = 0 :=
  List.countP_eq_zero.2 (List.forall_mem_map.2 fun _ _ => Bool.false_ne_true)

theorem closings_onBehalf :
    closings (es.map (SessionEvent.onBehalf id)) = es.notices.countP Notice.isParting := by
  induction es with
  | nil => rfl
  | cons e es ih =>
    have hone : closings [SessionEvent.onBehalf id e] =
        (Transcript.notices [e]).countP Notice.isParting := by
      obtain ⟨c, r⟩ := e
      cases c with
      | notify notice => cases notice <;> rfl
      | _ => rfl
    have hnotices : Transcript.notices ([e] ++ es) = Transcript.notices [e] ++ Transcript.notices es :=
      Transcript.notices_append
    rw [← List.singleton_append, hnotices, List.map_append, closings_append, List.countP_append, ih]
    exact congrArg (· + _) hone

end

namespace Session

variable {s s' : Session} {es : Transcript}

theorem countP_announced : s.announced.countP Notice.isParting = 0 :=
  List.countP_eq_zero.2 (List.forall_mem_map.2 fun _ _ => Bool.false_ne_true)

theorem countP_revoked : s.revoked.countP Notice.isParting = 0 :=
  List.countP_eq_zero.2 (List.forall_mem_map.2 fun _ _ => Bool.false_ne_true)

/-- No client is gone while its session handles an event. -/
theorem handle_partings {ctx : Context} {role : Role} {r : Readiness} {goes : Bool} {w w' : Work}
    (hs : w.session.Shaped) (hr : w.session.Represented)
    (h : Run (Session.handle ctx role r w) es (goes, w')) :
    es.notices.countP Notice.isParting = 0 := by
  have hsame {es : Transcript} (h : w.session.announced ++ es.notices = w'.session.announced) :
      es.notices.countP Notice.isParting = 0 := by
    have hcount := congrArg (List.countP Notice.isParting) h
    rw [List.countP_append, countP_announced, countP_announced, Nat.zero_add] at hcount
    exact hcount
  cases goes with
  | true => exact hsame (Handler.onEvent_announces hs hr _ _ _ (handle_goes h))
  | false =>
    obtain ⟨es₁, es₂, e, rfl, hevent, hlogs⟩ := handle_fails h
    rw [Transcript.notices_behind rfl (discreet_logEnd _ _ hlogs)]
    rcases Handler.onEvent_announces hs hr _ _ _ hevent with hturn | hturn
    · exact hsame hturn
    · rw [show es₁.notices = [] from hturn.discreet]
      rfl

/-- A session that goes on is as it should be behind an event. -/
theorem handle_represented {ctx : Context} {role : Role} {r : Readiness} {w w' : Work}
    (hs : w.session.Shaped) (hr : w.session.Represented)
    (h : Run (Session.handle ctx role r w) es (true, w')) :
    w'.session.Shaped ∧ w'.session.Represented := by
  have hs' := (turn_steps hs h).1.shaped rfl hs
  exact ⟨hs', (turn_goes hs hr h).represented rfl hs hr hs'⟩

theorem close_partings (h : Run s.close es ()) : es.notices.countP Notice.isParting = 1 := by
  rw [close_notices h, List.countP_append, countP_revoked]
  rfl

end Session

/-! ## The sessions of a server -/

namespace Sessions

variable {ss : Sessions} {id : SessionId} {s : Session}

theorem map_replace : (ss.replace id s).map Prod.fst = ss.map Prod.fst := by
  rw [replace, List.map_map]
  refine List.map_congr_left fun entry _ => ?_
  rw [Function.comp_apply]
  split
  · next h => exact (eq_of_beq h).symm
  · rfl

theorem mem_of_find? (h : ss.find? id = some s) : (id, s) ∈ ss := by
  obtain ⟨front, rest, rfl, -⟩ := List.lookup_eq_some_iff.1 h
  exact List.mem_append_right _ List.mem_cons_self

theorem length_remove (hd : (ss.map Prod.fst).Nodup) (hl : (ss.find? id).isSome = true) :
    (ss.remove id).length + 1 = ss.length := by
  have hone : ss.countP (·.1 == id) = 1 := by
    obtain ⟨entry, hm, heq⟩ := List.lookup_isSome_iff.1 hl
    have hmem : id ∈ ss.map Prod.fst := List.mem_map.2 ⟨entry, hm, (eq_of_beq heq).symm⟩
    have hcount := List.count_eq_one_of_mem hd hmem
    rwa [List.count, List.countP_map] at hcount
  have hsplit := List.length_eq_countP_add_countP (fun e : SessionId × Session => e.1 == id) (l := ss)
  rw [hsplit, hone, remove, ← List.countP_eq_length_filter, Nat.add_comm]
  refine congrArg (1 + ·) (List.countP_congr fun entry _ => ?_)
  simp

end Sessions

namespace Server

/-- Every session has an id of its own that was given away, and is as it should be between two turns. -/
structure Orderly (server : Server) : Prop where
  numbered : server.Numbered
  distinct : (server.sessions.map Prod.fst).Nodup
  represented : ∀ entry ∈ server.sessions, entry.2.Shaped ∧ entry.2.Represented

/-- The calls `es` lead from an orderly server to another, which has written down what they say. -/
structure Tallies (server : Server) (es : List ServerEvent) (server' : Server) : Prop where
  orderly : server'.Orderly
  stalled : server'.acceptStalled = stalledAfter server.acceptStalled es
  balance : server'.sessions.length + closings es = server.sessions.length + welcomes es

variable {server server₁ server₂ : Server} {es es' : List ServerEvent}

theorem Orderly.tallies_log (ho : server.Orderly) {id : Option SessionId} {line : LogLine} :
    server.Tallies [⟨.log id line, ()⟩] server :=
  ⟨ho, rfl, rfl⟩

theorem Tallies.trans (h : server.Tallies es server₁) (h' : server₁.Tallies es' server₂) :
    server.Tallies (es ++ es') server₂ where
  orderly := h'.orderly
  stalled := by rw [stalledAfter_append, ← h.stalled, h'.stalled]
  balance := by
    have hb := h.balance
    have hb' := h'.balance
    rw [closings_append, welcomes_append]
    omega

end Server

namespace Serving

variable {turns n : Nat} {server server' : Server} {es : List ServerEvent} {batch : List ReadyEvent}

/-! ## Handling and closing -/

theorem Handles.tallies {key : Key} {r : Readiness} {goesOn : Bool} (ho : server.Orderly)
    (h : Handles turns key r server es goesOn server') : server.Tallies es server' := by
  have hnumbered := h.follows.1.numbered ho.numbered
  cases h with
  | missed => exact ⟨ho, rfl, rfl⟩
  | goesOn hfind hhandle =>
    obtain ⟨hs, hr⟩ := ho.represented _ (Sessions.mem_of_find? hfind)
    refine ⟨⟨hnumbered, ?_, fun entry hm => ?_⟩, ?_, ?_⟩
    · rw [Sessions.map_replace]
      exact ho.distinct
    · obtain ⟨old, hold, rfl⟩ := List.mem_map.1 hm
      split
      · exact Session.handle_represented hs hr hhandle
      · exact ho.represented old hold
    · exact (stalledAfter_of_acceptsNobody onBehalf_acceptsNobody).symm
    · rw [closings_onBehalf, Session.handle_partings hs hr hhandle, welcomes_onBehalf]
      exact List.length_map _
  | @ends s es es' w note hfind hhandle hclose hnote =>
    obtain ⟨hs, hr⟩ := ho.represented _ (Sessions.mem_of_find? hfind)
    have hends : server.Tallies ((es ++ es').map (SessionEvent.onBehalf key.session))
        { server with sessions := server.sessions.remove key.session, ids := w.ids } := by
      refine ⟨⟨hnumbered, ho.distinct.sublist (List.filter_sublist.map Prod.fst), fun entry hm => ?_⟩, ?_, ?_⟩
      · exact ho.represented entry (List.mem_filter.1 hm).1
      · exact (stalledAfter_of_acceptsNobody onBehalf_acceptsNobody).symm
      · rw [closings_onBehalf, Transcript.notices_append, List.countP_append,
          Session.handle_partings hs hr hhandle, Session.close_partings hclose, welcomes_onBehalf]
        exact Sessions.length_remove ho.distinct (by rw [hfind]; rfl)
    rcases hnote with rfl | ⟨line, rfl⟩
    · rwa [List.append_nil]
    · exact hends.trans hends.orderly.tallies_log

/-! ## Accepting -/

/-- Who waits is not left waiting for another reason. -/
theorem isExhaustion_eq_false {e : IoError}
    (h : e.isWouldBlock = true ∨ e.isInterrupted = true ∨ e.isTransientAccept = true) :
    e.isExhaustion = false := by
  cases e with
  | plain kind => cases kind <;> revert h <;> decide
  | system errno => cases errno <;> revert h <;> decide

/-- What is said when clients are accepted. -/
structure Accepts (server : Server) (es : List ServerEvent) (x : Except Failure Unit)
    (server' : Server) : Prop where
  tallies : server.Tallies es server'
  asks : AsksFirst es
  /-- When it fails, it is not asked again. -/
  fails : ∀ failure, x = .error failure → AsksLast es
  spares : closings es = 0

/-- A client gets a session, unless it cannot be set up. -/
theorem Welcomes.tallies {peer : Endpoint} (ho : server.Orderly)
    (h : Welcomes server.nextId peer { server with nextId := server.nextId + 1 } es server') :
    Server.Tallies { server with nextId := server.nextId + 1 } es server' ∧
      server'.acceptStalled = server.acceptStalled ∧ closings es = 0 := by
  have hnumbered := h.follows.numbered ho.numbered
  have hstalled {b : Bool} {es : Transcript} :
      stalledAfter b (es.map (SessionEvent.onBehalf server.nextId)) = b :=
    stalledAfter_of_acceptsNobody onBehalf_acceptsNobody
  have hclosings {es : Transcript} {r : Except IoError Session}
      (h : Run (Session.start server.settings peer) es r) :
      closings (es.map (SessionEvent.onBehalf server.nextId)) = 0 := by
    rw [closings_onBehalf, discreet_start _ _ h]
    rfl
  cases h with
  | refused hstart =>
    refine ⟨⟨⟨hnumbered, ho.distinct, ho.represented⟩, ?_, ?_⟩, rfl, ?_⟩
    · rw [stalledAfter_append, hstalled]
      rfl
    · rw [closings_append, hclosings hstart, welcomes_append, welcomes_onBehalf]
      rfl
    · rw [closings_append, hclosings hstart]
      rfl
  | admitted hstart =>
    obtain ⟨⟨localAddress, rfl⟩, -⟩ := start_cases hstart
    refine ⟨⟨⟨hnumbered, ?_, ?_⟩, ?_, ?_⟩, rfl, ?_⟩
    · show ((server.sessions ++ [(server.nextId, _)]).map Prod.fst).Nodup
      rw [List.map_append]
      refine List.nodup_append.2 ⟨ho.distinct, List.nodup_singleton _, fun id hid id' hid' heq => ?_⟩
      obtain ⟨entry, hm, rfl⟩ := List.mem_map.1 hid
      have hlt := ho.numbered entry.1 (Server.live_iff_exists.2 ⟨entry, hm, rfl⟩)
      rw [heq, List.mem_singleton.1 hid'] at hlt
      exact Nat.lt_irrefl _ hlt
    · intro entry hm
      rcases List.mem_append.1 hm with hm | hm
      · exact ho.represented entry hm
      · rw [List.mem_singleton.1 hm]
        exact ⟨Session.fresh_shaped, Session.fresh_represented⟩
    · rw [stalledAfter_append, hstalled]
      rfl
    · rw [closings_append, hclosings hstart, welcomes_append, welcomes_onBehalf]
      exact List.length_append
    · rw [closings_append, hclosings hstart]
      rfl

theorem Accepting.accepts {x : Except Failure Unit} (h : Accepting server es x server') (ho : server.Orderly)
    (hs : server.acceptStalled = false) : Accepts server es x server' := by
  -- Unless descriptors have run out, the server stays as it was.
  have hasked {server : Server} {e : IoError} (ho : server.Orderly) (hs : server.acceptStalled = false)
      (he : e.isExhaustion = false) : server.Tallies [⟨.accept server.nextId, .error e⟩] server :=
    ⟨ho, hs.trans he.symm, rfl⟩
  induction h with
  | nobody he => exact ⟨hasked ho hs (isExhaustion_eq_false (.inl he)), ⟨_, _, rfl, rfl⟩, nofun, rfl⟩
  | interrupted he _ ih =>
    have hrest := ih ho hs
    exact ⟨(hasked ho hs (isExhaustion_eq_false (.inr (.inl he)))).trans hrest.tallies, ⟨_, _, rfl, rfl⟩,
      fun failure hx => (hrest.fails failure hx).behind [_], (closings_cons rfl).trans hrest.spares⟩
  | gone he _ ih =>
    have hrest := ih ho hs
    exact ⟨(hasked ho hs (isExhaustion_eq_false (.inr (.inr he)))).trans
      (ho.tallies_log.trans hrest.tallies), ⟨_, _, rfl, rfl⟩,
      fun failure hx => (hrest.fails failure hx).behind [_, _],
      (closings_cons rfl).trans ((closings_cons rfl).trans hrest.spares)⟩
  | @exhausted server e line he =>
    have hfull : server.Tallies [⟨.accept server.nextId, .error e⟩] { server with acceptStalled := true } :=
      ⟨⟨ho.numbered, ho.distinct, ho.represented⟩, he.symm, rfl⟩
    exact ⟨hfull.trans hfull.orderly.tallies_log, ⟨_, _, rfl, rfl⟩, nofun, rfl⟩
  | broken he => exact ⟨hasked ho hs he, ⟨_, _, rfl, rfl⟩, fun _ _ => ⟨[], _, rfl, rfl⟩, rfl⟩
  | @welcomed server server₁ _ es _ _ peer hw _ ih =>
    obtain ⟨ht, hs₁, hspares⟩ := hw.tallies ho
    have hrest := ih ht.orderly (hs₁.trans hs)
    have hgiven : server.Tallies [⟨.accept server.nextId, .ok peer⟩]
        { server with nextId := server.nextId + 1 } :=
      ⟨⟨fun id hl => Nat.lt_succ_of_lt (ho.numbered id hl), ho.distinct, ho.represented⟩, hs, rfl⟩
    refine ⟨hgiven.trans (ht.trans hrest.tallies), ⟨_, _, rfl, rfl⟩, fun failure hx =>
      ((hrest.fails failure hx).behind es).behind [_], ?_⟩
    rw [List.cons_append, closings_cons rfl, closings_append, hspares, hrest.spares]

theorem accept_accepts {x : Except Failure Unit} (ho : server.Orderly)
    (h : Run ((accept turns).exec server) es (x, server')) : Accepts server es x server' := by
  have ho' : Server.Orderly { server with acceptStalled := false } :=
    ⟨ho.numbered, ho.distinct, ho.represented⟩
  obtain ⟨⟨horderly, hstalled, hbalance⟩, hasks, hfails, hspares⟩ :=
    (accept_accepting h).accepts ho' rfl
  exact ⟨⟨horderly, hstalled.trans hasks.stalledAfter_eq, hbalance⟩, hasks, hfails, hspares⟩

/-! ## Batches -/

/-- What is said while a batch is handled. Only the listener can make the server give up. -/
theorem handleFirst_tallies {x : Except Failure Unit} (ho : server.Orderly)
    (h : Run ((handleFirst turns n batch).exec server) es (x, server')) :
    server.Tallies es server' ∧ ∀ failure, x = .error failure → AsksLast es := by
  have hdone {server : Server} {es : List ServerEvent} (ho : server.Orderly)
      (h : Run (.done (.ok (), server)) es (x, server')) :
      server.Tallies es server' ∧ ∀ failure, x = .error failure → AsksLast es := by
    obtain ⟨rfl, heq⟩ := run_done_iff.1 h
    cases heq
    exact ⟨⟨ho, rfl, rfl⟩, nofun⟩
  induction n generalizing batch server es with
  | zero => exact hdone ho h
  | succ n ih =>
    cases batch with
    | nil => exact hdone ho h
    | cons event rest =>
      cases htarget : event.target with
      | waker | closed =>
        simp only [handleFirst, htarget] at h
        exact ih ho h
      | listener =>
        simp only [handleFirst, htarget] at h
        rw [exec_bind] at h
        obtain ⟨es₁, es₂, ⟨y, server₁⟩, rfl, h₁, h₂⟩ := run_bind_iff.1 h
        have haccepts := accept_accepts ho h₁
        cases y with
        | ok _ =>
          obtain ⟨ht, hfails⟩ := ih haccepts.tallies.orderly h₂
          exact ⟨haccepts.tallies.trans ht, fun failure hx => (hfails failure hx).behind es₁⟩
        | error failure =>
          obtain ⟨rfl, heq⟩ := run_done_iff.1 h₂
          cases heq
          rw [List.append_nil]
          exact ⟨haccepts.tallies, haccepts.fails⟩
      | socket key =>
        rw [handleFirst_socket htarget, exec_bind] at h
        obtain ⟨es₁, es₂, ⟨y, server₁⟩, rfl, h₁, h₂⟩ := run_bind_iff.1 h
        obtain ⟨goesOn, rfl, hhandles⟩ := handleOne_handles h₁
        have ht₁ := hhandles.tallies ho
        obtain ⟨ht₂, hfails⟩ := ih ht₁.orderly h₂
        exact ⟨ht₁.trans ht₂, fun failure hx => (hfails failure hx).behind es₁⟩

/-- A batch is handled in a pass over its events, behind which clients are accepted again if some were
    left waiting and fewer sessions are live than before. -/
theorem dispatch_cases {x : Except Failure Unit}
    (h : Run ((dispatch turns batch).exec server) es (x, server')) :
    ∃ pass again r between, es = pass ++ again ∧
      Run ((handleAll turns batch).exec server) pass (r, between) ∧
      if r = .ok () ∧ between.acceptStalled = true ∧
          between.sessions.length < server.sessions.length then
        Run ((accept turns).exec between) again (x, server')
      else again = [] ∧ x = r ∧ server' = between := by
  unfold dispatch at h
  rw [exec_bind, exec_get] at h
  simp only [Dialogue.bind] at h
  rw [exec_bind] at h
  obtain ⟨pass, again, ⟨r, between⟩, rfl, h₁, h₂⟩ := run_bind_iff.1 h
  refine ⟨pass, again, r, between, rfl, h₁, ?_⟩
  cases r with
  | error failure =>
    obtain ⟨rfl, heq⟩ := run_done_iff.1 h₂
    cases heq
    rw [if_neg (by simp)]
    exact ⟨rfl, rfl, rfl⟩
  | ok _ =>
    simp only [] at h₂
    rw [exec_bind, exec_get] at h₂
    simp only [Dialogue.bind] at h₂
    split at h₂
    · next hagain =>
      rw [if_pos (by simpa using hagain)]
      exact h₂
    · next hagain =>
      obtain ⟨rfl, heq⟩ := run_done_iff.1 h₂
      cases heq
      rw [if_neg (by simpa using hagain)]
      exact ⟨rfl, rfl, rfl⟩

theorem dispatch_tallies {x : Except Failure Unit} (ho : server.Orderly)
    (h : Run ((dispatch turns batch).exec server) es (x, server')) : server.Tallies es server' := by
  obtain ⟨pass, again, r, between, rfl, h₁, h₂⟩ := dispatch_cases h
  have ht := (handleFirst_tallies ho h₁).1
  split at h₂
  · exact ht.trans (accept_accepts ht.orderly h₂).tallies
  · obtain ⟨rfl, -, rfl⟩ := h₂
    rw [List.append_nil]
    exact ht

end Serving

theorem Server.Reached.orderly {server : Server} (h : server.Reached) : server.Orderly := by
  induction h with
  | bound h =>
    have hnumbered := (Server.Reached.bound h).numbered
    have hnone := Server.bind_sessions h
    exact ⟨hnumbered, by rw [hnone]; exact List.nodup_nil, by rw [hnone]; exact List.forall_mem_nil _⟩
  | dispatched _ h ih => exact (Serving.dispatch_tallies ih h).orderly

/-! ## Who waits -/

/-- **Clients that were left waiting are accepted behind a batch in which more sessions are closed than
    clients get one.**

    The calls of a batch are a pass over its events and what follows it. Suppose that clients are left
    waiting when a session is closed in the pass. The listener is asked again exactly if the pass
    itself asks it, for another of its events, or if more sessions are over than new in the pass. -/
theorem accepting_resumes {server server' : Server} (hs : server.Reached) {turns : Nat}
    {batch : List ReadyEvent} {es : List ServerEvent} {x : Except Failure Unit}
    (h : Run ((Serving.dispatch turns batch).exec server) es (x, server')) :
    server'.acceptStalled = stalledAfter server.acceptStalled es ∧
    ∃ pass again, es = pass ++ again ∧ closings again = 0 ∧
      (∃ r between, Run ((Serving.handleAll turns batch).exec server) pass (r, between)) ∧
      ∀ before closing after, pass = before ++ closing :: after → closing.isClosing = true →
        stalledAfter server.acceptStalled before = true →
        ((∃ e ∈ after ++ again, e.isAccept = true) ↔
          (∃ e ∈ after, e.isAccept = true) ∨ welcomes pass < closings pass) := by
  refine ⟨(Serving.dispatch_tallies hs.orderly h).stalled, ?_⟩
  obtain ⟨pass, again, r, between, rfl, h₁, h₂⟩ := Serving.dispatch_cases h
  obtain ⟨ht, hfails⟩ := Serving.handleFirst_tallies hs.orderly h₁
  refine ⟨pass, again, rfl, ?_, ⟨r, between, h₁⟩, ?_⟩
  · split at h₂
    · exact (Serving.accept_accepts ht.orderly h₂).spares
    · rw [h₂.1]
      rfl
  · rintro before closing after rfl hclosing hstalled
    by_cases hasked : ∃ e ∈ after, e.isAccept = true
    · obtain ⟨e, he, ha⟩ := hasked
      exact iff_of_true ⟨e, List.mem_append_left _ he, ha⟩ (.inl ⟨e, he, ha⟩)
    · -- Nothing is asked behind the closing, so clients are still left waiting behind the pass.
      have hnobody : ∀ e ∈ closing :: after, e.isAccept = false := by
        refine List.forall_mem_cons.2 ⟨?_, fun e he => by simpa using fun ha => hasked ⟨e, he, ha⟩⟩
        unfold ServerEvent.isAccept
        unfold ServerEvent.isClosing at hclosing
        split <;> simp_all
      have hbetween : between.acceptStalled = true := by
        rw [ht.stalled, stalledAfter_append, hstalled, stalledAfter_of_acceptsNobody hnobody]
      have hr : r = .ok () := by
        cases r with
        | ok _ => rfl
        | error failure =>
          obtain ⟨e, he, ha⟩ := (hfails failure rfl).of_append
          rw [hnobody e he] at ha
          nomatch ha
      have hbalance := ht.balance
      split at h₂
      · next hagain =>
        obtain ⟨e, rest, rfl, ha⟩ := (Serving.accept_accepts ht.orderly h₂).asks
        refine iff_of_true ⟨e, List.mem_append_right _ List.mem_cons_self, ha⟩ (.inr ?_)
        omega
      · next hagain =>
        rw [h₂.1, List.append_nil]
        refine iff_of_false hasked (not_or.2 ⟨hasked, fun hlt => hagain ⟨hr, hbetween, ?_⟩⟩)
        omega

/-! ## Clients at the listener -/

/-- A stranger, and another client for whom no descriptor is left at first. -/
def ServerScript.queue : ServerScript :=
  { stranger with
    arrivals := [.ok ⟨.v4 ⟨192, 0, 2, 1⟩, 4001⟩, .error (.system .mfile),
      .ok ⟨.v4 ⟨192, 0, 2, 2⟩, 4002⟩] }

/-- What `accepting_resumes` says when the stranger has left and nobody else came in his batch. -/
theorem queue_moves_up :
    ∃ server es x server', server.Reached ∧ server.acceptStalled = true ∧
      Run ((Serving.dispatch 8 [.fromClient 1]).exec server) es (x, server') ∧
      closings es = 1 ∧ welcomes es = 1 ∧ server'.acceptStalled = false ∧
      ∃ pass again, es = pass ++ again ∧ closings again = 0 ∧
        ∀ before closing after, pass = before ++ closing :: after → closing.isClosing = true →
          stalledAfter true before = true →
          ((∃ e ∈ after ++ again, e.isAccept = true) ↔
            (∃ e ∈ after, e.isAccept = true) ∨ welcomes pass < closings pass) := by
  obtain ⟨server, es, ⟨x, server'⟩, hreached, hrun, hp⟩ :=
    exists_reached_of_rehearse [.atListener] .queue (Serving.dispatch 8 [.fromClient 1]).exec
      (fun server es _ => server.acceptStalled && decide (closings es = 1) &&
        decide (welcomes es = 1) && !stalledAfter true es) (by decide +kernel)
  simp only [Bool.and_eq_true, decide_eq_true_eq, Bool.not_eq_true'] at hp
  obtain ⟨⟨⟨hstalled, hc⟩, hw⟩, hflag⟩ := hp
  obtain ⟨hafter, pass, again, hes, hagain, -, hiff⟩ := accepting_resumes hreached hrun
  rw [hstalled] at hafter hiff
  exact ⟨server, es, x, server', hreached, hstalled, hrun, hc, hw, hafter.trans hflag, pass, again,
    hes, hagain, hiff⟩

/-- A stranger, and two others in the batch in which he leaves: for the second of them no descriptor is
    left at first. -/
def ServerScript.crowd : ServerScript :=
  { stranger with
    arrivals := [.ok ⟨.v4 ⟨192, 0, 2, 1⟩, 4001⟩, .error (.plain .wouldBlock),
      .ok ⟨.v4 ⟨192, 0, 2, 2⟩, 4002⟩, .error (.system .mfile), .ok ⟨.v4 ⟨192, 0, 2, 3⟩, 4003⟩] }

/-- One client comes and one goes in a batch, and a third is left waiting. The listener is not asked again
    when the one has gone. -/
theorem newcomer_takes_the_place :
    ¬ ∀ (server server' : Server) (turns : Nat) (batch : List ReadyEvent) (es : List ServerEvent)
      (x : Except Failure Unit), server.Reached →
      Run ((Serving.dispatch turns batch).exec server) es (x, server') →
      ∀ before closing after, es = before ++ closing :: after → closing.isClosing = true →
        stalledAfter server.acceptStalled before = true → ∃ e ∈ after, e.isAccept = true := by
  intro hall
  obtain ⟨server, es, ⟨x, server'⟩, hreached, hrun, hp⟩ :=
    exists_reached_of_rehearse [.atListener] .crowd
      (Serving.dispatch 8 [.atListener, .fromClient 1]).exec
      (fun server es _ => es[12]?.any ServerEvent.isClosing &&
        stalledAfter server.acceptStalled (es.take 12) && !(es.drop 13).any ServerEvent.isAccept)
      (by decide +kernel)
  simp only [Bool.and_eq_true, Bool.not_eq_true'] at hp
  obtain ⟨⟨hclosing, hstalled⟩, hnobody⟩ := hp
  obtain ⟨closing, hat, hclosing⟩ := (Option.any_eq_true ..).1 hclosing
  obtain ⟨hlt, rfl⟩ := List.getElem?_eq_some_iff.1 hat
  have hsplit : es = es.take 12 ++ es[12] :: es.drop 13 := by
    rw [← List.drop_eq_getElem_cons hlt, List.take_append_drop]
  obtain ⟨e, he, ha⟩ := hall server server' 8 _ es x hreached hrun _ _ _ hsplit hclosing hstalled
  exact List.any_eq_false.1 hnobody e he ha

end SocksProxy
