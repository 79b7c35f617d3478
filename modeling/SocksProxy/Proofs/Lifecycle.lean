/-
  Clients come and go, and whoever watches a server is told.

  * `arrivals` are the clients that a server has accepted, with the ids they were given, and `tidings` is what
    observers are told;
  * `storyOf id` is what has happened to one client from its coming on, and `Career` what has become of it:
    either its session could not be set up (`Dropped`), or it is under way (`Underway`), or it is over
    (`Served`);
  * `Server.Annals`: each client of a server has made such a career, and the one that the live sessions show.
    `Act.annals` is the step, and `Acts.annals` what follows for a server that acts;
  * `sessions_come_and_go` says it of every run of `Server.serve`.
-/
import SocksProxy.Proofs.Closing
import SocksProxy.Proofs.Registry

namespace SocksProxy

open Dialogue

/-! ## What is known of clients -/

/-- The client that comes by the call, and the id that it is given. -/
def ServerEvent.arrival? : ServerEvent → Option (SessionId × Endpoint)
  | ⟨.accept id, .ok peer⟩ => some (id, peer)
  | _ => none

/-- What observers are told: something of the server, or of one session. -/
inductive Tiding where
  | server (notice : ServerNotice)
  | session (id : SessionId) (notice : Notice)
  deriving DecidableEq, Repr

namespace Tiding

/-- The session that observers get to know something of. -/
def about? : Tiding → Option SessionId
  | server (.clientAccepted id _) | session id _ => some id
  | server (.started _) | server .stopped => none

end Tiding

/-- What observers are told by the call. -/
def ServerEvent.tiding? : ServerEvent → Option Tiding
  | ⟨.notify notice, _⟩ => some (.server notice)
  | ⟨.session id (.notify notice), _⟩ => some (.session id notice)
  | _ => none

/-- The client that the call is about: it comes, it has a say, or observers get to know of it. -/
def ServerEvent.about? : ServerEvent → Option SessionId
  | ⟨.accept id, .ok _⟩ => some id
  | ⟨.session id _, _⟩ => some id
  | ⟨.notify (.clientAccepted id _), _⟩ => some id
  | _ => none

/-- The clients that were accepted, in order. -/
def arrivals (es : List ServerEvent) : List (SessionId × Endpoint) :=
  es.filterMap ServerEvent.arrival?

/-- What observers are told, in order. -/
def tidings (es : List ServerEvent) : List Tiding :=
  es.filterMap ServerEvent.tiding?

/-- What has happened to one client, in order. -/
def storyOf (id : SessionId) (es : List ServerEvent) : List ServerEvent :=
  es.filter (·.about? = some id)

section
variable {id id' : SessionId} {peer : Endpoint} {es es' : List ServerEvent} {e : ServerEvent}

@[simp] theorem arrivals_append : arrivals (es ++ es') = arrivals es ++ arrivals es' :=
  List.filterMap_append

@[simp] theorem tidings_append : tidings (es ++ es') = tidings es ++ tidings es' :=
  List.filterMap_append

@[simp] theorem storyOf_append : storyOf id (es ++ es') = storyOf id es ++ storyOf id es' :=
  List.filter_append ..

/-- A call of a server that is not quiet comes from a client or is for observers. -/
theorem ServerEvent.parts_of_isQuiet (h : e.isQuiet = true) :
    e.about? = none ∧ e.arrival? = none ∧ e.tiding? = none := by
  obtain ⟨c, r⟩ := e
  cases c with
  | accept id =>
    cases (r : Except IoError Endpoint) with
    | ok peer => nomatch h
    | error e => exact ⟨rfl, rfl, rfl⟩
  | notify | session => nomatch h
  | _ => exact ⟨rfl, rfl, rfl⟩

theorem arrivals_quiet (h : ∀ e ∈ es, e.isQuiet = true) : arrivals es = [] :=
  List.filterMap_eq_nil_iff.2 fun e he => (ServerEvent.parts_of_isQuiet (h e he)).2.1

theorem tidings_quiet (h : ∀ e ∈ es, e.isQuiet = true) : tidings es = [] :=
  List.filterMap_eq_nil_iff.2 fun e he => (ServerEvent.parts_of_isQuiet (h e he)).2.2

theorem storyOf_quiet (h : ∀ e ∈ es, e.isQuiet = true) : storyOf id es = [] :=
  List.filter_eq_nil_iff.2 fun e he => by simp [(ServerEvent.parts_of_isQuiet (h e he)).1]

theorem ServerEvent.isQuiet_of_isAside (h : e.isAside = true) (h' : e.1.isNotice = false) :
    e.isQuiet = true := by
  obtain ⟨c, r⟩ := e
  cases c with
  | accept id =>
    cases (r : Except IoError Endpoint) with
    | ok peer => nomatch h
    | error e => rfl
  | notify notice => nomatch h'
  | session id c => nomatch h
  | _ => rfl

/-! ### Calls of sessions -/

section
variable {es : Transcript}

theorem arrivals_onBehalf : arrivals (es.map (SessionEvent.onBehalf id)) = [] := by
  refine List.filterMap_eq_nil_iff.2 fun e he => ?_
  obtain ⟨e, -, rfl⟩ := List.mem_map.1 he
  rfl

theorem tidings_onBehalf :
    tidings (es.map (SessionEvent.onBehalf id)) = es.notices.map (.session id) := by
  rw [tidings, Transcript.notices, List.filterMap_map, List.map_filterMap]
  refine List.filterMap_congr fun e _ => ?_
  obtain ⟨c, r⟩ := e
  cases c <;> rfl

theorem about_onBehalf : ∀ e ∈ es.map (SessionEvent.onBehalf id), ServerEvent.about? e = some id := by
  intro e he
  obtain ⟨e, -, rfl⟩ := List.mem_map.1 he
  rfl

theorem told_onBehalf : ∀ t ∈ tidings (es.map (SessionEvent.onBehalf id)), ∃ id, t.about? = some id := by
  rw [tidings_onBehalf]
  intro t ht
  obtain ⟨notice, -, rfl⟩ := List.mem_map.1 ht
  exact ⟨id, rfl⟩

end

/-- What is about one client is of no matter to another. -/
theorem storyOf_of_about (h : ∀ e ∈ es, e.about? = some id') :
    storyOf id es = if id' = id then es else [] := by
  split
  · next heq => exact List.filter_eq_self.2 fun e he => by simp [h e he, heq]
  · next hne => exact List.filter_eq_nil_iff.2 fun e he => by simp [h e he, hne]

/-- Clients have come exactly by their own stories. -/
theorem arrivals_storyOf : arrivals (storyOf id es) = (arrivals es).filter (·.1 = id) := by
  rw [arrivals, storyOf, arrivals, List.filterMap_filter, List.filter_filterMap]
  refine List.filterMap_congr fun e _ => ?_
  obtain ⟨c, r⟩ := e
  cases c with
  | accept id' =>
    cases (r : Except IoError Endpoint) with
    | ok peer => simp [ServerEvent.about?, ServerEvent.arrival?, Option.filter]
    | error e => rfl
  | _ => simp [ServerEvent.arrival?]

end

/-! ## Careers of clients -/

/-- The client has come and has got a session, and observers are told. -/
def introduction (id : SessionId) (peer : Endpoint) (opening : Transcript) : List ServerEvent :=
  ⟨.accept id, .ok peer⟩ :: opening.map (SessionEvent.onBehalf id) ++
    [⟨.notify (.clientAccepted id peer), ()⟩]

/-- No session could be set up for the client, and observers are told nothing of it. -/
structure Dropped (settings : Settings) (id : SessionId) (peer : Endpoint) (story : List ServerEvent) :
    Prop where
  setup : ∃ (es : Transcript) (e : IoError), Run (Session.start settings peer) es (.error e) ∧
    story = ⟨.accept id, .ok peer⟩ :: es.map (SessionEvent.onBehalf id)
  untold : tidings story = []

/-- The client has got a session, which is over. -/
structure Served (settings : Settings) (id : SessionId) (peer : Endpoint) (story : List ServerEvent) :
    Prop where
  /-- It was introduced before its session did anything more. -/
  introduced : ∃ (opening : Transcript) (s : Session) (course : Transcript),
    Run (Session.start settings peer) opening (.ok s) ∧
      story = introduction id peer opening ++ course.map (SessionEvent.onBehalf id)
  /-- Observers are told that it has come, and at last that it has gone, each once. -/
  told : ∃ notices : List Notice, tidings story = .server (.clientAccepted id peer) ::
      notices.map (.session id) ++ [.session id (.clientDisconnected peer)] ∧
    ∀ peer', .clientDisconnected peer' ∉ notices
  /-- Its socket was closed once, and last of all that the session has had. -/
  seenOff : ∃ before after, callsOf id story = before ++ after ∧ Transcript.SeenOff peer before after

/-- The session of the client goes on. -/
structure Underway (ctx : Context) (peer : Endpoint) (opening course : Transcript) (s : Session) : Prop where
  started : ∃ s₀, Run (Session.start ctx.settings peer) opening (.ok s₀)
  lived : ∃ h, Life ctx h s ∧ h.calls = opening ++ course
  client : s.client.peer = peer

/-- What has become of a client: its story so far, and its session while that goes on. -/
inductive Career (ctx : Context) (id : SessionId) : List ServerEvent → Option Session → Prop where
  | unknown : Career ctx id [] none
  | dropped {peer : Endpoint} {story : List ServerEvent} :
      Dropped ctx.settings id peer story → Career ctx id story none
  | underway {peer : Endpoint} {opening course : Transcript} {s : Session} :
      Underway ctx peer opening course s →
      Career ctx id (introduction id peer opening ++ course.map (SessionEvent.onBehalf id)) (some s)
  | served {peer : Endpoint} {story : List ServerEvent} :
      Served ctx.settings id peer story → Career ctx id story none

section
variable {ctx : Context} {id : SessionId} {peer : Endpoint} {opening course es es' : Transcript}
  {s s₀ : Session} {role : Role} {r : Readiness} {ids : Dns.QueryIds} {w : Work}

theorem callsOf_introduction : callsOf id (introduction id peer opening) = opening := by
  have hfirst : callsOf id [⟨.accept id, (.ok peer : Except IoError Endpoint)⟩] = [] := rfl
  have hlast : callsOf id [⟨.notify (.clientAccepted id peer), ()⟩] = [] := rfl
  rw [introduction, ← List.singleton_append, callsOf_append, callsOf_append, callsOf_onBehalf, if_pos rfl,
    hfirst, hlast, List.nil_append, List.append_nil]

theorem tidings_introduction (h : Run (Session.start ctx.settings peer) opening (.ok s)) :
    tidings (introduction id peer opening) = [.server (.clientAccepted id peer)] := by
  have hfirst : tidings [⟨.accept id, (.ok peer : Except IoError Endpoint)⟩] = [] := rfl
  rw [introduction, ← List.singleton_append, tidings_append, tidings_append, tidings_onBehalf,
    discreet_start _ _ h, hfirst]
  rfl

theorem arrivals_introduction : arrivals (introduction id peer opening) = [(id, peer)] := by
  rw [introduction, arrivals_append, ← List.singleton_append, arrivals_append, arrivals_onBehalf]
  rfl

theorem dropped_of_start {settings : Settings} {e : IoError}
    (h : Run (Session.start settings peer) es (.error e)) :
    Dropped settings id peer (⟨.accept id, .ok peer⟩ :: es.map (SessionEvent.onBehalf id)) where
  setup := ⟨es, e, h, rfl⟩
  untold := by
    rw [← List.singleton_append, tidings_append, tidings_onBehalf, discreet_start _ _ h]
    rfl

theorem underway_of_start (h : Run (Session.start ctx.settings peer) opening (.ok s)) :
    Underway ctx peer opening [] s where
  started := ⟨s, h⟩
  lived := ⟨_, .start h, by rw [History.calls_turn, List.append_nil]⟩
  client := by
    obtain ⟨⟨localAddress, rfl⟩, -⟩ := start_cases h
    rfl

theorem Underway.turn (h : Underway ctx peer opening course s)
    (hrun : Run (Session.handle ctx role r ⟨s, ids⟩) es (true, w)) :
    Underway ctx peer opening (course ++ es) w.session := by
  obtain ⟨past, hl, hpast⟩ := h.lived
  exact {
    started := h.started
    lived := ⟨_, hl.turn hrun, by
      rw [History.calls_append, History.calls_event, History.calls_turn, hpast, List.append_assoc]⟩
    client := (Session.handle_clientPeer hl.shaped hrun).trans h.client }

/-- A session that is over was introduced, seen off and taken leave of. -/
theorem served_of_ended {h : History} (hstart : Run (Session.start ctx.settings peer) opening (.ok s₀))
    (he : Ended ctx h s) (hcalls : h.calls = opening ++ course) (hclient : s.client.peer = peer) :
    Served ctx.settings id peer
      (introduction id peer opening ++ course.map (SessionEvent.onBehalf id)) := by
  obtain ⟨before, after, heq, hseenOff⟩ := he.seenOff
  rw [hclient] at hseenOff
  rw [hcalls] at heq
  have hnotices : course.notices = before.notices ++ [.clientDisconnected peer] := by
    rw [← hseenOff.announced, ← Transcript.notices_append, ← heq]
    exact (Transcript.notices_ahead (discreet_start _ _ hstart) rfl).symm
  exact {
    introduced := ⟨opening, s₀, course, hstart, rfl⟩
    told := ⟨before.notices, by
      rw [tidings_append, tidings_introduction hstart, tidings_onBehalf, hnotices, List.map_append]
      rfl, hseenOff.unannounced⟩
    seenOff := ⟨before, after, by
      rw [callsOf_append, callsOf_introduction, callsOf_onBehalf, if_pos rfl, heq], hseenOff⟩ }

theorem Underway.failed (h : Underway ctx peer opening course s)
    (hrun : Run (Session.handle ctx role r ⟨s, ids⟩) es (false, w)) (hclose : Run w.session.close es' ()) :
    Served ctx.settings id peer
      (introduction id peer opening ++ (course ++ (es ++ es')).map (SessionEvent.onBehalf id)) := by
  obtain ⟨past, hl, hpast⟩ := h.lived
  obtain ⟨s₀, hstart⟩ := h.started
  refine served_of_ended hstart (.failed hl hrun hclose) ?_
    ((Session.handle_clientPeer hl.shaped hrun).trans h.client)
  rw [History.calls_append, History.calls_event, History.calls_turn, hpast, List.append_assoc]

theorem Underway.stopped (h : Underway ctx peer opening course s) (hclose : Run s.close es ()) :
    Served ctx.settings id peer
      (introduction id peer opening ++ (course ++ es).map (SessionEvent.onBehalf id)) := by
  obtain ⟨past, hl, hpast⟩ := h.lived
  obtain ⟨s₀, hstart⟩ := h.started
  refine served_of_ended hstart (.stopped hl hclose) ?_ h.client
  rw [History.calls_append, History.calls_turn, hpast, List.append_assoc]

end

namespace Career

variable {ctx : Context} {id : SessionId} {peer : Endpoint} {story : List ServerEvent} {s : Session}
  {s? : Option Session}

theorem of_some (h : Career ctx id story (some s)) : ∃ peer opening course,
    story = introduction id peer opening ++ course.map (SessionEvent.onBehalf id) ∧
      Underway ctx peer opening course s := by
  cases h with
  | underway h => exact ⟨_, _, _, rfl, h⟩

theorem of_none (h : Career ctx id story none) (hne : story ≠ []) :
    ∃ peer, Dropped ctx.settings id peer story ∨ Served ctx.settings id peer story := by
  cases h with
  | unknown => exact absurd rfl hne
  | dropped h => exact ⟨_, .inl h⟩
  | served h => exact ⟨_, .inr h⟩

end Career

section
variable {ctx : Context} {settings : Settings} {id : SessionId} {peer : Endpoint}
  {story : List ServerEvent} {s? : Option Session}

theorem Dropped.arrivals_eq (h : Dropped settings id peer story) : arrivals story = [(id, peer)] := by
  obtain ⟨es, e, -, rfl⟩ := h.setup
  rw [← List.singleton_append, arrivals_append, arrivals_onBehalf]
  rfl

theorem Served.arrivals_eq (h : Served settings id peer story) : arrivals story = [(id, peer)] := by
  obtain ⟨opening, s, course, -, rfl⟩ := h.introduced
  rw [arrivals_append, arrivals_introduction, arrivals_onBehalf, List.append_nil]

/-- A client of whom there is anything to tell has come, once. -/
theorem Career.came (h : Career ctx id story s?) :
    story = [] ∧ s? = none ∨ ∃ peer, arrivals story = [(id, peer)] := by
  cases h with
  | unknown => exact .inl ⟨rfl, rfl⟩
  | dropped h => exact .inr ⟨_, h.arrivals_eq⟩
  | underway h =>
    rw [arrivals_append, arrivals_introduction, arrivals_onBehalf, List.append_nil]
    exact .inr ⟨_, rfl⟩
  | served h => exact .inr ⟨_, h.arrivals_eq⟩

end

/-! ## Annals of a server -/

namespace Server

variable {turns : Nat} {first : SessionId} {server server' : Server} {es es' : List ServerEvent}

/-- What has happened to the clients of a server since it gave out the id `first`. -/
structure Annals (turns : Nat) (first : SessionId) (es : List ServerEvent) (server : Server) : Prop where
  careers : ∀ id, Career (server.context turns) id (storyOf id es) (server.sessions.find? id)
  distinct : (server.sessions.map Prod.fst).Nodup
  /-- Ids are given out in order. -/
  numbered : (arrivals es).map Prod.fst = List.range' first (server.nextId - first)
  first_le : first ≤ server.nextId
  /-- Observers are told of clients alone. -/
  told : ∀ t ∈ tidings es, ∃ id, t.about? = some id

theorem annals_of_idle (h : server.sessions = []) : Annals turns server.nextId [] server where
  careers id := by
    rw [h]
    exact .unknown
  distinct := by
    rw [h]
    exact List.nodup_nil
  numbered := by
    rw [Nat.sub_self]
    rfl
  first_le := Nat.le_refl _
  told := List.forall_mem_nil _

namespace Annals

/-- Of the next client nothing is known. -/
theorem fresh (h : Annals turns first es server) :
    storyOf server.nextId es = [] ∧ server.sessions.find? server.nextId = none := by
  rcases (h.careers server.nextId).came with hnone | ⟨peer, hcame⟩
  · exact hnone
  · rw [arrivals_storyOf] at hcame
    have hmem : (server.nextId, peer) ∈ arrivals es :=
      (List.mem_filter.1 (hcame ▸ List.mem_singleton_self _)).1
    have hlow := h.first_le
    have hid : server.nextId ∈ List.range' first (server.nextId - first) :=
      h.numbered ▸ List.mem_map_of_mem hmem
    rw [List.mem_range'_1] at hid
    omega

/-- What happens to one client leaves all others as they are. -/
theorem turn (h : Annals turns first es server) (id : SessionId)
    (hcontext : server'.context turns = server.context turns)
    (hothers : ∀ id', id' ≠ id →
      storyOf id' es' = [] ∧ server'.sessions.find? id' = server.sessions.find? id')
    (hcareer : Career (server.context turns) id (storyOf id es ++ storyOf id es') (server'.sessions.find? id))
    (hdistinct : (server'.sessions.map Prod.fst).Nodup)
    (hnumbered : (arrivals es').map Prod.fst = List.range' server.nextId (server'.nextId - server.nextId))
    (hnext : server.nextId ≤ server'.nextId) (htold : ∀ t ∈ tidings es', ∃ id, t.about? = some id) :
    Annals turns first (es ++ es') server' where
  careers id' := by
    rw [hcontext, storyOf_append]
    by_cases heq : id' = id
    · exact heq ▸ hcareer
    · rw [(hothers id' heq).1, (hothers id' heq).2, List.append_nil]
      exact h.careers id'
  distinct := hdistinct
  numbered := by
    have hlow := h.first_le
    rw [arrivals_append, List.map_append, h.numbered, hnumbered,
      ← Nat.sub_add_sub_cancel hnext hlow, Nat.add_comm, ← List.range'_append_1, Nat.add_sub_of_le hlow]
  first_le := Nat.le_trans h.first_le hnext
  told := by
    rw [tidings_append]
    exact List.forall_mem_append.2 ⟨h.told, htold⟩

/-- Calls that are quiet do not matter. -/
theorem quiet (h : Annals turns first es server) (hquiet : ∀ e ∈ es', e.isQuiet = true)
    (hcontext : server'.context turns = server.context turns) (hsessions : server'.sessions = server.sessions)
    (hnext : server'.nextId = server.nextId) : Annals turns first (es ++ es') server' := by
  refine h.turn server.nextId hcontext (fun id' _ => ⟨storyOf_quiet hquiet, by rw [hsessions]⟩) ?_ ?_ ?_
    (Nat.le_of_eq hnext.symm) ?_
  · rw [storyOf_quiet hquiet, List.append_nil, hsessions]
    exact h.careers _
  · rw [hsessions]
    exact h.distinct
  · rw [arrivals_quiet hquiet, hnext, Nat.sub_self]
    rfl
  · rw [tidings_quiet hquiet]
    exact List.forall_mem_nil _

/-! ### What each act adds -/

theorem refused (h : Annals turns first es server) {peer : Endpoint} {es' : Transcript} {e : IoError}
    (hrun : Run (Session.start server.settings peer) es' (.error e)) :
    Annals turns first
      (es ++ ⟨.accept server.nextId, .ok peer⟩ :: es'.map (SessionEvent.onBehalf server.nextId))
      { server with nextId := server.nextId + 1 } := by
  have hdropped : Dropped server.settings server.nextId peer _ := dropped_of_start hrun
  have habout : ∀ e ∈ (⟨.accept server.nextId, .ok peer⟩ :: es'.map (SessionEvent.onBehalf server.nextId) :
      List ServerEvent), e.about? = some server.nextId := List.forall_mem_cons.2 ⟨rfl, about_onBehalf⟩
  refine h.turn server.nextId rfl (fun id' hne => ⟨?_, rfl⟩) ?_ h.distinct ?_ (Nat.le_succ _) ?_
  · rw [storyOf_of_about habout, if_neg hne.symm]
  · rw [storyOf_of_about habout, if_pos rfl, h.fresh.1, List.nil_append, h.fresh.2]
    exact .dropped hdropped
  · rw [hdropped.arrivals_eq, Nat.add_sub_cancel_left]
    rfl
  · rw [hdropped.untold]
    exact List.forall_mem_nil _

theorem admitted (h : Annals turns first es server) {peer : Endpoint} {es' : Transcript} {s : Session}
    {line : LogLine} (hrun : Run (Session.start server.settings peer) es' (.ok s)) :
    Annals turns first
      (es ++ (⟨.accept server.nextId, .ok peer⟩ :: es'.map (SessionEvent.onBehalf server.nextId) ++
        [⟨.log (some server.nextId) line, ()⟩, ⟨.notify (.clientAccepted server.nextId peer), ()⟩]))
      { server with
        nextId := server.nextId + 1
        sessions := server.sessions.add server.nextId s } := by
  have hfront : ∀ e ∈ (⟨.accept server.nextId, .ok peer⟩ :: es'.map (SessionEvent.onBehalf server.nextId) :
      List ServerEvent), e.about? = some server.nextId := List.forall_mem_cons.2 ⟨rfl, about_onBehalf⟩
  have hstory (id : SessionId) : storyOf id (⟨.accept server.nextId, .ok peer⟩ ::
      es'.map (SessionEvent.onBehalf server.nextId) ++
        [⟨.log (some server.nextId) line, ()⟩, ⟨.notify (.clientAccepted server.nextId peer), ()⟩]) =
      if server.nextId = id then introduction server.nextId peer es' else [] := by
    have hlast : storyOf id [⟨.log (some server.nextId) line, ()⟩,
        ⟨.notify (.clientAccepted server.nextId peer), ()⟩] =
        if server.nextId = id then [⟨.notify (.clientAccepted server.nextId peer), ()⟩] else [] := by
      by_cases heq : server.nextId = id <;> simp [storyOf, ServerEvent.about?, heq]
    rw [storyOf_append, storyOf_of_about hfront, hlast]
    split <;> rfl
  have hnew : server.nextId ∉ server.sessions.map Prod.fst :=
    mt live_iff_mem.2 (not_live_iff.2 h.fresh.2)
  refine h.turn server.nextId rfl (fun id' hne => ⟨?_, ?_⟩) ?_ (Sessions.nodup_add h.distinct hnew) ?_
    (Nat.le_succ _) ?_
  · rw [hstory, if_neg hne.symm]
  · rw [Sessions.find?_add, if_neg hne, Option.or_none]
  · rw [hstory, if_pos rfl, h.fresh.1, List.nil_append, Sessions.find?_add, h.fresh.2, if_pos rfl]
    have hcareer : Career (server.context turns) server.nextId _ _ := .underway (underway_of_start hrun)
    rwa [List.map_nil, List.append_nil] at hcareer
  · rw [arrivals_append, ← List.singleton_append, arrivals_append, arrivals_onBehalf, Nat.add_sub_cancel_left]
    rfl
  · rw [tidings_append, ← List.singleton_append, tidings_append]
    refine List.forall_mem_append.2 ⟨List.forall_mem_append.2 ⟨List.forall_mem_nil _, told_onBehalf⟩, ?_⟩
    exact List.forall_mem_singleton.2 ⟨server.nextId, rfl⟩

section
variable {id : SessionId} {s : Session} {role : Role} {r : Readiness} {es₁ es₂ : Transcript} {w : Work}

/-- What a session does leaves all others as they are. -/
theorem visited (h : Annals turns first es server) {es' : Transcript} {f : Sessions → Sessions}
    {ss : Sessions} {s? : Option Session} {ids : Dns.QueryIds} (hf : Sessions.EditAt id f)
    (hss : ss = f server.sessions) (hfind : ss.find? id = s?)
    (hcareer : Career (server.context turns) id (storyOf id es ++ es'.map (SessionEvent.onBehalf id)) s?)
    (hdistinct : (ss.map Prod.fst).Nodup) :
    Annals turns first (es ++ es'.map (SessionEvent.onBehalf id)) { server with sessions := ss, ids } := by
  refine h.turn id rfl (fun id' hne => ⟨?_, ?_⟩) ?_ hdistinct ?_ (Nat.le_refl _) told_onBehalf
  · rw [storyOf_of_about about_onBehalf, if_neg hne.symm]
  · rw [hss]
    exact hf.find?_ne hne
  · rw [storyOf_of_about about_onBehalf, if_pos rfl, hfind]
    exact hcareer
  · rw [arrivals_onBehalf, Nat.sub_self]
    rfl

theorem handled (h : Annals turns first es server) (hfind : server.sessions.find? id = some s)
    (hrun : Run (Session.handle (server.context turns) role r ⟨s, server.ids⟩) es₁ (true, w)) :
    Annals turns first (es ++ es₁.map (SessionEvent.onBehalf id))
      { server with sessions := server.sessions.replace id w.session, ids := w.ids } := by
  have hcareer := h.careers id
  rw [hfind] at hcareer
  obtain ⟨peer, opening, course, hstory, hunderway⟩ := hcareer.of_some
  refine h.visited (.replace w.session) rfl (Sessions.find?_replace hfind) ?_ ?_
  · rw [hstory, List.append_assoc, ← List.map_append]
    exact .underway (hunderway.turn hrun)
  · rw [Sessions.map_replace]
    exact h.distinct

theorem closed (h : Annals turns first es server) (hfind : server.sessions.find? id = some s)
    (hrun : Run (Session.handle (server.context turns) role r ⟨s, server.ids⟩) es₁ (false, w))
    (hclose : Run w.session.close es₂ ()) :
    Annals turns first (es ++ (es₁ ++ es₂).map (SessionEvent.onBehalf id))
      { server with sessions := server.sessions.remove id, ids := w.ids } := by
  have hcareer := h.careers id
  rw [hfind] at hcareer
  obtain ⟨peer, opening, course, hstory, hunderway⟩ := hcareer.of_some
  refine h.visited .remove rfl Sessions.find?_remove ?_ (h.distinct.sublist (List.filter_sublist.map _))
  rw [hstory, List.append_assoc, ← List.map_append]
  exact .served (hunderway.failed hrun hclose)

end

end Annals

theorem Act.annals (h : Annals turns first es server) (h' : server.Act turns es' server') :
    Annals turns first (es ++ es') server' := by
  cases h' with
  | aside he hn =>
    exact h.quiet (List.forall_mem_singleton.2 (ServerEvent.isQuiet_of_isAside he hn)) rfl rfl rfl
  | notes => exact h.quiet (List.forall_mem_nil _) rfl rfl rfl
  | refuses hrun => exact h.refused hrun
  | admits hrun => exact h.admitted hrun
  | handles hfind hrun => exact h.handled hfind hrun
  | closes hfind hrun hclose => exact h.closed hfind hrun hclose

theorem Acts.context (h : server.Acts turns es server') : server'.context turns = server.context turns := by
  induction h with
  | refl => rfl
  | step _ h ih =>
    rw [← ih]
    cases h <;> rfl

theorem Acts.annals (h : Annals turns first es server) (h' : server.Acts turns es' server') :
    Annals turns first (es ++ es') server' := by
  induction h' with
  | refl => rwa [List.append_nil]
  | step _ h' ih =>
    rw [← List.append_assoc]
    exact h'.annals ih

/-! ## The end -/

/-- Sessions that are closed have nothing to do with clients that come. -/
theorem closeAll_parts {ss : Sessions} (h : Run (closeAll ss) es ()) : arrivals es = [] ∧
    (∀ id, storyOf id es = (callsOf id es).map (SessionEvent.onBehalf id)) ∧
      ∀ t ∈ tidings es, ∃ id, t.about? = some id := by
  induction ss generalizing es with
  | nil =>
    obtain ⟨rfl, -⟩ := run_pure_iff.1 h
    exact ⟨rfl, fun _ => rfl, List.forall_mem_nil _⟩
  | cons entry rest ih =>
    obtain ⟨es₁, es₂, _, rfl, h₁, h₂⟩ := run_monad_bind_iff.1 h
    obtain ⟨es₁, -, rfl⟩ := run_via_session h₁
    obtain ⟨harrivals, hstory, htold⟩ := ih h₂
    refine ⟨?_, fun id => ?_, ?_⟩
    · rw [arrivals_append, arrivals_onBehalf, harrivals]
      rfl
    · rw [storyOf_append, storyOf_of_about about_onBehalf, hstory, callsOf_append, callsOf_onBehalf,
        List.map_append]
      split
      · next heq => rw [heq]
      · rfl
    · rw [tidings_append]
      exact List.forall_mem_append.2 ⟨told_onBehalf, htold⟩

theorem Annals.stopped (h : Annals turns first es server) (h' : Run (closeAll server.sessions) es' ()) :
    Annals turns first (es ++ es') { server with sessions := [] } := by
  obtain ⟨hclosed, hothers⟩ := closeAll_calls h.distinct h'
  obtain ⟨harrivals, hstory, htold⟩ := closeAll_parts h'
  exact {
    careers := by
      intro id
      have hcareer := h.careers id
      rw [storyOf_append, hstory]
      cases hfind : server.sessions.find? id with
      | none =>
        rw [hothers id (mt live_iff_mem.2 (not_live_iff.2 hfind)), List.map_nil, List.append_nil]
        rwa [hfind] at hcareer
      | some s =>
        rw [hfind] at hcareer
        obtain ⟨peer, opening, course, heq, hunderway⟩ := hcareer.of_some
        rw [heq, List.append_assoc, ← List.map_append]
        exact .served (hunderway.stopped (hclosed id s (Sessions.mem_of_find? hfind)))
    distinct := List.nodup_nil
    numbered := by
      rw [arrivals_append, harrivals, List.append_nil]
      exact h.numbered
    first_le := h.first_le
    told := by
      rw [tidings_append]
      exact List.forall_mem_append.2 ⟨h.told, htold⟩ }

/-- A server that can be told to serve: it was bound, and may have served before. -/
inductive Ready : Server → Prop where
  | bound {settings : Settings} {es : List ServerEvent} {server : Server} :
      Run (Server.bind settings) es (.ok server) → Ready server
  | served {turns : Nat} {es : List ServerEvent} {server server' : Server} {x : Except Failure Unit} :
      Ready server → Run (server.serve turns) es (x, server') → Ready server'

theorem Ready.idle (h : server.Ready) : server.sessions = [] := by
  cases h with
  | bound hbind => exact (bind_parts hbind).1
  | served _ hserve =>
    obtain ⟨_, _, _, _, _, _, -, -, -, -, rfl⟩ := serve_parts hserve
    rfl

/-- A server that serves keeps annals, and tells that it has started and stopped. -/
theorem serve_annals (hidle : server.sessions = []) {x : Except Failure Unit}
    (h : Run (server.serve turns) es (x, server')) :
    ∃ es₁, Annals turns server.nextId es₁ server' ∧ server'.sessions = [] ∧
      server'.settings = server.settings ∧ arrivals es = arrivals es₁ ∧
      (∀ id, storyOf id es = storyOf id es₁) ∧
      tidings es = .server (.started server.localAddress) :: tidings es₁ ++ [.server .stopped] := by
  obtain ⟨first, last, server₁, es₁, es₂, es₃, rfl, hacts, hclosed, hquiet, rfl⟩ := serve_parts h
  have hannals := (hacts.annals (annals_of_idle hidle)).stopped hclosed
  rw [List.nil_append] at hannals
  refine ⟨es₁ ++ es₂, hannals, rfl, congrArg Context.settings hacts.context, ?_, fun id => ?_, ?_⟩
  · simp only [arrivals_append, arrivals_quiet hquiet, List.append_nil]
    exact List.append_nil _
  · have hfirst : storyOf id [⟨.log none first, ()⟩, ⟨.notify (.started server.localAddress), ()⟩] = [] := by
      simp [storyOf, ServerEvent.about?]
    have hlast : storyOf id [⟨.notify .stopped, ()⟩, ⟨.log none last, ()⟩] = [] := by
      simp [storyOf, ServerEvent.about?]
    simp only [storyOf_append, hfirst, hlast, storyOf_quiet hquiet, List.nil_append, List.append_nil]
  · have hfirst : tidings [⟨.log none first, ()⟩, ⟨.notify (.started server.localAddress), ()⟩] =
        [.server (.started server.localAddress)] := rfl
    have hlast : tidings [⟨.notify .stopped, ()⟩, ⟨.log none last, ()⟩] = [.server .stopped] := rfl
    simp only [tidings_append, hfirst, hlast, tidings_quiet hquiet, List.append_nil]
    simp only [List.append_assoc, List.cons_append, List.nil_append]

/-- **Clients come and go.** However a server serves, and however that ends:

    * the ids that it gives out ascend, and lie between its next id before and behind;
    * each client that it accepts is dropped, because no session could be set up for it, and observers are
      told nothing of it; or it is served: observers are told once that it has come, and then once that it has
      gone, and its socket is closed once, behind all others of its session;
    * nothing happens on behalf of an id that no client was given;
    * observers are told first that the server has started, at last that it has stopped, and in between of its
      clients;
    * in the end it has no sessions. -/
theorem sessions_come_and_go (hready : server.Ready) {x : Except Failure Unit}
    (h : Run (server.serve turns) es (x, server')) :
    ((arrivals es).map Prod.fst).Pairwise (· < ·) ∧ server.nextId ≤ server'.nextId ∧
      (∀ id ∈ (arrivals es).map Prod.fst, server.nextId ≤ id ∧ id < server'.nextId) ∧
      (∀ id peer, (id, peer) ∈ arrivals es → Dropped server.settings id peer (storyOf id es) ∨
        Served server.settings id peer (storyOf id es)) ∧
      (∀ id, id ∉ (arrivals es).map Prod.fst → storyOf id es = []) ∧
      (∃ between, tidings es = .server (.started server.localAddress) :: between ++ [.server .stopped] ∧
        ∀ t ∈ between, ∃ id, t.about? = some id) ∧
      server'.sessions = [] := by
  obtain ⟨es₁, hannals, hsessions, hsettings, harrivals, hstory, htidings⟩ := serve_annals hready.idle h
  rw [harrivals]
  refine ⟨?_, hannals.first_le, fun id hid => ?_, fun id peer hcame => ?_, fun id hid => ?_,
    ⟨tidings es₁, htidings, hannals.told⟩, hsessions⟩
  · rw [hannals.numbered]
    exact List.pairwise_lt_range'
  · rwa [hannals.numbered, List.mem_range'_1, Nat.add_sub_of_le hannals.first_le] at hid
  · rw [hstory, ← hsettings]
    have hone : (id, peer) ∈ arrivals (storyOf id es₁) := by
      rw [arrivals_storyOf]
      exact List.mem_filter.2 ⟨hcame, decide_eq_true rfl⟩
    have hcareer := hannals.careers id
    rw [hsessions] at hcareer
    obtain ⟨peer', hcareer⟩ := hcareer.of_none fun hnil => by
      rw [hnil] at hone
      cases hone
    -- The client that the story is of is the one that came.
    rw [hcareer.elim Dropped.arrivals_eq Served.arrivals_eq] at hone
    obtain rfl : peer = peer' := (Prod.mk.inj (List.mem_singleton.1 hone)).2
    exact hcareer
  · rw [hstory]
    rcases (hannals.careers id).came with ⟨hnil, -⟩ | ⟨peer, hcame⟩
    · exact hnil
    · rw [arrivals_storyOf] at hcame
      have hmem : (id, peer) ∈ arrivals es₁ := (List.mem_filter.1 (hcame ▸ List.mem_singleton_self _)).1
      exact absurd (List.mem_map_of_mem hmem) hid

end Server

/-! ## A server until its poller breaks -/

/-- Three clients come at once. No session can be set up for the second one; the first one speaks another
    protocol, and is heard. -/
def ServerScript.busy : ServerScript where
  arrivals := [.ok ⟨.v4 ⟨192, 0, 2, 9⟩, 4000⟩, .ok ⟨.v4 ⟨192, 0, 2, 7⟩, 4000⟩,
    .ok ⟨.v4 ⟨192, 0, 2, 5⟩, 4000⟩]
  polls := [[(Token.listener, { readable := true })], [(Key.token ⟨1, .client⟩, { readable := true })]]
  sockets
    | 2 => { instead := SessionCall.refused (.plain .other) }
    | _ => .between [[4, 1, 0]] []

/-- What `sessions_come_and_go` says of them: the first client is gone by the end of its batch, the second
    one was dropped, and the third one is there until the poller breaks. -/
theorem busy_server_comes_to_an_end :
    ∃ (server : Server) (es : List ServerEvent) (x : Except Failure Unit) (server' : Server),
      server.Ready ∧ Run (server.serve 8) es (x, server') ∧ x.isOk = false ∧
      arrivals es = [(1, ⟨.v4 ⟨192, 0, 2, 9⟩, 4000⟩), (2, ⟨.v4 ⟨192, 0, 2, 7⟩, 4000⟩),
        (3, ⟨.v4 ⟨192, 0, 2, 5⟩, 4000⟩)] ∧
      ((arrivals es).map Prod.fst).Pairwise (· < ·) ∧
      Served server.settings 1 ⟨.v4 ⟨192, 0, 2, 9⟩, 4000⟩ (storyOf 1 es) ∧
      Dropped server.settings 2 ⟨.v4 ⟨192, 0, 2, 7⟩, 4000⟩ (storyOf 2 es) ∧
      Served server.settings 3 ⟨.v4 ⟨192, 0, 2, 5⟩, 4000⟩ (storyOf 3 es) ∧
      (tidings es).head? = some (.server (.started server.localAddress)) ∧ server'.sessions = [] := by
  obtain ⟨_, server, es, ⟨x, server'⟩, hbind, hrun, hp⟩ := exists_bound_of_rehearse .busy (·.serve 8)
    (fun _ _ es x => !x.1.isOk && decide (arrivals es = [(1, ⟨.v4 ⟨192, 0, 2, 9⟩, 4000⟩),
        (2, ⟨.v4 ⟨192, 0, 2, 7⟩, 4000⟩), (3, ⟨.v4 ⟨192, 0, 2, 5⟩, 4000⟩)]) &&
      decide (tidings (storyOf 1 es) ≠ []) && decide (tidings (storyOf 2 es) = []) &&
      decide (tidings (storyOf 3 es) ≠ []))
    (by decide +kernel)
  simp only [Bool.and_eq_true, Bool.not_eq_true', decide_eq_true_eq] at hp
  obtain ⟨⟨⟨⟨hfails, hcame⟩, hfirst⟩, hsecond⟩, hthird⟩ := hp
  have hready : server.Ready := .bound hbind
  obtain ⟨hids, -, -, hcareers, -, ⟨between, htidings, -⟩, hsessions⟩ :=
    Server.sessions_come_and_go hready hrun
  refine ⟨server, es, x, server', hready, hrun, hfails, hcame, hids, ?_, ?_, ?_, ?_, hsessions⟩
  · exact (hcareers 1 _ (by rw [hcame]; simp)).resolve_left fun h => hfirst h.untold
  · refine (hcareers 2 _ (by rw [hcame]; simp)).resolve_right fun h => ?_
    obtain ⟨notices, htold, -⟩ := h.told
    rw [hsecond] at htold
    cases htold
  · exact (hcareers 3 _ (by rw [hcame]; simp)).resolve_left fun h => hthird h.untold
  · rw [htidings]
    rfl

end SocksProxy
