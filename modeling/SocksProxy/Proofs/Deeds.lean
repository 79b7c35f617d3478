/-
  What a server does, one deed after the other.

  * `Server.Deed`: a call that is about no session, a client that is turned away or gets a session, an
    event that a session survives, or one behind which it is closed;
  * `Server.Act`: a deed together with what observers are told of it, and `Server.Acts` several of them, in
    order;
  * the `_acts` lemmas: every part of serving is made of acts. What each act keeps holds throughout.
-/
import SocksProxy.Proofs.Backlog

namespace SocksProxy

open Dialogue

/-! ## Deeds -/

/-- The call is about the server itself: nobody is accepted, and no session has a say. -/
def ServerEvent.isAside : ServerEvent → Bool
  | ⟨.accept _, .error _⟩ => true
  | ⟨.stopRequested, _⟩ | ⟨.poll, _⟩ | ⟨.log _ _, _⟩ | ⟨.notify _, _⟩ => true
  | _ => false

/-- No client comes by the call, no session makes it, and observers are told nothing. -/
def ServerEvent.isQuiet : ServerEvent → Bool
  | ⟨.accept _, .ok _⟩ | ⟨.notify _, _⟩ | ⟨.session _ _, _⟩ => false
  | _ => true

/-- The call tells observers something of the server. -/
def ServerCall.isNotice : ServerCall → Bool
  | notify _ => true
  | _ => false

namespace Server

/-- One thing that a server does. -/
inductive Deed (turns : Nat) (server : Server) : List ServerEvent → Server → Prop where
  | aside {e : ServerEvent} : e.isAside = true → Deed turns server [e] server
  /-- The server notes whether clients were left waiting. -/
  | notes {acceptStalled : Bool} : Deed turns server [] { server with acceptStalled }
  /-- A client cannot get a session. -/
  | refuses {peer : Endpoint} {es : Transcript} {e : IoError} :
      Run (Session.start server.settings peer) es (.error e) →
      Deed turns server (⟨.accept server.nextId, .ok peer⟩ :: es.map (SessionEvent.onBehalf server.nextId))
        { server with nextId := server.nextId + 1 }
  | admits {peer : Endpoint} {es : Transcript} {s : Session} :
      Run (Session.start server.settings peer) es (.ok s) →
      Deed turns server (⟨.accept server.nextId, .ok peer⟩ :: es.map (SessionEvent.onBehalf server.nextId))
        { server with
          nextId := server.nextId + 1
          sessions := server.sessions.add server.nextId s }
  | handles {id : SessionId} {s : Session} {role : Role} {r : Readiness} {es : Transcript} {w : Work} :
      server.sessions.find? id = some s →
      Run (Session.handle (server.context turns) role r ⟨s, server.ids⟩) es (true, w) →
      Deed turns server (es.map (SessionEvent.onBehalf id))
        { server with sessions := server.sessions.replace id w.session, ids := w.ids }
  /-- A handler ends its session, and the session is closed. -/
  | closes {id : SessionId} {s : Session} {role : Role} {r : Readiness} {es es' : Transcript} {w : Work} :
      server.sessions.find? id = some s →
      Run (Session.handle (server.context turns) role r ⟨s, server.ids⟩) es (false, w) →
      Run w.session.close es' () →
      Deed turns server ((es ++ es').map (SessionEvent.onBehalf id))
        { server with sessions := server.sessions.remove id, ids := w.ids }

/-- One thing that a server does, with what observers are told of it: they get to know of every client that
    gets a session. -/
inductive Act (turns : Nat) (server : Server) : List ServerEvent → Server → Prop where
  | aside {e : ServerEvent} : e.isAside = true → e.1.isNotice = false → Act turns server [e] server
  | notes {acceptStalled : Bool} : Act turns server [] { server with acceptStalled }
  | refuses {peer : Endpoint} {es : Transcript} {e : IoError} :
      Run (Session.start server.settings peer) es (.error e) →
      Act turns server (⟨.accept server.nextId, .ok peer⟩ :: es.map (SessionEvent.onBehalf server.nextId))
        { server with nextId := server.nextId + 1 }
  | admits {peer : Endpoint} {es : Transcript} {s : Session} {line : LogLine} :
      Run (Session.start server.settings peer) es (.ok s) →
      Act turns server (⟨.accept server.nextId, .ok peer⟩ :: es.map (SessionEvent.onBehalf server.nextId) ++
          [⟨.log (some server.nextId) line, ()⟩, ⟨.notify (.clientAccepted server.nextId peer), ()⟩])
        { server with
          nextId := server.nextId + 1
          sessions := server.sessions.add server.nextId s }
  | handles {id : SessionId} {s : Session} {role : Role} {r : Readiness} {es : Transcript} {w : Work} :
      server.sessions.find? id = some s →
      Run (Session.handle (server.context turns) role r ⟨s, server.ids⟩) es (true, w) →
      Act turns server (es.map (SessionEvent.onBehalf id))
        { server with sessions := server.sessions.replace id w.session, ids := w.ids }
  | closes {id : SessionId} {s : Session} {role : Role} {r : Readiness} {es es' : Transcript} {w : Work} :
      server.sessions.find? id = some s →
      Run (Session.handle (server.context turns) role r ⟨s, server.ids⟩) es (false, w) →
      Run w.session.close es' () →
      Act turns server ((es ++ es').map (SessionEvent.onBehalf id))
        { server with sessions := server.sessions.remove id, ids := w.ids }

/-- Several acts, one after the other. -/
inductive Acts (turns : Nat) (server : Server) : List ServerEvent → Server → Prop where
  | refl : Acts turns server [] server
  | step {es es' : List ServerEvent} {server₁ server₂ : Server} :
      Acts turns server es server₁ → server₁.Act turns es' server₂ →
      Acts turns server (es ++ es') server₂

variable {turns : Nat} {server server₁ server₂ : Server} {es es' : List ServerEvent}

theorem Act.acts (h : server.Act turns es server₁) : server.Acts turns es server₁ := by
  rw [← List.nil_append es]
  exact .step .refl h

theorem Acts.trans (h : server.Acts turns es server₁) (h' : server₁.Acts turns es' server₂) :
    server.Acts turns (es ++ es') server₂ := by
  induction h' with
  | refl => rwa [List.append_nil]
  | step _ h' ih =>
    rw [← List.append_assoc]
    exact .step ih h'

theorem acts_log {id : Option SessionId} {line : LogLine} :
    server.Acts turns [⟨.log id line, ()⟩] server :=
  Act.acts (.aside rfl rfl)

end Server

/-! ## The sessions -/

namespace Sessions

variable {ss : Sessions} {id id' : SessionId} {s s' : Session} {f : Sessions → Sessions}

/-- Nothing but the entry of one session is changed. -/
inductive EditAt (id : SessionId) : (Sessions → Sessions) → Prop where
  | keep : EditAt id fun ss => ss
  | replace (s : Session) : EditAt id fun ss => ss.replace id s
  | remove : EditAt id fun ss => ss.remove id

theorem EditAt.find?_ne (h : EditAt id f) (hne : id' ≠ id) : (f ss).find? id' = ss.find? id' := by
  cases h with
  | keep => rfl
  | replace s =>
    induction ss with
    | nil => rfl
    | cons entry rest ih =>
      obtain ⟨id'', s''⟩ := entry
      simp only [Sessions.replace, List.map_cons, beq_iff_eq] at ih ⊢
      split
      · next heq => rw [find?_cons, find?_cons, ih, if_neg hne, if_neg (heq ▸ hne)]
      · rw [find?_cons, find?_cons, ih]
  | remove =>
    induction ss with
    | nil => rfl
    | cons entry rest ih =>
      obtain ⟨id'', s''⟩ := entry
      simp only [Sessions.remove, List.filter_cons, bne_iff_ne, ne_eq, ite_not] at ih ⊢
      split
      · next heq => rw [ih, find?_cons, if_neg (heq ▸ hne)]
      · rw [find?_cons, find?_cons, ih]

end Sessions

/-! ## Handling and closing -/

namespace Serving

variable {turns n : Nat} {server server' : Server} {es : List ServerEvent} {batch : List ReadyEvent}

theorem Handles.acts {key : Key} {r : Readiness} {goesOn : Bool}
    (h : Handles turns key r server es goesOn server') : server.Acts turns es server' := by
  cases h with
  | missed => exact .refl
  | goesOn hfind hhandle => exact (Server.Act.handles hfind hhandle).acts
  | ends hfind hhandle hclose hnote =>
    have hends := (Server.Act.closes hfind hhandle hclose).acts
    rcases hnote with rfl | ⟨line, rfl⟩
    · rwa [List.append_nil]
    · exact hends.trans Server.acts_log

/-! ## Accepting -/

theorem Welcomes.acts {peer : Endpoint}
    (h : Welcomes server.nextId peer { server with nextId := server.nextId + 1 } es server') :
    server.Acts turns (⟨.accept server.nextId, .ok peer⟩ :: es) server' := by
  cases h with
  | refused hstart =>
    have hrefuses : server.Act turns _ _ := .refuses hstart
    exact hrefuses.acts.trans Server.acts_log
  | admitted hstart => exact Server.Act.acts (.admits hstart)

theorem Accepting.acts {x : Except Failure Unit} (h : Accepting server es x server') :
    server.Acts turns es server' := by
  have hasked {server : Server} {e : IoError} :
      server.Acts turns [⟨.accept server.nextId, .error e⟩] server := Server.Act.acts (.aside rfl rfl)
  induction h with
  | nobody | broken => exact hasked
  | interrupted _ _ ih => exact hasked.trans ih
  | gone _ _ ih => exact hasked.trans (Server.acts_log.trans ih)
  | exhausted => exact hasked.trans (Server.acts_log.trans (Server.Act.acts .notes))
  | welcomed hw _ ih => exact hw.acts.trans ih

theorem accept_acts {tries : Nat} {x : Except Failure Unit}
    (h : Run ((accept tries).exec server) es (x, server')) : server.Acts turns es server' :=
  (Server.Act.acts .notes).trans (accept_accepting h).acts

/-! ## Batches -/

theorem handleFirst_acts {x : Except Failure Unit}
    (h : Run ((handleFirst turns n batch).exec server) es (x, server')) :
    server.Acts turns es server' := by
  have hdone {server : Server} {es : List ServerEvent}
      (h : Run (.done (.ok (), server)) es (x, server')) : server.Acts turns es server' := by
    obtain ⟨rfl, heq⟩ := run_done_iff.1 h
    cases heq
    exact .refl
  induction n generalizing batch server es with
  | zero => exact hdone h
  | succ n ih =>
    cases batch with
    | nil => exact hdone h
    | cons event rest =>
      cases htarget : event.target with
      | waker | closed =>
        simp only [handleFirst, htarget] at h
        exact ih h
      | listener =>
        simp only [handleFirst, htarget] at h
        rw [exec_bind] at h
        obtain ⟨es₁, es₂, ⟨y, server₁⟩, rfl, h₁, h₂⟩ := run_bind_iff.1 h
        cases y with
        | ok _ => exact (accept_acts h₁).trans (ih h₂)
        | error failure =>
          obtain ⟨rfl, heq⟩ := run_done_iff.1 h₂
          cases heq
          rw [List.append_nil]
          exact accept_acts h₁
      | socket key =>
        rw [handleFirst_socket htarget, exec_bind] at h
        obtain ⟨es₁, es₂, ⟨y, server₁⟩, rfl, h₁, h₂⟩ := run_bind_iff.1 h
        obtain ⟨goesOn, rfl, hhandles⟩ := handleOne_handles h₁
        have hd : server.Acts turns es₁ _ := hhandles.acts
        exact hd.trans (ih h₂)

theorem dispatch_acts {x : Except Failure Unit}
    (h : Run ((dispatch turns batch).exec server) es (x, server')) : server.Acts turns es server' := by
  obtain ⟨pass, again, r, between, rfl, h₁, h₂⟩ := dispatch_cases h
  have hd := handleFirst_acts h₁
  split at h₂
  · exact hd.trans (accept_acts h₂)
  · obtain ⟨rfl, -, rfl⟩ := h₂
    rwa [List.append_nil]

/-! ## The loop -/

theorem loop_acts {polls : Nat} {x : Except Failure Unit}
    (h : Run ((loop turns polls).exec server) es (x, server')) : server.Acts turns es server' := by
  induction polls generalizing server es with
  | zero => cases h
  | succ polls ih =>
    rw [loop] at h
    obtain ⟨(stop : Bool), es₁, rfl, h₁⟩ :=
      run_ask_iff.1 (show Run (Dialogue.ask ServerCall.stopRequested _) es (x, server') from h)
    have hstop : server.Acts turns [⟨.stopRequested, stop⟩] server := Server.Act.acts (.aside rfl rfl)
    suffices hrest : server.Acts turns es₁ server' from hstop.trans hrest
    cases stop with
    | true =>
      obtain ⟨_, es₂, rfl, h₂⟩ := run_ask_iff.1 h₁
      obtain ⟨rfl, heq⟩ := run_done_iff.1 h₂
      cases heq
      exact Server.acts_log
    | false =>
      obtain ⟨(r : Except IoError (List (Token × PollFlags))), es₂, rfl, h₂⟩ :=
        run_ask_iff.1 (show Run (Dialogue.ask ServerCall.poll _) es₁ (x, server') from h₁)
      have hpoll : server.Acts turns [⟨.poll, r⟩] server := Server.Act.acts (.aside rfl rfl)
      suffices hrest : server.Acts turns es₂ server' from hpoll.trans hrest
      cases r with
      | error e =>
        change Run ((if e.isInterrupted then loop turns polls
          else throw ⟨some "Poll failed", e⟩ : Serving Unit).exec server) es₂ (x, server') at h₂
        split at h₂
        · exact ih h₂
        · obtain ⟨rfl, heq⟩ := run_done_iff.1 h₂
          cases heq
          exact .refl
      | ok events =>
        obtain ⟨batch, h₂⟩ : ∃ batch, Run ((dispatch turns batch >>= fun _ => loop turns polls).exec server)
            es₂ (x, server') := ⟨_, h₂⟩
        rw [exec_bind] at h₂
        obtain ⟨es₃, es₄, ⟨y, server₁⟩, rfl, h₃, h₄⟩ := run_bind_iff.1 h₂
        cases y with
        | ok _ => exact (dispatch_acts h₃).trans (ih h₄)
        | error failure =>
          obtain ⟨rfl, heq⟩ := run_done_iff.1 h₄
          cases heq
          rw [List.append_nil]
          exact dispatch_acts h₃

end Serving

end SocksProxy
