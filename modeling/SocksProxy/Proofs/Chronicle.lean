/-
  What a server has done, told session by session.

  * `callsOf id`: the calls of one session among those of a server;
  * `Server.Course`: a server that was bound and has done some deeds, or has closed its sessions to stop.
    `Course.serve`: that is how servers get on;
  * `Server.Chronicle`: each live session has lived (`Life`) through the calls that were made on its behalf,
    and for each other id a session is over (`Ended`), or none came of it;
  * `Deed.chronicle` is the step, `Course.chronicle` what follows for every server.
-/
import SocksProxy.Proofs.Deeds

namespace SocksProxy

open Dialogue

/-! ## The calls of one session -/

/-- The call of a session, if it was made on behalf of the one with the id. -/
def ServerEvent.of? (id : SessionId) : ServerEvent → Option SessionEvent
  | ⟨.session id' c, r⟩ => if id' = id then some ⟨c, r⟩ else none
  | _ => none

/-- What was called on behalf of one session. -/
def callsOf (id : SessionId) (es : List ServerEvent) : Transcript :=
  es.filterMap (ServerEvent.of? id)

section
variable {id id' : SessionId} {es es' : List ServerEvent} {e : ServerEvent}

@[simp] theorem callsOf_append : callsOf id (es ++ es') = callsOf id es ++ callsOf id es' :=
  List.filterMap_append

/-- What is called on behalf of one session is of no matter to another. -/
theorem callsOf_onBehalf {es : Transcript} :
    callsOf id (es.map (SessionEvent.onBehalf id')) = if id' = id then es else [] := by
  induction es with
  | nil => simp [callsOf]
  | cons e es ih =>
    have hone : (e.onBehalf id').of? id = if id' = id then some e else none := rfl
    rw [callsOf] at ih ⊢
    rw [List.map_cons, List.filterMap_cons, hone, ih]
    by_cases heq : id' = id <;> simp [heq]

theorem ServerEvent.of?_of_isAside (h : e.isAside = true) : e.of? id = none := by
  obtain ⟨c, r⟩ := e
  cases c with
  | session id' c => cases h
  | _ => rfl

theorem callsOf_aside (h : e.isAside = true) : callsOf id [e] = [] := by
  simp [callsOf, ServerEvent.of?_of_isAside h]

theorem callsOf_quiet (h : ∀ e ∈ es, e.isQuiet = true) : callsOf id es = [] := by
  refine List.filterMap_eq_nil_iff.2 fun e he => ?_
  have hquiet := h e he
  obtain ⟨c, r⟩ := e
  cases c with
  | session id' c => cases hquiet
  | _ => rfl

theorem AllSetup.callsOf (h : AllSetup es) : SocksProxy.callsOf id es = [] := by
  refine List.filterMap_eq_nil_iff.2 fun e he => ?_
  have hsetup := h e he
  obtain ⟨c, r⟩ := e
  cases c with
  | session id' c => cases hsetup
  | _ => rfl

end

/-! ## The sessions -/

namespace Sessions

variable {ss : Sessions} {id id' : SessionId} {s s' : Session}

theorem mem_add : (id', s') ∈ ss.add id s ↔ (id', s') ∈ ss ∨ id' = id ∧ s' = s := by
  simp [add]

theorem mem_remove : (id', s) ∈ ss.remove id ↔ (id', s) ∈ ss ∧ id' ≠ id := by
  simp [remove]

theorem nodup_add (h : (ss.map Prod.fst).Nodup) (hnew : id ∉ ss.map Prod.fst) :
    ((ss.add id s).map Prod.fst).Nodup := by
  rw [add, List.map_append]
  refine List.nodup_append.2 ⟨h, List.nodup_singleton _, ?_⟩
  intro id' ha id'' hb heq
  have hid : id'' = id := List.mem_singleton.1 hb
  rw [heq, hid] at ha
  exact hnew ha

theorem mem_replace_of_ne (hne : id' ≠ id) : (id', s') ∈ ss.replace id s ↔ (id', s') ∈ ss := by
  rw [replace, List.mem_map]
  constructor
  · rintro ⟨entry, hm, heq⟩
    by_cases hid : entry.1 = id
    · rw [if_pos (by simpa using hid)] at heq
      exact absurd (Prod.mk.inj heq).1.symm hne
    · rw [if_neg (by simpa using hid)] at heq
      exact heq ▸ hm
  · intro hm
    exact ⟨(id', s'), hm, if_neg (by simpa using hne)⟩

theorem eq_of_mem_replace (h : (id, s') ∈ ss.replace id s) : s' = s := by
  obtain ⟨entry, -, heq⟩ := List.mem_map.1 h
  by_cases hid : entry.1 = id
  · rw [if_pos (by simpa using hid)] at heq
    exact (Prod.mk.inj heq).2.symm
  · rw [if_neg (by simpa using hid)] at heq
    exact absurd (congrArg Prod.fst heq) hid

end Sessions

namespace Server

variable {turns : Nat} {server server' : Server} {es es' : List ServerEvent} {id : SessionId}

theorem live_iff_mem : server.Live id ↔ id ∈ server.sessions.map Prod.fst := by
  rw [live_iff_exists, List.mem_map]

/-! ## Courses -/

/-- A server between two of its deeds, or when it has closed its sessions to stop. -/
inductive Course (turns : Nat) : List ServerEvent → Server → Prop where
  | bound {settings : Settings} {es : List ServerEvent} {server : Server} :
      Run (Server.bind settings) es (.ok server) → Course turns es server
  | deed {es es' : List ServerEvent} {server server' : Server} :
      Course turns es server → server.Deed turns es' server' → Course turns (es ++ es') server'
  | stopped {es es' : List ServerEvent} {server : Server} :
      Course turns es server → Run (closeAll server.sessions) es' () →
      Course turns (es ++ es') { server with sessions := [] }

theorem Course.act (h : Course turns es server) (h' : server.Act turns es' server') :
    Course turns (es ++ es') server' := by
  cases h' with
  | aside he => exact .deed h (.aside he)
  | notes => exact .deed h .notes
  | refuses hrun => exact .deed h (.refuses hrun)
  | @admits peer _ _ line hrun =>
    have hlogged (server : Server) (id : SessionId) : server.Deed turns [⟨.log (some id) line, ()⟩] server :=
      .aside rfl
    have htold (server : Server) (id : SessionId) :
        server.Deed turns [⟨.notify (.clientAccepted id peer), ()⟩] server := .aside rfl
    simpa only [List.append_assoc, List.cons_append, List.nil_append] using
      ((h.deed (.admits hrun)).deed (hlogged _ server.nextId)).deed (htold _ server.nextId)
  | handles hfind hrun => exact .deed h (.handles hfind hrun)
  | closes hfind hrun hclose => exact .deed h (.closes hfind hrun hclose)

theorem Course.acts (h : Course turns es server) (h' : server.Acts turns es' server') :
    Course turns (es ++ es') server' := by
  induction h' with
  | refl => rwa [List.append_nil]
  | step _ h' ih =>
    rw [← List.append_assoc]
    exact ih.act h'

/-- Behind its last batch a server closes its sessions, and then its listener. -/
theorem stop_parts {result x : Except Failure Unit} (h : Run (do
      closeAll server.sessions
      match ← ask .deregisterListener with
      | .error e => log .trace s!"Deregister listener failed: {e.text}"
      | .ok () => pure ()
      ask (.notify .stopped)
      log .info "SOCKS5 server stopped"
      return (result, { server with sessions := [] })) es (x, server')) :
    ∃ (es₁ es₂ : List ServerEvent) (line : LogLine), es = es₁ ++ es₂ ++ [⟨.notify .stopped, ()⟩, ⟨.log none line, ()⟩] ∧
      Run (closeAll server.sessions) es₁ () ∧ (∀ e ∈ es₂, e.isQuiet = true) ∧
      server' = { server with sessions := [] } := by
  obtain ⟨es₁, es', _, rfl, h₁, h'⟩ := run_monad_bind_iff.1 h
  obtain ⟨es₂, es₃, r, rfl, h₂, h₃⟩ := run_monad_bind_iff.1 h'
  have hquiet : ∀ e : ServerEvent, e ∈ es₂ → e.isQuiet = true := by
    rw [run_ask_server h₂]
    exact List.forall_mem_singleton.2 rfl
  have hlast {es : List ServerEvent} (h : Run (do
      ask (.notify .stopped)
      log .info "SOCKS5 server stopped"
      return (result, { server with sessions := [] }) : Dialogue ServerNet _) es (x, server')) :
      (∃ line, es = [⟨.notify .stopped, ()⟩, ⟨.log none line, ()⟩]) ∧
        server' = { server with sessions := [] } := by
    obtain ⟨es₁, es', _, rfl, h₁, h⟩ := run_monad_bind_iff.1 h
    obtain ⟨es₂, es', _, rfl, h₂, h⟩ := run_monad_bind_iff.1 h
    obtain ⟨rfl, heq⟩ := run_pure_iff.1 h
    cases heq
    rw [run_ask_server h₁, run_ask_server h₂]
    exact ⟨⟨_, rfl⟩, rfl⟩
  cases r with
  | ok _ =>
    obtain ⟨⟨line, rfl⟩, hserver⟩ := hlast h₃
    exact ⟨es₁, es₂, line, by simp, h₁, hquiet, hserver⟩
  | error e =>
    obtain ⟨es₄, es₅, _, rfl, h₄, h₅⟩ := run_monad_bind_iff.1 h₃
    obtain ⟨⟨line, rfl⟩, hserver⟩ := hlast h₅
    have hlogged : ∀ e : ServerEvent, e ∈ es₄ → e.isQuiet = true := by
      rw [run_ask_server h₄]
      exact List.forall_mem_singleton.2 rfl
    exact ⟨es₁, es₂ ++ es₄, line, by simp, h₁, List.forall_mem_append.2 ⟨hquiet, hlogged⟩, hserver⟩

/-- A server tells that it has started, acts until it is to stop or cannot go on, and stops. -/
theorem serve_parts {x : Except Failure Unit} (h : Run (server.serve turns) es (x, server')) :
    ∃ (first last : LogLine) (server₁ : Server) (es₁ es₂ es₃ : List ServerEvent),
      es = [⟨.log none first, ()⟩, ⟨.notify (.started server.localAddress), ()⟩] ++ es₁ ++ es₂ ++ es₃ ++
        [⟨.notify .stopped, ()⟩, ⟨.log none last, ()⟩] ∧
      server.Acts turns es₁ server₁ ∧ Run (closeAll server₁.sessions) es₂ () ∧
      (∀ e ∈ es₃, e.isQuiet = true) ∧ server' = { server₁ with sessions := [] } := by
  rw [Server.serve] at h
  obtain ⟨es₁, es', _, rfl, h₁, h'⟩ := run_monad_bind_iff.1 h
  obtain ⟨es₂, es', _, rfl, h₂, h'⟩ := run_monad_bind_iff.1 h'
  obtain ⟨es₃, es', ⟨result, server₁⟩, rfl, h₃, h'⟩ := run_monad_bind_iff.1 h'
  have hacts := Serving.loop_acts h₃
  obtain ⟨first, rfl⟩ : ∃ line : LogLine, es₁ = [⟨.log none line, ()⟩] := ⟨_, run_ask_server h₁⟩
  obtain rfl := run_ask_server h₂
  cases result with
  | ok _ =>
    obtain ⟨es₄, es₅, last, rfl, h₄, hquiet, hserver⟩ := stop_parts h'
    exact ⟨first, last, server₁, es₃, es₄, es₅, by simp, hacts, h₄, hquiet, hserver⟩
  | error failure =>
    obtain ⟨es₄, es', _, rfl, h₄, h'⟩ := run_monad_bind_iff.1 h'
    obtain ⟨es₅, es₆, last, rfl, h₅, hquiet, hserver⟩ := stop_parts h'
    obtain ⟨line, rfl⟩ : ∃ line : LogLine, es₄ = [⟨.log none line, ()⟩] := ⟨_, run_ask_server h₄⟩
    exact ⟨first, last, server₁, es₃ ++ [⟨.log none line, ()⟩], es₅, es₆, by simp, hacts.trans acts_log,
      h₅, hquiet, hserver⟩

/-- A server that serves and stops has taken such a course up to where its listener is closed. -/
theorem Course.serve (h : Course turns es server) {x : Except Failure Unit}
    (h' : Run (server.serve turns) es' (x, server')) :
    ∃ es₁ es₂, es' = es₁ ++ es₂ ∧ Course turns (es ++ es₁) server' ∧ ∀ id, callsOf id es₂ = [] := by
  obtain ⟨first, last, server₁, es₁, es₂, es₃, rfl, hacts, hclosed, hquiet, rfl⟩ := serve_parts h'
  have hlogged : server.Deed turns [⟨.log none first, ()⟩] server := .aside rfl
  have htold : server.Deed turns [⟨.notify (.started server.localAddress), ()⟩] server := .aside rfl
  have hcourse := (((h.deed hlogged).deed htold).acts hacts).stopped hclosed
  refine ⟨[⟨.log none first, ()⟩, ⟨.notify (.started server.localAddress), ()⟩] ++ es₁ ++ es₂,
    es₃ ++ [⟨.notify .stopped, ()⟩, ⟨.log none last, ()⟩], by simp, by simpa using hcourse, fun id => ?_⟩
  rw [callsOf_append, callsOf_quiet hquiet]
  rfl

/-! ## Chronicles -/

/-- What the calls of a server say of its sessions. -/
structure Chronicle (turns : Nat) (es : List ServerEvent) (server : Server) : Prop where
  positive : 0 < server.nextId
  numbered : ∀ id, server.Live id → 0 < id ∧ id < server.nextId
  distinct : (server.sessions.map Prod.fst).Nodup
  given : ∀ id, callsOf id es ≠ [] → 0 < id ∧ id < server.nextId
  live : ∀ id s, (id, s) ∈ server.sessions →
    ∃ h, Life (server.context turns) h s ∧ h.calls = callsOf id es
  /-- Where no session is live, nobody was accepted, the client could not get a session, or its session is
      over. -/
  gone : ∀ id, ¬ server.Live id → callsOf id es = [] ∨
    (∃ peer e, Run (Session.start server.settings peer) (callsOf id es) (.error e)) ∨
    ∃ h s, Ended (server.context turns) h s ∧ h.calls = callsOf id es

namespace Chronicle

/-- Nothing was done yet on behalf of the next session. -/
theorem fresh (h : Chronicle turns es server) : callsOf server.nextId es = [] := by
  by_contra hne
  exact Nat.lt_irrefl _ (h.given _ hne).2

theorem ne_nextId {s : Session} (h : Chronicle turns es server) (hm : (id, s) ∈ server.sessions) :
    server.nextId ≠ id :=
  Nat.ne_of_gt (h.numbered id (live_iff_mem.2 (List.mem_map_of_mem hm))).2

/-- Calls that no session makes do not matter. -/
theorem behind (h : Chronicle turns es server) (hnone : ∀ id, callsOf id es' = [])
    (hcontext : server'.context turns = server.context turns) (hsessions : server'.sessions = server.sessions)
    (hnext : server'.nextId = server.nextId) : Chronicle turns (es ++ es') server' := by
  have hcalls (id : SessionId) : callsOf id (es ++ es') = callsOf id es := by
    rw [callsOf_append, hnone, List.append_nil]
  have hsettings : server'.settings = server.settings := congrArg Context.settings hcontext
  have hlive (id : SessionId) : server'.Live id ↔ server.Live id := by
    rw [live_iff_mem, live_iff_mem, hsessions]
  exact {
    positive := by rw [hnext]; exact h.positive
    numbered := by
      intro id hid
      rw [hnext]
      exact h.numbered id ((hlive id).1 hid)
    distinct := by rw [hsessions]; exact h.distinct
    given := by
      intro id hid
      rw [hcalls] at hid
      rw [hnext]
      exact h.given id hid
    live := by
      intro id s hm
      rw [hsessions] at hm
      rw [hcontext, hcalls]
      exact h.live id s hm
    gone := by
      intro id hid
      rw [hlive] at hid
      rw [hcontext, hcalls, hsettings]
      exact h.gone id hid }

/-- What is done on behalf of one session, live or new, leaves all others as they are. -/
theorem turn (h : Chronicle turns es server) {es' : Transcript}
    (hcontext : server'.context turns = server.context turns)
    (hid : 0 < id ∧ id < server'.nextId) (hnext : server.nextId ≤ server'.nextId)
    (hdistinct : (server'.sessions.map Prod.fst).Nodup)
    (hothers : ∀ id' s, id' ≠ id → ((id', s) ∈ server'.sessions ↔ (id', s) ∈ server.sessions))
    (hlive : ∀ s, (id, s) ∈ server'.sessions →
      ∃ h, Life (server.context turns) h s ∧ h.calls = callsOf id es ++ es')
    (hover : ¬ server'.Live id → (∃ peer e, Run (Session.start server.settings peer) (callsOf id es ++ es')
        (.error e)) ∨ ∃ h s, Ended (server.context turns) h s ∧ h.calls = callsOf id es ++ es') :
    Chronicle turns (es ++ es'.map (SessionEvent.onBehalf id)) server' := by
  have hcalls : callsOf id (es ++ es'.map (SessionEvent.onBehalf id)) = callsOf id es ++ es' := by
    rw [callsOf_append, callsOf_onBehalf, if_pos rfl]
  have hcalls' (id' : SessionId) (hne : id' ≠ id) :
      callsOf id' (es ++ es'.map (SessionEvent.onBehalf id)) = callsOf id' es := by
    rw [callsOf_append, callsOf_onBehalf, if_neg hne.symm, List.append_nil]
  have hsettings : server'.settings = server.settings := congrArg Context.settings hcontext
  have hothers' (id' : SessionId) (hne : id' ≠ id) : server'.Live id' ↔ server.Live id' := by
    simp only [live_iff_exists, Prod.exists, exists_and_right, exists_eq_right, hothers id' _ hne]
  exact {
    positive := Nat.lt_trans hid.1 hid.2
    numbered := by
      intro id' hlive'
      by_cases heq : id' = id
      · exact heq ▸ hid
      · obtain ⟨hpos, hlt⟩ := h.numbered id' ((hothers' id' heq).1 hlive')
        exact ⟨hpos, Nat.lt_of_lt_of_le hlt hnext⟩
    distinct := hdistinct
    given := by
      intro id' hne
      by_cases heq : id' = id
      · exact heq ▸ hid
      · rw [hcalls' id' heq] at hne
        obtain ⟨hpos, hlt⟩ := h.given id' hne
        exact ⟨hpos, Nat.lt_of_lt_of_le hlt hnext⟩
    live := by
      intro id' s hm
      rw [hcontext]
      by_cases heq : id' = id
      · subst heq
        rw [hcalls]
        exact hlive s hm
      · rw [hcalls' id' heq]
        exact h.live id' s ((hothers id' s heq).1 hm)
    gone := by
      intro id' hdead
      rw [hcontext, hsettings]
      by_cases heq : id' = id
      · subst heq
        rw [hcalls]
        exact .inr (hover hdead)
      · rw [hcalls' id' heq]
        exact h.gone id' (fun hl => hdead ((hothers' id' heq).2 hl)) }

/-! ### What each deed adds -/

/-- The client that was accepted, with or without a session. -/
theorem accepted (h : Chronicle turns es server) (peer : Endpoint) :
    Chronicle turns (es ++ [⟨.accept server.nextId, (.ok peer : Except IoError Endpoint)⟩]) server :=
  h.behind (fun _ => rfl) rfl rfl rfl

theorem refused (h : Chronicle turns es server) {peer : Endpoint} {es' : Transcript} {e : IoError}
    (hrun : Run (Session.start server.settings peer) es' (.error e)) :
    Chronicle turns (es ++ es'.map (SessionEvent.onBehalf server.nextId))
      { server with nextId := server.nextId + 1 } := by
  refine h.turn rfl ⟨h.positive, Nat.lt_succ_self _⟩ (Nat.le_succ _) h.distinct (fun _ _ _ => Iff.rfl)
    ?_ ?_
  · intro s hm
    exact absurd rfl (h.ne_nextId hm)
  · intro _
    rw [h.fresh]
    exact .inl ⟨peer, e, hrun⟩

theorem admitted (h : Chronicle turns es server) {peer : Endpoint} {es' : Transcript} {s : Session}
    (hrun : Run (Session.start server.settings peer) es' (.ok s)) :
    Chronicle turns (es ++ es'.map (SessionEvent.onBehalf server.nextId))
      { server with
        nextId := server.nextId + 1
        sessions := server.sessions.add server.nextId s } := by
  have hnew : server.nextId ∉ server.sessions.map Prod.fst := by
    intro hm
    exact Nat.lt_irrefl _ (h.numbered _ (live_iff_mem.2 hm)).2
  refine h.turn rfl ⟨h.positive, Nat.lt_succ_self _⟩ (Nat.le_succ _)
    (Sessions.nodup_add h.distinct hnew) ?_ ?_ ?_
  · intro id' s' hne
    rw [Sessions.mem_add]
    simp [hne]
  · intro s' hm
    rcases Sessions.mem_add.1 hm with hm | ⟨-, rfl⟩
    · exact absurd rfl (h.ne_nextId hm)
    · rw [h.fresh]
      exact ⟨_, .start hrun, History.calls_turn⟩
  · intro hdead
    refine absurd (live_iff_exists.2 ?_) hdead
    exact ⟨(server.nextId, s), Sessions.mem_add.2 (.inr ⟨rfl, rfl⟩), rfl⟩

section
variable {s : Session} {role : Role} {r : Readiness} {es₁ es₂ : Transcript} {w : Work}

theorem handled (h : Chronicle turns es server) (hfind : server.sessions.find? id = some s)
    (hrun : Run (Session.handle (server.context turns) role r ⟨s, server.ids⟩) es₁ (true, w)) :
    Chronicle turns (es ++ es₁.map (SessionEvent.onBehalf id))
      { server with sessions := server.sessions.replace id w.session, ids := w.ids } := by
  have hm := Sessions.mem_of_find? hfind
  have hlive : server.Live id := live_iff_mem.2 (List.mem_map_of_mem hm)
  obtain ⟨past, hl, hpast⟩ := h.live id s hm
  refine h.turn rfl (h.numbered id hlive) (Nat.le_refl _) ?_
    (fun _ _ hne => Sessions.mem_replace_of_ne hne) ?_ ?_
  · rw [Sessions.map_replace]
    exact h.distinct
  · intro s' hm'
    obtain rfl := Sessions.eq_of_mem_replace hm'
    exact ⟨_, hl.turn hrun, by rw [History.calls_append, History.calls_event, History.calls_turn, hpast]⟩
  · intro hdead
    rw [live_iff_mem, Sessions.map_replace, ← live_iff_mem] at hdead
    exact absurd hlive hdead

theorem closed (h : Chronicle turns es server) (hfind : server.sessions.find? id = some s)
    (hrun : Run (Session.handle (server.context turns) role r ⟨s, server.ids⟩) es₁ (false, w))
    (hclose : Run w.session.close es₂ ()) :
    Chronicle turns (es ++ (es₁ ++ es₂).map (SessionEvent.onBehalf id))
      { server with sessions := server.sessions.remove id, ids := w.ids } := by
  have hm := Sessions.mem_of_find? hfind
  have hlive : server.Live id := live_iff_mem.2 (List.mem_map_of_mem hm)
  obtain ⟨past, hl, hpast⟩ := h.live id s hm
  refine h.turn rfl (h.numbered id hlive) (Nat.le_refl _) ?_ ?_ ?_ ?_
  · exact h.distinct.sublist (List.filter_sublist.map _)
  · intro id' s' hne
    rw [Sessions.mem_remove]
    simp [hne]
  · intro s' hm'
    exact absurd rfl (Sessions.mem_remove.1 hm').2
  · intro _
    exact .inr ⟨_, _, .failed hl hrun hclose,
      by rw [History.calls_append, History.calls_event, History.calls_turn, hpast]⟩

end

end Chronicle

theorem Deed.chronicle (h : Chronicle turns es server) (h' : server.Deed turns es' server') :
    Chronicle turns (es ++ es') server' := by
  cases h' with
  | aside he => exact h.behind (fun _ => callsOf_aside he) rfl rfl rfl
  | notes => exact h.behind (fun _ => rfl) rfl rfl rfl
  | refuses hrun =>
    rw [List.append_cons]
    exact (h.accepted _).refused hrun
  | admits hrun =>
    rw [List.append_cons]
    exact (h.accepted _).admitted hrun
  | handles hfind hrun => exact h.handled hfind hrun
  | closes hfind hrun hclose => exact h.closed hfind hrun hclose

/-! ## Whole courses -/

theorem closeAll_calls {ss : Sessions} (hd : (ss.map Prod.fst).Nodup) (h : Run (closeAll ss) es ()) :
    (∀ id s, (id, s) ∈ ss → Run s.close (callsOf id es) ()) ∧
      ∀ id, id ∉ ss.map Prod.fst → callsOf id es = [] := by
  induction ss generalizing es with
  | nil =>
    obtain ⟨rfl, -⟩ := run_pure_iff.1 h
    exact ⟨fun id s hm => absurd hm List.not_mem_nil, fun _ _ => rfl⟩
  | cons entry rest ih =>
    obtain ⟨id, s⟩ := entry
    obtain ⟨es₁, es₂, _, rfl, h₁, h₂⟩ := run_monad_bind_iff.1 h
    obtain ⟨es₃, h₃, rfl⟩ := run_via_session h₁
    obtain ⟨hnew, hrest⟩ := List.nodup_cons.1 hd
    obtain ⟨hclosed, hothers⟩ := ih hrest h₂
    constructor
    · intro id' s' hm
      rw [callsOf_append, callsOf_onBehalf]
      rcases List.mem_cons.1 hm with heq | hm
      · cases heq
        rw [if_pos rfl, hothers id hnew, List.append_nil]
        exact h₃
      · have hne : id ≠ id' := by
          intro heq
          exact hnew (List.mem_map.2 ⟨_, hm, heq.symm⟩)
        rw [if_neg hne]
        exact hclosed id' s' hm
    · intro id' hout
      obtain ⟨hne, hout⟩ := not_or.1 (mt List.mem_cons.2 hout)
      rw [callsOf_append, callsOf_onBehalf, if_neg (Ne.symm hne), hothers id' hout]
      rfl

/-- A server that stops. -/
theorem Chronicle.stopped (h : Chronicle turns es server) (h' : Run (closeAll server.sessions) es' ()) :
    Chronicle turns (es ++ es') { server with sessions := [] } := by
  obtain ⟨hclosed, hothers⟩ := closeAll_calls h.distinct h'
  have hnobody (id : SessionId) : ¬ Live { server with sessions := [] } id := by
    rw [live_iff_mem]
    exact List.not_mem_nil
  have hnone (id : SessionId) (hid : ¬ server.Live id) : callsOf id es' = [] :=
    hothers id (mt live_iff_mem.2 hid)
  exact {
    positive := h.positive
    numbered := fun id hl => absurd hl (hnobody id)
    distinct := List.nodup_nil
    given := by
      intro id hne
      by_cases hl : server.Live id
      · exact h.numbered id hl
      · rw [callsOf_append, hnone id hl, List.append_nil] at hne
        exact h.given id hne
    live := fun id s hm => absurd hm List.not_mem_nil
    gone := by
      intro id _
      by_cases hl : server.Live id
      · obtain ⟨⟨id, s⟩, hm, rfl⟩ := live_iff_exists.1 hl
        obtain ⟨past, hlife, hpast⟩ := h.live id s hm
        refine .inr (.inr ⟨_, s, .stopped hlife (hclosed id s hm), ?_⟩)
        rw [History.calls_append, History.calls_turn, hpast, callsOf_append]
      · rw [callsOf_append, hnone id hl, List.append_nil]
        exact h.gone id hl }

/-- **A server tells the whole story of its sessions.** Whatever it has done, what was called on behalf of a
    live session is what that session has lived through, and what was called on behalf of another is what the
    session has lived through to its end. -/
theorem Course.chronicle (h : Course turns es server) : Chronicle turns es server := by
  induction h with
  | @bound settings es server h =>
    obtain ⟨hsessions, hnext, es₁, es₂, rfl, hfront, hback⟩ := bind_parts h
    have hnone (id : SessionId) : callsOf id (es₁ ++ ([⟨.registerListener, (.ok () : Except IoError Unit)⟩,
        ⟨.openWaker, (.ok () : Except IoError Unit)⟩] ++ es₂)) = [] := by
      rw [callsOf_append, callsOf_append, hfront.callsOf, hback.callsOf]
      rfl
    have hnobody (id : SessionId) : ¬ server.Live id := by
      rw [live_iff_mem, hsessions]
      exact List.not_mem_nil
    exact {
      positive := by rw [hnext]; exact Nat.one_pos
      numbered := fun id hl => absurd hl (hnobody id)
      distinct := by rw [hsessions]; exact List.nodup_nil
      given := fun id hne => absurd (hnone id) hne
      live := by rw [hsessions]; exact fun id s hm => absurd hm List.not_mem_nil
      gone := fun id _ => .inl (hnone id) }
  | deed _ h' ih => exact h'.chronicle ih
  | stopped _ h' ih => exact ih.stopped h'

end Server

end SocksProxy
