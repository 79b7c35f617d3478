/-
  Batches are handled as if nobody edited them.

  * `Serving.walk` is the reference: it never looks ahead and closes nothing in the batch, but handles
    an event of a socket exactly when its session is live at that moment;
  * `handleFirst_eq_walk`: what `invalidate` closes belongs to sessions that are over, whose ids are
    never given away again, so that both are the same dialogue;
  * `Walked` says what follows for the handlers that are run.
-/
import Mathlib.Data.List.Forall2
import SocksProxy.Proofs.Binding
import SocksProxy.Proofs.ServerRehearsal

namespace SocksProxy

open Dialogue

/-! ## The reference -/

/-- A handler that was run: the event it was run for, and whether its session goes on. -/
structure Handling where
  key : Key
  readiness : Readiness
  goesOn : Bool
  deriving DecidableEq, Repr

/-- The event that was handled. -/
def Handling.event (h : Handling) : ReadyEvent :=
  ⟨.socket h.key, h.readiness⟩

namespace Serving

/-- Handles an event of a socket, and closes the session if it does not go on. How many events of
    the session are still to come is only logged. -/
def handleOne (turns : Nat) (key : Key) (r : Readiness) (later : List ReadyEvent) :
    Serving Bool := do
  let goesOn ← process turns key r
  if goesOn then return true
  teardown key.session
  let stale := countOf key.session later
  if 0 < stale then logOf key.session .trace s!"Dropped {stale} stale events"
  return false

/-- Walks a batch in order and handles each event of a socket exactly when its session is live at that
    moment. Tells which handlers were run. -/
def walk (turns : Nat) : (batch : List ReadyEvent) → Server →
    Dialogue ServerNet (List Handling × Except Failure Unit × Server)
  | [], server => .done ([], .ok (), server)
  | event :: rest, server =>
    match event.target with
    | .waker | .closed => walk turns rest server
    | .listener =>
      ((accept turns).exec server).bind fun
        | (.ok (), server) => walk turns rest server
        | (.error failure, server) => .done ([], .error failure, server)
    | .socket key =>
      if server.Live key.session then
        ((handleOne turns key event.readiness rest).exec server).bind fun
          | (.ok goesOn, server) =>
            (walk turns rest server).bind fun (handled, r, server) =>
              .done (⟨key, event.readiness, goesOn⟩ :: handled, r, server)
          | (.error failure, server) => .done ([], .error failure, server)
      else walk turns rest server

/-- Dispatches a batch with the reference. When the batch has released descriptors that had run out,
    clients are accepted again. -/
def reference (turns : Nat) (batch : List ReadyEvent) (server : Server) :
    Dialogue ServerNet (List Handling × Except Failure Unit × Server) :=
  (walk turns batch server).bind fun
    | (handled, .ok (), after) =>
      if after.acceptStalled && after.sessions.length < server.sessions.length then
        ((accept turns).exec after).bind fun (r, server) => .done (handled, r, server)
      else .done (handled, .ok (), after)
    | (handled, .error failure, after) => .done (handled, .error failure, after)

end Serving

/-! ## Batches with closed entries -/

/-- The second batch is the first one with entries closed that belong to sessions that are over. -/
def Scrubbed (server : Server) (batch batch' : List ReadyEvent) : Prop :=
  batch.Forall₂ (fun e e' => e' = e ∨
    e' = .closed ∧ ∃ key, e.target = .socket key ∧ server.Dead key.session) batch'

namespace Scrubbed

variable {server server' : Server} {batch batch' : List ReadyEvent} {es : List ServerEvent}
  {id : SessionId}

theorem refl : Scrubbed server batch batch :=
  List.forall₂_same.2 fun _ _ => .inl rfl

theorem follows (h : Scrubbed server batch batch') (hf : server.Follows es server') :
    Scrubbed server' batch batch' :=
  h.imp fun _ _ he => he.imp_right fun ⟨heq, key, htarget, hdead⟩ =>
    ⟨heq, key, htarget, hf.dead hdead⟩

theorem invalidate (h : Scrubbed server batch batch') (hd : server.Dead id) :
    Scrubbed server batch (invalidate id batch') := by
  refine List.forall₂_map_right_iff.2 (h.imp fun e e' he => ?_)
  split
  · next hof =>
    refine .inr ⟨rfl, ?_⟩
    rcases he with rfl | ⟨rfl, hkey⟩
    · unfold Target.isOf at hof
      split at hof
      · next key htarget => exact ⟨key, htarget, (eq_of_beq hof).symm ▸ hd⟩
      · nomatch hof
    · exact hkey
  · exact he

/-- No entry of a live session is closed. -/
theorem countOf_eq (h : Scrubbed server batch batch') (hl : server.Live id) :
    countOf id batch' = countOf id batch := by
  induction h with
  | nil => rfl
  | cons he _ ih =>
    simp only [countOf, List.countP_cons] at ih ⊢
    rw [ih]
    rcases he with rfl | ⟨rfl, key, htarget, hdead⟩
    · rfl
    · have hne : key.session ≠ id := fun heq => hdead.2 (heq ▸ hl)
      simp [htarget, Target.isOf, ReadyEvent.closed, hne]

end Scrubbed

/-! ## The same dialogue -/

namespace Serving

variable {turns n : Nat} {server server' : Server} {batch batch' : List ReadyEvent}
  {es : List ServerEvent}

/-- What can come of an event of a session: there is no such session any more, or it goes on, or its handler
    ends it and it is closed. -/
inductive Handles (turns : Nat) (key : Key) (r : Readiness) (server : Server) :
    List ServerEvent → Bool → Server → Prop where
  | missed : ¬ server.Live key.session → Handles turns key r server [] true server
  | goesOn {s : Session} {es : Transcript} {w : Work} :
      server.sessions.find? key.session = some s →
      Run (Session.handle (server.context turns) key.role r ⟨s, server.ids⟩) es (true, w) →
      Handles turns key r server (es.map (SessionEvent.onBehalf key.session)) true
        { server with sessions := server.sessions.replace key.session w.session, ids := w.ids }
  | ends {s : Session} {es es' : Transcript} {w : Work} {note : List ServerEvent} :
      server.sessions.find? key.session = some s →
      Run (Session.handle (server.context turns) key.role r ⟨s, server.ids⟩) es (false, w) →
      Run w.session.close es' () → (note = [] ∨ ∃ line, note = [⟨.log (some key.session) line, ()⟩]) →
      Handles turns key r server ((es ++ es').map (SessionEvent.onBehalf key.session) ++ note) false
        { server with sessions := server.sessions.remove key.session, ids := w.ids }

theorem handleOne_handles {key : Key} {r : Readiness} {later : List ReadyEvent} {x : Except Failure Bool}
    (h : Run ((handleOne turns key r later).exec server) es (x, server')) :
    ∃ goesOn, x = .ok goesOn ∧ Handles turns key r server es goesOn server' := by
  rw [handleOne, exec_bind] at h
  cases hfind : server.sessions.find? key.session with
  | none =>
    have hdead : ¬ server.Live key.session := Server.not_live_iff.2 hfind
    rw [exec_process_dead hdead] at h
    obtain ⟨rfl, heq⟩ := run_done_iff.1 h
    cases heq
    exact ⟨true, rfl, .missed hdead⟩
  | some s =>
    rw [exec_process_live hfind, Dialogue.bind_assoc] at h
    obtain ⟨es₁, es₂, ⟨goesOn, w⟩, rfl, h₁, h₂⟩ := run_bind_iff.1 h
    obtain ⟨es₁, hhandle, rfl⟩ := run_via_session h₁
    cases goesOn with
    | true =>
      obtain ⟨rfl, heq⟩ := run_done_iff.1 h₂
      cases heq
      rw [List.append_nil]
      exact ⟨true, rfl, .goesOn hfind hhandle⟩
    | false =>
      simp only [Dialogue.bind, Bool.false_eq_true, if_false] at h₂
      rw [exec_bind, exec_teardown_live (Sessions.find?_replace hfind), Dialogue.bind_assoc] at h₂
      obtain ⟨es₃, es₄, _, rfl, h₃, h₄⟩ := run_bind_iff.1 h₂
      obtain ⟨es₃, hclose, rfl⟩ := run_via_session h₃
      rw [← List.append_assoc, ← List.map_append]
      simp only [Dialogue.bind, Sessions.remove_replace] at h₄
      split at h₄
      · rw [exec_bind, exec_logOf] at h₄
        obtain ⟨_, es₅, rfl, h₅⟩ := run_ask_iff.1 h₄
        obtain ⟨rfl, heq⟩ := run_done_iff.1 h₅
        cases heq
        exact ⟨false, rfl, .ends hfind hhandle hclose (.inr ⟨_, rfl⟩)⟩
      · obtain ⟨rfl, heq⟩ := run_done_iff.1 h₄
        cases heq
        exact ⟨false, rfl, .ends hfind hhandle hclose (.inl rfl)⟩

theorem Handles.follows {key : Key} {r : Readiness} {goesOn : Bool}
    (h : Handles turns key r server es goesOn server') :
    server.Follows es server' ∧ (goesOn = false → ¬ server'.Live key.session) := by
  cases h with
  | missed => exact ⟨.refl, nofun⟩
  | goesOn =>
    refine ⟨.of_keeps rfl (fun id hl => ?_) acceptsNobody_onBehalf, nofun⟩
    obtain ⟨entry, hm, rfl⟩ := Server.live_iff_exists.1 hl
    obtain ⟨old, hold, rfl⟩ := List.mem_map.1 hm
    refine Server.live_iff_exists.2 ⟨old, hold, ?_⟩
    split
    · next heq => exact eq_of_beq heq
    · rfl
  | ends _ _ _ hnote =>
    refine ⟨.of_keeps rfl (fun id hl => ?_) (acceptsNobody_onBehalf.append ?_),
      fun _ => Server.not_live_iff.2 Sessions.find?_remove⟩
    · obtain ⟨entry, hm, rfl⟩ := Server.live_iff_exists.1 hl
      exact Server.live_iff_exists.2 ⟨entry, (List.mem_filter.1 hm).1, rfl⟩
    · rcases hnote with rfl | ⟨line, rfl⟩
      · exact acceptsNobody_nil
      · exact acceptsNobody_log

theorem handleOne_follows {key : Key} {r : Readiness} {later : List ReadyEvent}
    {x : Except Failure Bool}
    (h : Run ((handleOne turns key r later).exec server) es (x, server')) :
    server.Follows es server' ∧
      ∃ goesOn, x = .ok goesOn ∧ (goesOn = false → ¬ server'.Live key.session) := by
  obtain ⟨goesOn, rfl, hhandles⟩ := handleOne_handles h
  exact ⟨hhandles.follows.1, goesOn, rfl, hhandles.follows.2⟩

theorem handleFirst_socket {key : Key} {event : ReadyEvent} {rest : List ReadyEvent}
    (h : event.target = .socket key) :
    handleFirst turns (n + 1) (event :: rest) =
      handleOne turns key event.readiness rest >>= fun goesOn =>
        handleFirst turns n (if goesOn then rest else invalidate key.session rest) := by
  simp only [handleFirst, handleOne, h, LawfulMonad.bind_assoc]
  refine congrArg (process turns key event.readiness >>= ·) (funext fun goesOn => ?_)
  cases goesOn with
  | true => simp
  | false =>
    simp only [Bool.false_eq_true, if_false, LawfulMonad.bind_assoc]
    refine congrArg (teardown key.session >>= ·) (funext fun _ => ?_)
    split <;> simp

/-- A batch whose closed entries belong to sessions that are over is handled as the reference handles
    the batch as it was. -/
theorem handleFirst_eq_walk (hn : server.Numbered) (hs : Scrubbed server batch batch') :
    (handleFirst turns batch.length batch').exec server =
      (walk turns batch server).bind fun x => .done x.2 := by
  induction batch generalizing server batch' with
  | nil =>
    cases hs
    rfl
  | cons event rest ih =>
    cases hs with
    | @cons _ event' _ rest' hevent hrest =>
    have hrest : Scrubbed server rest rest' := hrest
    -- An entry that is skipped changes nothing.
    have hskip (h : ∀ batch, handleFirst turns (rest.length + 1) (event' :: batch) =
        handleFirst turns rest.length batch) :
        (handleFirst turns (rest.length + 1) (event' :: rest')).exec server =
          (walk turns rest server).bind fun x => .done x.2 := by
      rw [h]
      exact ih hn hrest
    rw [List.length_cons]
    rcases hevent with rfl | ⟨rfl, key, htarget, hdead⟩
    · cases htarget : event'.target with
      | waker | closed =>
        simp only [walk, htarget]
        exact hskip fun batch => by simp only [handleFirst, htarget]
      | listener =>
        simp only [handleFirst, walk, htarget]
        rw [exec_bind, Dialogue.bind_assoc]
        refine bind_congr_of_run fun es ⟨x, server₁⟩ hrun => ?_
        have hf := accept_follows hrun
        cases x with
        | ok _ => exact ih (hf.numbered hn) (hrest.follows hf)
        | error failure => rfl
      | socket key =>
        simp only [walk, htarget]
        split
        · next hlive =>
          have hone : handleOne turns key event'.readiness rest' =
              handleOne turns key event'.readiness rest := by
            simp only [handleOne, hrest.countOf_eq hlive]
          rw [handleFirst_socket htarget, hone, exec_bind, Dialogue.bind_assoc]
          refine bind_congr_of_run fun es ⟨x, server₁⟩ hrun => ?_
          obtain ⟨hf, goesOn, rfl, hover⟩ := handleOne_follows hrun
          simp only [Dialogue.bind_assoc]
          refine ih (hf.numbered hn) ?_
          cases goesOn with
          | true => exact hrest.follows hf
          | false =>
            have hlt := Nat.lt_of_lt_of_le (hn _ hlive) hf.nextId
            exact (hrest.follows hf).invalidate ⟨hlt, hover rfl⟩
        · next hlive =>
          simp only [handleFirst, htarget]
          rw [exec_bind, exec_process_dead hlive]
          exact ih hn hrest
    · simp only [walk, htarget, if_neg hdead.2]
      exact hskip fun batch => rfl

theorem dispatch_eq_reference (hn : server.Numbered) :
    (dispatch turns batch).exec server =
      (reference turns batch server).bind fun x => .done x.2 := by
  unfold dispatch handleAll reference
  rw [exec_bind, exec_get]
  simp only [Dialogue.bind]
  rw [exec_bind, handleFirst_eq_walk hn .refl, Dialogue.bind_assoc, Dialogue.bind_assoc]
  refine congrArg (Dialogue.bind _) (funext ?_)
  rintro ⟨handled, r, after⟩
  cases r with
  | error failure => rfl
  | ok _ =>
    simp only [Dialogue.bind]
    rw [exec_bind, exec_get]
    simp only [Dialogue.bind]
    split
    · rw [Dialogue.bind_assoc]
      exact (Dialogue.bind_done _).symm
    · rfl

end Serving

/-! ## The handlers that are run -/

/-- What the handlers that are run while a batch is dispatched have to do with it. -/
structure Walked (server : Server) (batch : List ReadyEvent) (handled : List Handling)
    (r : Except Failure Unit) (server' : Server) : Prop where
  /-- Events are handled in the order of the batch, and none of them twice. -/
  inOrder : (handled.map Handling.event).Sublist batch
  /-- No handler is run on a session behind one that has ended it. -/
  silent : handled.Pairwise fun h h' => h.goesOn = false → h'.key.session ≠ h.key.session
  /-- A session that a handler has ended is over. -/
  ended : ∀ h ∈ handled, h.goesOn = false → server'.Dead h.key.session
  /-- Events of ids that were given away before reach sessions that were live before. -/
  older : ∀ h ∈ handled, h.key.session < server.nextId → server.Live h.key.session
  /-- What was looked at is the whole batch, unless the server gives up; of a session that is live
      before and behind it every event was handled. -/
  complete : ∃ seen, seen <+: batch ∧ (r = .ok () → seen = batch) ∧
    ∀ id, server.Live id → server'.Live id →
      (handled.filter (·.key.session = id)).map Handling.event = seen.filter (·.target.isOf id)

namespace Walked

variable {server server₁ server₂ : Server} {batch : List ReadyEvent} {handled : List Handling}
  {r : Except Failure Unit} {es es' : List ServerEvent} {event : ReadyEvent}

theorem nil : Walked server [] [] (.ok ()) server :=
  ⟨.slnil, .nil, List.forall_mem_nil _, List.forall_mem_nil _, [], List.prefix_rfl, fun _ => rfl,
    fun _ _ _ => rfl⟩

/-- An event for which no handler is run, while the server perhaps accepts clients. -/
theorem skip (hf : server.Follows es server₁) (hf' : server₁.Follows es' server₂)
    (hn : server.Numbered) (hskip : ∀ id, server.Live id → event.target.isOf id = false)
    (h : Walked server₁ batch handled r server₂) :
    Walked server (event :: batch) handled r server₂ := by
  refine ⟨h.inOrder.cons _, h.silent, h.ended, fun x hx hlt => ?_, ?_⟩
  · exact hf.live hlt (h.older x hx (Nat.lt_of_lt_of_le hlt hf.nextId))
  · obtain ⟨seen, hseen, hall, hcomplete⟩ := h.complete
    refine ⟨event :: seen, List.cons_prefix_cons.2 ⟨rfl, hseen⟩, fun hr => by rw [hall hr],
      fun id hl hl' => ?_⟩
    have hl₁ := hf'.live (Nat.lt_of_lt_of_le (hn id hl) hf.nextId) hl'
    rw [List.filter_cons_of_neg (by simp [hskip id hl])]
    exact hcomplete id hl₁ hl'

/-- The server gives up when it cannot accept clients any more. -/
theorem giveUp {failure : Failure} (hskip : ∀ id, event.target.isOf id = false) :
    Walked server (event :: batch) [] (.error failure) server₁ :=
  ⟨List.nil_sublist _, .nil, List.forall_mem_nil _, List.forall_mem_nil _, [event], ⟨batch, rfl⟩,
    nofun, fun id _ _ => by simp [hskip id]⟩

/-- An event of a live session. -/
theorem handle {key : Key} {goesOn : Bool} (hf : server.Follows es server₁)
    (hf' : server₁.Follows es' server₂) (hn : server.Numbered)
    (htarget : event.target = .socket key) (hl : server.Live key.session)
    (hover : goesOn = false → ¬ server₁.Live key.session)
    (h : Walked server₁ batch handled r server₂) :
    Walked server (event :: batch) (⟨key, event.readiness, goesOn⟩ :: handled) r server₂ := by
  have hlt := Nat.lt_of_lt_of_le (hn _ hl) hf.nextId
  have hevent : Handling.event ⟨key, event.readiness, goesOn⟩ = event := by
    rw [Handling.event, ← htarget]
  refine ⟨?_, List.pairwise_cons.2 ⟨fun x hx hend heq => ?_, h.silent⟩, ?_, ?_, ?_⟩
  · rw [List.map_cons, hevent]
    exact h.inOrder.cons_cons _
  · exact hover hend (heq ▸ h.older x hx (heq ▸ hlt))
  · rintro x (_ | ⟨_, hx⟩) hend
    · exact hf'.dead ⟨hlt, hover hend⟩
    · exact h.ended x hx hend
  · rintro x (_ | ⟨_, hx⟩) hxlt
    · exact hl
    · exact hf.live hxlt (h.older x hx (Nat.lt_of_lt_of_le hxlt hf.nextId))
  · obtain ⟨seen, hseen, hall, hcomplete⟩ := h.complete
    refine ⟨event :: seen, List.cons_prefix_cons.2 ⟨rfl, hseen⟩, fun hr => by rw [hall hr],
      fun id hl hl' => ?_⟩
    have hl₁ := hf'.live (Nat.lt_of_lt_of_le (hn id hl) hf.nextId) hl'
    have hrest := hcomplete id hl₁ hl'
    by_cases heq : key.session = id
    · rw [List.filter_cons_of_pos (by simpa using heq),
        List.filter_cons_of_pos (by simpa [htarget, Target.isOf] using heq), List.map_cons, hevent,
        hrest]
    · rw [List.filter_cons_of_neg (by simpa using heq),
        List.filter_cons_of_neg (by simpa [htarget, Target.isOf] using heq), hrest]

/-- Behind the batch clients may be accepted once more. -/
theorem follows {r' : Except Failure Unit} (h : Walked server batch handled (.ok ()) server₁)
    (hf : server.Follows es server₁) (hf' : server₁.Follows es' server₂) (hn : server.Numbered) :
    Walked server batch handled r' server₂ := by
  obtain ⟨seen, hseen, hall, hcomplete⟩ := h.complete
  exact ⟨h.inOrder, h.silent, fun x hx hend => hf'.dead (h.ended x hx hend), h.older, seen, hseen,
    fun _ => hall rfl, fun id hl hl' =>
      hcomplete id hl (hf'.live (Nat.lt_of_lt_of_le (hn id hl) hf.nextId) hl')⟩

end Walked

namespace Serving

variable {turns : Nat} {server server' : Server} {batch : List ReadyEvent} {es : List ServerEvent}
  {handled : List Handling} {r : Except Failure Unit}

theorem walk_walked (hn : server.Numbered)
    (h : Run (walk turns batch server) es (handled, r, server')) :
    server.Follows es server' ∧ Walked server batch handled r server' := by
  induction batch generalizing server es handled with
  | nil =>
    obtain ⟨rfl, heq⟩ := run_done_iff.1 h
    cases heq
    exact ⟨.refl, .nil⟩
  | cons event rest ih =>
    have hskip (hidle : ∀ id, server.Live id → event.target.isOf id = false)
        (h : Run (walk turns rest server) es (handled, r, server')) :
        server.Follows es server' ∧ Walked server (event :: rest) handled r server' := by
      obtain ⟨hf, hw⟩ := ih hn h
      exact ⟨hf, .skip .refl hf hn hidle hw⟩
    rw [walk] at h
    split at h
    · next htarget => exact hskip (fun _ _ => by rw [htarget]; rfl) h
    · next htarget => exact hskip (fun _ _ => by rw [htarget]; rfl) h
    · next htarget =>
      obtain ⟨es₁, es₂, ⟨x, server₁⟩, rfl, h₁, h₂⟩ := run_bind_iff.1 h
      have hf₁ := accept_follows h₁
      cases x with
      | ok _ =>
        obtain ⟨hf₂, hw⟩ := ih (hf₁.numbered hn) h₂
        exact ⟨hf₁.trans hf₂, .skip hf₁ hf₂ hn (fun _ _ => by rw [htarget]; rfl) hw⟩
      | error failure =>
        obtain ⟨rfl, heq⟩ := run_done_iff.1 h₂
        cases heq
        rw [List.append_nil]
        exact ⟨hf₁, .giveUp fun _ => by rw [htarget]; rfl⟩
    · next key htarget =>
      split at h
      · next hlive =>
        obtain ⟨es₁, es₂, ⟨x, server₁⟩, rfl, h₁, h₂⟩ := run_bind_iff.1 h
        obtain ⟨hf₁, goesOn, rfl, hover⟩ := handleOne_follows h₁
        obtain ⟨es₃, es₄, ⟨handled', r', server₂⟩, rfl, h₃, h₄⟩ := run_bind_iff.1 h₂
        obtain ⟨rfl, heq⟩ := run_done_iff.1 h₄
        cases heq
        obtain ⟨hf₂, hw⟩ := ih (hf₁.numbered hn) h₃
        rw [List.append_nil]
        exact ⟨hf₁.trans hf₂, .handle hf₁ hf₂ hn htarget hlive hover hw⟩
      · next hlive =>
        refine hskip (fun id hl => ?_) h
        rw [htarget]
        exact beq_eq_false_iff_ne.2 fun heq => hlive (heq ▸ hl)

theorem reference_walked (hn : server.Numbered)
    (h : Run (reference turns batch server) es (handled, r, server')) :
    server.Follows es server' ∧ Walked server batch handled r server' := by
  obtain ⟨es₁, es₂, ⟨handled₁, x, server₁⟩, rfl, h₁, h₂⟩ := run_bind_iff.1 h
  obtain ⟨hf, hw⟩ := walk_walked hn h₁
  cases x with
  | error failure =>
    obtain ⟨rfl, heq⟩ := run_done_iff.1 h₂
    cases heq
    rw [List.append_nil]
    exact ⟨hf, hw⟩
  | ok _ =>
    simp only at h₂
    split at h₂
    · obtain ⟨es₃, es₄, ⟨y, server₂⟩, rfl, h₃, h₄⟩ := run_bind_iff.1 h₂
      obtain ⟨rfl, heq⟩ := run_done_iff.1 h₄
      cases heq
      have hf' := accept_follows h₃
      rw [List.append_nil]
      exact ⟨hf.trans hf', hw.follows hf hf' hn⟩
    · obtain ⟨rfl, heq⟩ := run_done_iff.1 h₂
      cases heq
      rw [List.append_nil]
      exact ⟨hf, hw⟩

end Serving

/-! ## Servers -/

/-- A state that a server can be in between two batches. -/
inductive Server.Reached : Server → Prop where
  | bound {settings : Settings} {es : List ServerEvent} {server : Server} :
      Run (Server.bind settings) es (.ok server) → Reached server
  | dispatched {turns : Nat} {batch : List ReadyEvent} {es : List ServerEvent}
      {server server' : Server} :
      Reached server → Run ((Serving.dispatch turns batch).exec server) es (.ok (), server') →
      Reached server'

theorem Server.Reached.numbered {server : Server} (h : server.Reached) : server.Numbered := by
  induction h with
  | bound h =>
    intro id hl
    obtain ⟨entry, hm, -⟩ := Server.live_iff_exists.1 hl
    rw [Server.bind_sessions h] at hm
    nomatch hm
  | dispatched _ h ih =>
    rw [Serving.dispatch_eq_reference ih] at h
    obtain ⟨es₁, es₂, ⟨handled, r, server₁⟩, rfl, h₁, h₂⟩ := run_bind_iff.1 h
    obtain ⟨rfl, heq⟩ := run_done_iff.1 h₂
    cases heq
    exact (Serving.reference_walked ih h₁).1.numbered ih

/-- Closing the entries of a session behind an index leaves all others as they are. -/
theorem getElem?_invalidate_drop (batch : List ReadyEvent) (id : SessionId) (i j : Nat) :
    (batch.take (i + 1) ++ invalidate id (batch.drop (i + 1)))[j]? =
      batch[j]?.map fun e => if i < j ∧ e.target.isOf id then .closed else e := by
  by_cases hj : j < i + 1
  · have hle : ¬ i < j := by omega
    have hfront : (batch.take (i + 1))[j]? = batch[j]? := List.getElem?_take_of_lt hj
    cases hb : batch[j]? with
    | none =>
      have hlen : batch.length ≤ j := List.getElem?_eq_none_iff.1 hb
      rw [List.take_of_length_le (by omega), List.drop_of_length_le (by omega), invalidate,
        List.map_nil, List.append_nil, hb]
      rfl
    | some e =>
      rw [List.getElem?_append_left, hfront, hb]
      · simp [hle]
      · exact (List.getElem?_eq_some_iff.1 (hfront.trans hb)).1
  · have hlen : (batch.take (i + 1)).length ≤ i + 1 := List.length_take_le ..
    rw [List.getElem?_append_right (by omega), invalidate, List.getElem?_map, List.getElem?_drop]
    by_cases hb : i + 1 ≤ batch.length
    · rw [List.length_take_of_le hb, show i + 1 + (j - (i + 1)) = j by omega]
      simp [show i < j by omega]
    · rw [List.getElem?_eq_none (by omega), List.getElem?_eq_none (by omega)]
      rfl

/-- A batch is dispatched as by the reference, which handles an event exactly when its session is
    live; so no handler is run on a session that is over, and no event of a live one is lost. -/
theorem dispatch_spares_the_dead {server : Server} (hs : server.Reached) (turns : Nat)
    (batch : List ReadyEvent) :
    (Serving.dispatch turns batch).exec server =
        (Serving.reference turns batch server).bind (fun x => .done x.2) ∧
      (∀ es handled r server',
        Run (Serving.reference turns batch server) es (handled, r, server') →
          server.Follows es server' ∧ Walked server batch handled r server') ∧
      ∀ id i j, (batch.take (i + 1) ++ invalidate id (batch.drop (i + 1)))[j]? =
        batch[j]?.map fun e => if i < j ∧ e.target.isOf id then .closed else e :=
  ⟨Serving.dispatch_eq_reference hs.numbered, fun _ _ _ _ => Serving.reference_walked hs.numbered,
    getElem?_invalidate_drop batch⟩

/-! ## A batch of a server -/

/-- A server that has dispatched a batch. -/
def rehearseBatch (batch : List ReadyEvent) (script : ServerScript) : Option (Server × ServerScript) :=
  match rehearseBind script with
  | some (_, bound, script) =>
    match ((Serving.dispatch 8 batch).exec bound).play ServerScript.answer script with
    | some (_, (.ok (), server), script) => some (server, script)
    | _ => none
  | none => none

theorem reached_of_rehearseBatch {batch : List ReadyEvent} {script script' : ServerScript}
    {server : Server} (h : rehearseBatch batch script = some (server, script')) : server.Reached := by
  rw [rehearseBatch] at h
  split at h
  · next hbind =>
    split at h
    · next hdispatch =>
      cases h
      exact .dispatched (.bound (run_of_rehearseBind hbind)) (run_of_play hdispatch)
    · nomatch h
  · nomatch h

/-- What is seen of a server that has dispatched a batch and then does what `p` says is seen of a run. -/
theorem exists_reached_of_rehearse {α : Type} (batch : List ReadyEvent) (script : ServerScript)
    (p : Server → Dialogue ServerNet α) (q : Server → List ServerEvent → α → Bool)
    (hq : (rehearseBatch batch script).any (fun x =>
      ((p x.1).play ServerScript.answer x.2).any fun y => q x.1 y.1 y.2.1) = true) :
    ∃ server es a, server.Reached ∧ Run (p server) es a ∧ q server es a = true := by
  obtain ⟨⟨server, script'⟩, hx, hq⟩ := (Option.any_eq_true ..).1 hq
  obtain ⟨es, a, hrun, hq⟩ := exists_run_of_play hq
  exact ⟨server, es, a, reached_of_rehearseBatch hx, hrun, hq⟩

/-- Events of the first session; the first of them is fatal to a stranger. -/
def burst : List ReadyEvent :=
  [.fromClient 1, ⟨.socket ⟨1, .client⟩, { writable := true }⟩,
    ⟨.socket ⟨1, .remote⟩, { readable := true }⟩]

/-- Of three events of a live session the first ends it, and no handler is run for the others. -/
theorem stranger_is_handled_once :
    ∃ server : Server, server.Reached ∧ server.Live 1 ∧
      (Serving.dispatch 8 burst).exec server =
        (Serving.reference 8 burst server).bind (fun x => .done x.2) ∧
      ∃ es r server', Run (Serving.reference 8 burst server) es
          ([⟨⟨1, .client⟩, { readable := true }, false⟩], r, server') ∧
        Walked server burst [⟨⟨1, .client⟩, { readable := true }, false⟩] r server' := by
  obtain ⟨server, es, ⟨handled, r, server'⟩, hreached, hrun, hp⟩ :=
    exists_reached_of_rehearse [.atListener] stranger (Serving.reference 8 burst)
      (fun server _ x => decide (server.Live 1) &&
        decide (x.1 = [⟨⟨1, .client⟩, { readable := true }, false⟩]))
      (by decide +kernel)
  simp only [Bool.and_eq_true, decide_eq_true_eq] at hp
  obtain ⟨hlive, rfl⟩ := hp
  obtain ⟨heq, hwalked, -⟩ := dispatch_spares_the_dead hreached 8 burst
  exact ⟨server, hreached, hlive, heq, es, r, server', hrun, (hwalked _ _ _ _ hrun).2⟩

end SocksProxy
