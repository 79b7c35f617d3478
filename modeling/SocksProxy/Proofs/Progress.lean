/-
  How sessions come forward.

  * `Turn.represented`: behind every turn, a session has what its stage asks for;
  * `turn_leads`: no turn leads back to an earlier stage;
  * `Turn.asks`: name servers are asked when a request leaves the handshake, and not again.

  **`sessions_advance`** puts them together for whole lives.
-/
import SocksProxy.Proofs.Rehearsal
import SocksProxy.Proofs.Turns
import Mathlib.Logic.Relation

namespace SocksProxy

open Dialogue

variable {ctx : Context} {origin : Stage} {s s' : Session} {es : Transcript}
  {x : Except SessionError Unit} {role : Role} {r : Readiness}

/-! ## What sessions have -/

theorem Session.Associates.withClientStream {stream : Stream} (h : s.Associates) :
    (s.withClientStream stream).Associates :=
  ⟨h.stage, h.relay, h.remote⟩

theorem Session.Represented.withClientStream {stream : Stream} (h : s.Represented) :
    (s.withClientStream stream).Represented := by
  unfold Represented at h ⊢
  rw [withClientStream_stage]
  cases hst : s.stage <;> rw [hst] at h
  case associated => exact ⟨h.1.withClientStream, h.2⟩
  all_goals exact h

theorem Session.Associates.represented (h : s.Associates) (hin : s.inbound = []) :
    s.Represented := by
  unfold Represented
  rw [h.stage]
  exact ⟨h, hin⟩

theorem Session.Shaped.inbound_associated (hs : s.Shaped) (hst : s.stage = .associated) :
    s.inbound = [] :=
  ((Session.holds_associated hst).1 hs.holds).2.1

/-- Attempts that fail lead to no peer. -/
theorem Tries.peer {a a' : Attempts} (h : Tries a es a') : a'.peer = a.peer := by
  induction h with
  | nil => rfl
  | snoc _ _ _ _ _ ih => exact ih

theorem Proceeds.represented {a : Attempts} {early : Bytes} (h : Proceeds s a early es (.ok ()) s')
    (hst : s.stage = .connecting) (hin : s.inbound = []) (hp : s.pending = none)
    (hl : s.NoLookups) (ha : a.peer = none) : s'.Represented := by
  cases h with
  | opened ht =>
    unfold Session.Represented
    rw [Session.withOutgoing_stage, hst]
    exact ⟨hin, hp, hl, _, _, _, rfl, rfl, rfl, ht.peer.trans ha⟩

theorem Fulfils.represented {intent : Intent} {candidates : List Endpoint}
    (h : Fulfils s intent candidates es (.ok ()) s') (hp : s.pending = none) (hl : s.NoLookups)
    (hin : s'.stage = .associated → s'.inbound = []) : s'.Represented := by
  cases h with
  | connect h => exact h.represented rfl rfl hp hl rfl
  | associate _ h => exact (h rfl).represented (hin (h rfl).stage)

theorem Obeys.represented (h : Obeys s es (.ok ()) s') (hs : s.Shaped)
    (hst : s.stage = .authenticated) (hin : s'.stage = .associated → s'.inbound = []) :
    s'.Represented := by
  obtain ⟨hl, hremote, hrelay, hp⟩ := (Session.holds_handshake (by rw [hst]; rfl)).1 hs.holds
  cases h with
  | @resolving _ _ _ _ _ _ _ slot id server =>
    exact ⟨hremote, hrelay, rfl, slot, ⟨⟨.query slot, 0⟩, server, id, _⟩, by rw [hl]⟩
  | fulfilled _ _ _ _ h => exact h.represented hp hl hin

/-- Behind a turn, a session has what its stage asks for. -/
theorem Turn.represented (h : Turn ctx s role r es x s') (hx : x = .ok ()) (hs : s.Shaped)
    (hr : s.Represented) (hs' : s'.Shaped) : s'.Represented := by
  cases h with
  | idle | awaited => exact hr
  | tended => exact hr.withClientStream
  | negotiated _ hn hin =>
    obtain ⟨hl, hremote, hrelay, hp⟩ := (Session.holds_handshake hn.isHandshake).1 hs'.holds
    exact (Session.represented_handshake hn.isHandshake).2 ⟨hremote, hrelay, hl, hp, hin hx⟩
  | requested _ hn hst ho =>
    subst hx
    exact ho.represented (hn.shaped hs) hst hs'.inbound_associated
  | resumed _ hn hst ho =>
    exact (ho.represented (hn.shaped hs) hst hs'.inbound_associated).withClientStream
  | unresolved => nomatch hx
  | resolved hst _ _ _ _ _ h =>
    subst hx
    exact h.represented rfl rfl hs'.inbound_associated
  | attempted _ hst hrem hout h =>
    obtain ⟨hin, hp, hl, out, stream, target, hrem', -, -, hpeer⟩ := hr.connecting hst
    rw [hrem] at hrem'
    cases hrem'
    cases h with
    | waits => exact hr
    | breaks _ _ _ h =>
      subst hx
      exact h.represented hst hin hp hl hpeer
    | succeeds _ _ h =>
      obtain ⟨hst', stream', hrem'⟩ := h hx
      unfold Session.Represented
      rw [hst']
      exact ⟨_, _, _, hrem', rfl, rfl, rfl⟩
  | tunnelled hst _ hst' ha =>
    obtain ⟨out, stream, peer, hrem, -, hpeer, -⟩ := hr.connected hst
    obtain ⟨-, -, -, attempts, stream', hrem', -⟩ := (Session.holds_connected hst').1 hs'.holds
    simp only [Session.attempts?, Session.outgoing?, hrem, hrem', Option.map_some,
      Option.some.injEq] at ha
    unfold Session.Represented
    rw [hst']
    exact ⟨_, _, peer, hrem', rfl, by rw [← hpeer, ← ha], rfl⟩
  | carried _ _ h => exact h.represented (hs'.inbound_associated h.stage)

theorem Session.fresh_represented {peer localAddress : Endpoint} :
    (Session.fresh peer localAddress).Represented :=
  ⟨rfl, rfl, rfl, rfl, rfl⟩

theorem Life.represented {h : History} (hl : Life ctx h s) : s.Represented := by
  induction hl with
  | start h =>
    obtain ⟨⟨localAddress, rfl⟩, -⟩ := start_cases h
    exact Session.fresh_represented
  | turn hl h ih =>
    exact (turn_goes hl.shaped ih h).represented rfl hl.shaped ih
      ((turn_steps hl.shaped h).1.shaped rfl hl.shaped)

/-- Between two turns, a session that negotiates has handled all that it has read. -/
theorem Life.settled {h : History} (hl : Life ctx h s) : s.Settled := fun hst =>
  ((Session.represented_handshake hst.isHandshake).1 hl.represented).2.2.2.2

/-! ## Where sessions go -/

/-- The stages that can follow a stage. -/
def Stage.next : Stage → List Stage
  | accepted => [authRequested, authenticated]
  | authRequested => [authenticated]
  | authenticated => [resolving, connecting, associated]
  | resolving => [connecting, associated]
  | connecting => [connected]
  | connected | associated => []

/-- A stage is reached from another by stages that can follow each other. -/
def Stage.Leads : Stage → Stage → Prop :=
  Relation.ReflTransGen fun stage stage' => stage' ∈ stage.next

/-- There is no way back into the handshake. -/
theorem Stage.Leads.isHandshake {stage stage' : Stage} (h : stage.Leads stage')
    (hst : stage'.isHandshake = true) : stage.isHandshake = true := by
  induction h with
  | refl => exact hst
  | @tail between stage' _ hnext ih =>
    refine ih ?_
    revert hnext hst
    cases between <;> cases stage' <;> decide

/-- Where no other stage can follow, the session stays. -/
theorem Stage.Leads.last {stage stage' : Stage} (h : stage.Leads stage') (hnext : stage.next = []) :
    stage' = stage := by
  rcases Relation.ReflTransGen.cases_head h with heq | ⟨between, hb, -⟩
  · exact heq.symm
  · rw [hnext] at hb
    nomatch hb

/-- How many parts of a session come before the stage: the handshake, the resolution of a name, the
    connection, and then a tunnel or an association. -/
def Stage.rank : Stage → Nat
  | accepted | authRequested | authenticated => 0
  | resolving => 1
  | connecting => 2
  | connected => 3
  | associated => 4

namespace Stage

theorem rank_eq_zero {stage : Stage} : stage.rank = 0 ↔ stage.isHandshake = true := by
  cases stage <;> decide

theorem rank_le_of_next {stage stage' : Stage} (h : stage' ∈ stage.next) : stage.rank ≤ stage'.rank := by
  revert h
  cases stage <;> cases stage' <;> decide

end Stage

theorem Accepts.next {settings : Settings} {n : Nat} {data : Bytes} {stage : Stage}
    (h : Accepts settings s n data stage) : stage ∈ s.stage.next := by
  cases h with
  | @greeting _ _ method hst =>
    rw [hst]
    cases method <;> simp [AuthMethod.stage, Stage.next]
  | credentials hst =>
    rw [hst]
    exact List.mem_singleton.2 rfl

theorem Requested.next {intent : Intent} {s₁ : Session} (h : Requested s intent s₁) :
    s₁.stage = s.stage ∧ Stage.connecting ∈ s.stage.next ∧ Stage.associated ∈ s.stage.next := by
  cases h with
  | literal hst | resolved hst =>
    exact ⟨rfl, by rw [hst]; decide, by rw [hst]; decide⟩

/-- A step keeps the stage, or leads to one that can follow it. -/
theorem Step.next (h : Step ctx origin s es x s') : s'.stage = s.stage ∨ s'.stage ∈ s.stage.next := by
  cases h with
  | answered ha => exact .inr ha.next
  | lookupStarted hst =>
    rw [hst]
    exact .inr (show Stage.resolving ∈ Stage.authenticated.next by decide)
  | connectStarted h => exact .inr h.next.2.1
  | associated h => exact .inr h.next.2.2
  | unassociated h => exact .inl h.next.1
  | established hst =>
    rw [hst]
    exact .inr (show Stage.connected ∈ Stage.connecting.next by decide)
  | relayedUp | clientDrained | remoteFlushed | remoteDrained =>
    exact .inl Session.withRemoteStream_stage
  | _ => exact .inl rfl

theorem Steps.leads (h : Steps ctx origin s es x s') : s.stage.Leads s'.stage := by
  induction h with
  | nil => exact .refl
  | snoc _ h₂ ih =>
    rcases h₂.next with heq | hnext
    · rw [heq]
      exact ih
    · exact ih.tail hnext

theorem turn_leads {ids ids' : Dns.QueryIds} {goes : Bool} (hs : s.Shaped)
    (h : Run (Session.handle ctx role r ⟨s, ids⟩) es (goes, ⟨s', ids'⟩)) :
    s.stage.Leads s'.stage := by
  cases goes with
  | true => exact (turn_steps hs h).1.leads
  | false =>
    obtain ⟨es₁, es₂, e, -, hsteps, -⟩ := turn_fails hs h
    exact hsteps.leads

/-! ## What sessions ask -/

theorem Tries.asksNothing {a a' : Attempts} (h : Tries a es a') : es.AsksNothing :=
  Transcript.asksNothing_of_setup h.setup

theorem Proceeds.asksNothing {a : Attempts} {early : Bytes} (h : Proceeds s a early es x s') :
    es.AsksNothing := by
  cases h with
  | opened ht _ h₁ _ h₂ =>
    exact ht.asksNothing.append ((Transcript.minor_of_aside h₁.aside).asksNothing.append
      (Transcript.asksNothing_of_setup (h₂.setup.imp fun _ hv => ⟨_, hv⟩)))
  | exhausted ht _ h₁ h₂ =>
    exact ht.asksNothing.append ((Transcript.minor_of_tunnel
      (Transcript.tunnel_of_work h₁.calls)).asksNothing.append
        (Transcript.minor_of_aside h₂).asksNothing)

theorem Fulfils.asksNothing {intent : Intent} {candidates : List Endpoint}
    (h : Fulfils s intent candidates es x s') : es.AsksNothing := by
  cases h with
  | connect h => exact h.asksNothing
  | associate h => exact h.asksNothing

theorem Attempted.asksNothing {out : Outgoing} {stream : Stream}
    (h : Attempted s r out stream es x s') : es.AsksNothing := by
  cases h with
  | waits h => exact (Transcript.minor_of_aside h.aside).asksNothing
  | breaks h₁ h₂ h₃ h₄ =>
    exact (((Transcript.minor_of_aside h₁.aside).append
      (Transcript.minor_of_aside h₂.aside)).asksNothing.append
        (Transcript.asksNothing_of_setup (h₃.setup.imp fun _ hv => ⟨_, hv⟩))).append h₄.asksNothing
  | succeeds h₁ h₂ =>
    exact ((Transcript.minor_of_aside h₁.aside).append (Transcript.minor_of_tunnel h₂)).asksNothing

/-- At most one socket is opened for a query, and at most one query leaves. -/
structure Transcript.AsksOnce (es : Transcript) : Prop where
  sockets : es.querySockets ≤ 1
  queries : es.queries ≤ 1

namespace Transcript

variable {es' : Transcript}

theorem AsksNothing.once (h : AsksNothing es) : AsksOnce es :=
  ⟨by rw [h.querySockets]; exact Nat.zero_le 1, by rw [h.queries]; exact Nat.zero_le 1⟩

theorem AsksOnce.append (h : AsksOnce es) (h' : AsksNothing es') : AsksOnce (es ++ es') :=
  ⟨by rw [querySockets_append, h'.querySockets]; exact h.sockets,
    by rw [queries_append, h'.queries]; exact h.queries⟩

theorem AsksOnce.behind (h : AsksOnce es') (h' : AsksNothing es) : AsksOnce (es ++ es') :=
  ⟨by rw [querySockets_append, h'.querySockets, Nat.zero_add]; exact h.sockets,
    by rw [queries_append, h'.queries, Nat.zero_add]; exact h.queries⟩

end Transcript

theorem Obeys.once (h : Obeys s es x s') : es.AsksOnce := by
  cases h with
  | refused h => exact ⟨h.sockets, by rw [h.queries]; exact Nat.zero_le 1⟩
  | resolving _ _ _ _ _ h₁ h₂ =>
    exact Transcript.AsksOnce.behind ⟨h₂.sockets, Nat.le_of_eq h₂.queries⟩
      (Transcript.minor_of_aside h₁.aside).asksNothing
  | fulfilled _ _ _ h₁ h₂ =>
    exact h₂.asksNothing.once.behind (Transcript.minor_of_aside h₁.aside).asksNothing

/-- A turn asks once at most, and then the handshake is over; behind the handshake it asks nothing. -/
theorem Turn.asks (h : Turn ctx s role r es x s') :
    es.AsksOnce ∧ (s.stage.isHandshake = false ∨ x = .ok () ∧ s'.stage.isHandshake = true →
      es.AsksNothing) := by
  have hnothing (h : es.AsksNothing) : es.AsksOnce ∧
      (s.stage.isHandshake = false ∨ x = .ok () ∧ s'.stage.isHandshake = true → es.AsksNothing) :=
    ⟨h.once, fun _ => h⟩
  cases h with
  | idle => exact hnothing Transcript.asksNothing_nil
  | tended _ _ h => exact hnothing h.asksNothing
  | negotiated _ h => exact hnothing h.calls.asksNothing
  | requested hst h₁ _ h₂ =>
    refine ⟨h₂.once.behind h₁.calls.asksNothing, ?_⟩
    rintro (hst' | ⟨rfl, hst'⟩)
    · rw [hst] at hst'
      nomatch hst'
    · rw [h₂.isHandshake] at hst'
      nomatch hst'
  | resumed hst h₁ _ h₂ h₃ =>
    refine ⟨(h₂.once.behind h₁.calls.asksNothing).append h₃.asksNothing, ?_⟩
    rintro (hst' | ⟨-, hst'⟩)
    · rw [hst] at hst'
      nomatch hst'
    · rw [Session.withClientStream_stage, h₂.isHandshake] at hst'
      nomatch hst'
  | awaited _ h | unresolved _ h | carried _ h => exact hnothing h.asksNothing
  | resolved _ _ _ _ h₁ _ h₂ => exact hnothing (h₁.asksNothing.append h₂.asksNothing)
  | attempted _ _ _ _ h => exact hnothing h.asksNothing
  | tunnelled _ h => exact hnothing (Transcript.minor_of_tunnel h).asksNothing

/-- What was asked before a turn and in it. -/
theorem Turn.asks_behind {before : Transcript} (h : Turn ctx s role r es x s')
    (hb : before.AsksOnce) (hn : s.stage.isHandshake = true → before.AsksNothing) :
    Transcript.AsksOnce (before ++ es) ∧ (x = .ok () → s'.stage.isHandshake = true →
      s.stage.isHandshake = true → Transcript.AsksNothing (before ++ es)) := by
  obtain ⟨honce, hnothing⟩ := h.asks
  refine ⟨?_, fun hx hst' hst => (hn hst).append (hnothing (.inr ⟨hx, hst'⟩))⟩
  cases hst : s.stage.isHandshake with
  | true => exact honce.behind (hn hst)
  | false => exact hb.append (hnothing (.inl hst))

theorem Life.asks {h : History} (hl : Life ctx h s) :
    h.calls.AsksOnce ∧ (s.stage.isHandshake = true → h.calls.AsksNothing) := by
  induction hl with
  | start h =>
    have hnothing := (Transcript.minor_of_upkeep (start_cases h).2.upkeep).asksNothing
    rw [History.calls_turn]
    exact ⟨hnothing.once, fun _ => hnothing⟩
  | turn hl hrun ih =>
    obtain ⟨honce, hnothing⟩ :=
      (turn_goes hl.shaped hl.represented hrun).asks_behind ih.1 ih.2
    rw [History.calls_append, History.calls_event, History.calls_turn]
    exact ⟨honce, fun hst' => hnothing rfl hst' ((turn_leads hl.shaped hrun).isHandshake hst')⟩

/-- Closing a session asks nothing. -/
theorem Ended.asks {h : History} (he : Ended ctx h s) : h.calls.AsksOnce := by
  cases he with
  | failed hl hrun hclose =>
    obtain ⟨es₁, es₂, e, rfl, hturn, hlogs⟩ := turn_ends hl.shaped hl.represented hrun
    rw [History.calls_append, History.calls_event, History.calls_turn, ← List.append_assoc,
      ← List.append_assoc]
    exact ((hturn.asks_behind hl.asks.1 hl.asks.2).1.append
      (Transcript.minor_of_aside hlogs.aside).asksNothing).append
        (Transcript.minor_of_upkeep (close_upkeep hclose)).asksNothing
  | stopped hl hclose =>
    rw [History.calls_append, History.calls_turn]
    exact hl.asks.1.append (Transcript.minor_of_upkeep (close_upkeep hclose)).asksNothing

/-- **Sessions come forward, and have what their stage asks for.**

    * Between two turns, a session has the sockets, the queries and the bytes of its stage, and no others.
    * A turn leads to stages that can follow each other, whether the session survives it or not.
    * In a whole life at most one socket is opened for queries, and at most one query leaves. -/
theorem sessions_advance {h : History} :
    (Life ctx h s → s.Represented) ∧
      (Life ctx h s → ∀ role r ids es goes s' ids',
        Run (Session.handle ctx role r ⟨s, ids⟩) es (goes, ⟨s', ids'⟩) → s.stage.Leads s'.stage) ∧
      (Life ctx h s ∨ Ended ctx h s → h.calls.querySockets ≤ 1 ∧ h.calls.queries ≤ 1) := by
  refine ⟨fun hl => hl.represented, fun hl _ _ _ _ _ _ _ hrun => turn_leads hl.shaped hrun, ?_⟩
  rintro (hl | he)
  · exact ⟨hl.asks.1.sockets, hl.asks.1.queries⟩
  · exact ⟨he.asks.sockets, he.asks.queries⟩

/-- A client that asks for a tunnel to port 80 of the host `a.b`. -/
def seeker : SocketScript :=
  .between [[5, 1, 0], [5, 1, 0, 3, 3, 97, 46, 98, 0, 80]] []

/-- What `sessions_advance` says of a client that waits for the address of a name. -/
theorem seeker_advances :
    ∃ h s, Life ⟨{}, some ⟨.v4 ⟨192, 0, 2, 53⟩, 53⟩, 9⟩ h s ∧ s.stage = .resolving ∧
      h.calls.queries = 1 ∧ s.Represented ∧ h.calls.querySockets ≤ 1 ∧
      ∀ role r ids es goes s' ids',
        Run (Session.handle ⟨{}, some ⟨.v4 ⟨192, 0, 2, 53⟩, 53⟩, 9⟩ role r ⟨s, ids⟩) es
          (goes, ⟨s', ids'⟩) → Stage.resolving.Leads s'.stage := by
  obtain ⟨h, s, hl, hx⟩ := exists_life_of_rehearse ⟨{}, some ⟨.v4 ⟨192, 0, 2, 53⟩, 53⟩, 9⟩ seeker
    (handshake 2) (fun h s => s.stage = .resolving ∧ h.calls.queries = 1) (by decide +kernel)
  obtain ⟨hst, hq⟩ := of_decide_eq_true hx
  refine ⟨h, s, hl, hst, hq, sessions_advance.1 hl, (sessions_advance.2.2 (.inl hl)).1, ?_⟩
  rw [← hst]
  exact sessions_advance.2.1 hl

end SocksProxy
