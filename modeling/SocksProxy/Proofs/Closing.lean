/-
  How a session is seen off: of all its sockets, that of the client is closed last, and once.

  * `Transcript.Tidy`: no socket is shut down more often than it is taken off the poller. All that sessions
    say to the network is tidy (the `tidy_` lemmas), and so are their lives;
  * `Session.handle_clientPeer`: a session stays that of its client;
  * `Kept.settles`: whoever takes off the sockets of a session settles them;
  * `Transcript.SeenOff` is the end of a session, and `Ended.seenOff` says that every session ends so.
-/
import SocksProxy.Proofs.Custody
import SocksProxy.Proofs.Notices

namespace SocksProxy

open Dialogue

/-! ## Shutting down -/

/-- Whether the call shuts the socket down. -/
def SessionCall.shuts (k : Socket) : SessionCall → Bool
  | shutdown s => s = k
  | _ => false

/-- Whether the call shuts a socket down. -/
def SessionCall.isShutdown : SessionCall → Bool
  | shutdown _ => true
  | _ => false

theorem SessionCall.shuts_of_not_isShutdown {c : SessionCall} {k : Socket} (h : c.isShutdown = false) :
    c.shuts k = false := by
  cases c with
  | shutdown => nomatch h
  | _ => rfl

namespace Transcript

variable {es es' : Transcript} {k : Socket}

/-- How often a socket was shut down. -/
def shuts (es : Transcript) (k : Socket) : Nat :=
  es.countP (·.1.shuts k)

/-- No socket was shut down more often than it was taken off the poller. -/
def Tidy (es : Transcript) : Prop :=
  ∀ k, es.shuts k ≤ (es.record k).count .off

@[simp] theorem shuts_append : (es ++ es').shuts k = es.shuts k + es'.shuts k :=
  List.countP_append

theorem shuts_eq_zero (h : ∀ e ∈ es, e.1.isShutdown = false) : es.shuts k = 0 :=
  List.countP_eq_zero.2 fun e he => by simp [SessionCall.shuts_of_not_isShutdown (h e he)]

theorem tidy_of_calls (h : ∀ e ∈ es, e.1.isShutdown = false) : es.Tidy := by
  intro k
  rw [shuts_eq_zero h]
  exact Nat.zero_le _

theorem Tidy.append (h : es.Tidy) (h' : es'.Tidy) : (es ++ es').Tidy := by
  intro k
  rw [shuts_append, record_append, List.count_append]
  exact Nat.add_le_add (h k) (h' k)

theorem tidy_nil : Tidy [] :=
  tidy_of_calls (List.forall_mem_nil _)

theorem tidy_singleton {e : SessionEvent} (h : e.1.isShutdown = false) : Tidy [e] :=
  tidy_of_calls (List.forall_mem_singleton.2 h)

theorem Plain.tidy (h : Plain es) : es.Tidy := by
  refine tidy_of_calls fun e he => ?_
  have hplain := h e he
  obtain ⟨c, r⟩ := e
  cases c <;> first | rfl | nomatch hplain

end Transcript

/-! ### What sessions say -/

namespace Talk

variable {α β : Type} {turns : Nat} {s : Socket} {stream : Stream} {p : Talk α} {es : Transcript}

/-- What is said is tidy, whatever the answers are. -/
def Tidy (p : Talk α) : Prop :=
  ∀ (es : Transcript) a, Run p es a → es.Tidy

theorem tidy_done {a : α} : Tidy (.done a) := by
  intro es b h
  obtain ⟨rfl, -⟩ := run_done_iff.1 h
  exact Transcript.tidy_nil

theorem tidy_ask {c : SessionCall} {next : c.Answer → Talk α} (hc : c.isShutdown = false)
    (h : ∀ r, Tidy (next r)) : Tidy (.ask c next) := by
  intro es a hr
  obtain ⟨r, es', rfl, h'⟩ := run_ask_iff.1 hr
  exact (Transcript.tidy_singleton hc).append (h r _ _ h')

theorem tidy_bind {f : α → Talk β} (h : Tidy p) (hf : ∀ a, Tidy (f a)) : Tidy (p >>= f) := by
  intro es b hr
  obtain ⟨es₁, es₂, a, rfl, h₁, h₂⟩ := run_monad_bind_iff.1 hr
  exact (h _ _ h₁).append (hf a _ _ h₂)

theorem tidy_call {c : SessionCall} (hc : c.isShutdown = false) :
    Tidy (Dialogue.call (I := SessionNet) c) :=
  tidy_ask hc fun _ => tidy_done

theorem tidy_deregister : Tidy (deregister s) :=
  tidy_ask rfl fun (r : Except IoError Unit) => by
    cases r with
    | ok _ => exact tidy_done
    | error e => exact tidy_call rfl

theorem tidy_deregisterAll {sockets : List Socket} : Tidy (deregisterAll sockets) := by
  induction sockets with
  | nil => exact tidy_done
  | cons s rest ih => exact tidy_bind tidy_deregister fun _ => ih

theorem deregister_shuts {k : Socket} (h : Run (deregister s) es ()) : es.shuts k = 0 := by
  obtain ⟨(a : Except IoError Unit), es', rfl, h'⟩ := run_ask_iff.1 h
  cases a with
  | ok _ =>
    obtain ⟨rfl, -⟩ := run_done_iff.1 h'
    rfl
  | error e =>
    obtain rfl := Handler.run_log_iff.1 h'
    rfl

/-- A stream that is closed is shut down, once. -/
theorem streamClose_shuts {k : Socket} (h : Run stream.close es ()) :
    es.shuts k = if stream.socket = k then 1 else 0 := by
  obtain ⟨es₁, es₂, _, rfl, h₁, h₂⟩ := run_monad_bind_iff.1 h
  obtain ⟨es₃, es₄, _, rfl, h₃, h₄⟩ := run_monad_bind_iff.1 h₂
  obtain rfl := run_call_iff.1 h₃
  obtain ⟨rfl, -⟩ := run_pure_iff.1 h₄
  rw [Transcript.shuts_append, deregister_shuts h₁]
  by_cases hk : stream.socket = k <;> simp [Transcript.shuts, SessionCall.shuts, hk]

theorem tidy_streamClose : Tidy stream.close := by
  intro es _ h k
  rw [streamClose_shuts h, Transcript.record_of_move (streamClose_moves h)]
  split <;> exact Nat.le_refl _

theorem tidy_openStream {target : Endpoint} {options : TcpOptions} :
    Tidy (openStream s target options) := by
  refine tidy_ask rfl fun (r : Except IoError Unit) => ?_
  cases r with
  | error e => exact tidy_done
  | ok _ =>
    refine tidy_bind (fun _ _ h => (tune_plain h).tidy) fun r => ?_
    cases r with
    | error e => exact tidy_done
    | ok _ =>
      refine tidy_bind (tidy_call rfl) fun (r : Except IoError Unit) => ?_
      cases r with
      | ok _ => exact tidy_done
      | error e => exact tidy_bind tidy_streamClose fun _ => tidy_done

theorem tidy_openDatagram {addr : Endpoint} : Tidy (openDatagram s addr) :=
  tidy_ask rfl fun (r : Except IoError Unit) => by
    cases r with
    | ok _ => exact tidy_call rfl
    | error e => exact tidy_done

theorem tidy_receiveFrom {max : Nat} : Tidy (receiveFrom turns s max) := by
  refine fun es r h => Transcript.tidy_of_calls fun e he => ?_
  obtain ⟨a, rfl⟩ := (receiveFrom_cases h).1 e he
  rfl

theorem tidy_sendTo {data : Bytes} {dest : Endpoint} : Tidy (sendTo turns s data dest) := by
  intro es r h
  obtain ⟨es₀, a, rfl, hes₀, -⟩ := sendTo_cases h
  refine (Transcript.tidy_of_calls fun e he => ?_).append (Transcript.tidy_singleton rfl)
  obtain ⟨error, rfl⟩ := hes₀ e he
  rfl

end Talk

namespace Session

theorem tidy_start {settings : Settings} {peer : Endpoint} : Talk.Tidy (start settings peer) := by
  refine Talk.tidy_bind (fun _ _ h => (Talk.tune_plain h).tidy) fun r => ?_
  cases r with
  | error e => exact Talk.tidy_done
  | ok _ =>
    refine Talk.tidy_bind (Talk.tidy_call rfl) fun (r : Except IoError Endpoint) => ?_
    cases r with
    | error e => exact Talk.tidy_done
    | ok _ =>
      refine Talk.tidy_bind (Talk.tidy_call rfl) fun (r : Except IoError Unit) => ?_
      cases r <;> exact Talk.tidy_done

theorem closeRemote_tidy {remote : Remote} {es : Transcript} (h : Run (closeRemote remote) es ()) :
    es.Tidy := by
  cases remote with
  | datagram socket => exact Talk.tidy_deregister _ _ h
  | stream out =>
    obtain ⟨es', rfl, hstream, hnone⟩ := closeRemote_parts h
    refine Transcript.Tidy.append (Transcript.tidy_of_calls fun e he => ?_) ?_
    · obtain ⟨peer, -, rfl⟩ := List.mem_map.1 he
      rfl
    · cases hs : out.stream with
      | none => rw [hnone hs]; exact Transcript.tidy_nil
      | some stream => exact Talk.tidy_streamClose _ _ (hstream stream hs)

theorem close_tidy {s : Session} {es : Transcript} (h : Run s.close es ()) : es.Tidy := by
  obtain ⟨es₁, es₂, es₃, es₄, rfl, h₁, hrelay, hnorelay, hremote, hnoremote, h₄⟩ := close_parts h
  have h₂ : Transcript.Tidy es₂ := by
    cases hr : s.relay with
    | none => rw [hnorelay hr]; exact Transcript.tidy_nil
    | some relay => exact Talk.tidy_deregister _ _ (hrelay relay hr)
  have h₃ : Transcript.Tidy es₃ := by
    cases hr : s.remote with
    | none => rw [hnoremote hr]; exact Transcript.tidy_nil
    | some remote => exact closeRemote_tidy (hremote remote hr)
  have hlast : Transcript.Tidy [⟨.notify (.clientDisconnected s.client.peer), ()⟩,
      ⟨.log .session ⟨.debug, .session, "Session closed"⟩, ()⟩] :=
    (Transcript.tidy_singleton rfl).append (Transcript.tidy_singleton rfl)
  exact (Talk.tidy_deregisterAll _ _ h₁).append
    (h₂.append (h₃.append ((Talk.tidy_streamClose _ _ h₄).append hlast)))

end Session

/-! ### Lives -/

theorem tidy_enduring : Enduring fun es _ => es.Tidy where
  call h he := h.append (Transcript.plain_singleton he).tidy
  alike h _ := h

theorem tidy_upheld (ctx : Context) : Upheld ctx (fun es _ => es.Tidy) fun _ es _ => es.Tidy where
  enduring := tidy_enduring
  fails _ _ _ h := h
  lasts _ := tidy_enduring
  cut h := h
  advances h _ := h
  missesQuery h _ h₁ := h.append (Talk.tidy_openDatagram _ _ h₁)
  withdraws h _ _ h₁ h₂ h₃ _ := ((h.append (Talk.tidy_openDatagram _ _ h₁)).append
    (Talk.tidy_sendTo _ _ h₂)).append (Talk.tidy_deregister _ _ h₃)
  queries h _ _ h₁ h₂ := (h.append (Talk.tidy_openDatagram _ _ h₁)).append (Talk.tidy_sendTo _ _ h₂)
  waits h _ h₁ := h.append (Talk.tidy_receiveFrom _ _ h₁)
  closesLookups h _ h₁ := h.append (Talk.tidy_deregisterAll _ _ h₁)
  connects h _ := h
  opens h h₁ := h.append (Talk.tidy_openStream _ _ h₁)
  misses h h₁ := h.append (Talk.tidy_openStream _ _ h₁)
  abandons h _ _ h₁ := h.append (Talk.tidy_streamClose _ _ h₁)
  missesRelay h _ h₁ := h.append (Talk.tidy_openDatagram _ _ h₁)
  unboundRelay h _ h₁ := (h.append (Talk.tidy_openDatagram _ _ h₁)).append (Transcript.tidy_singleton rfl)
  halfAssociates h _ h₁ h₂ := ((h.append (Talk.tidy_openDatagram _ _ h₁)).append
    (Transcript.tidy_singleton rfl)).append (Talk.tidy_openDatagram _ _ h₂)
  associates h _ h₁ h₂ := ((h.append (Talk.tidy_openDatagram _ _ h₁)).append
    (Transcript.tidy_singleton rfl)).append (Talk.tidy_openDatagram _ _ h₂)
  awaitsClient h _ h₁ _ := h.append (Talk.tidy_receiveFrom _ _ h₁)
  forwards h hrelay hremote h₁ ids :=
    Handler.brings_forward tidy_enduring (fun _ _ _ h => h)
      (fun _ _ _ _ _ _ _ h hr => h.append (Talk.tidy_sendTo _ _ hr)) (fun _ _ _ h _ => h)
      ⟨_, ids⟩ _ ⟨h.append (Talk.tidy_receiveFrom _ _ h₁), hrelay, hremote⟩
  awaitsRemote h _ h₁ _ := h.append (Talk.tidy_receiveFrom _ _ h₁)
  delivers h hrelay hremote h₁ ids :=
    Handler.brings_deliver tidy_enduring (fun _ _ _ h => h)
      (fun _ _ _ _ _ _ _ h hr => h.append (Talk.tidy_sendTo _ _ hr))
      ⟨_, ids⟩ _ ⟨h.append (Talk.tidy_receiveFrom _ _ h₁), hrelay, hremote⟩

theorem Ended.tidy {ctx : Context} {h : History} {s : Session} (he : Ended ctx h s) : h.calls.Tidy := by
  obtain ⟨es₁, es₂, e, heq, htidy, hclose⟩ :=
    (tidy_upheld ctx).ended (fun _ _ _ => Session.tidy_start _ _) he
  rw [heq]
  exact htidy.append (Session.close_tidy hclose)

/-! ## The client of a session -/

section
variable {ctx : Context} {origin : Stage} {s s' : Session} {es : Transcript}

theorem Requested.clientPeer {intent : Intent} (h : Requested s intent s') :
    s'.client.peer = s.client.peer := by
  cases h <;> rfl

theorem Step.clientPeer {r : Except SessionError Unit} (h : Step ctx origin s es r s') :
    s'.client.peer = s.client.peer := by
  cases h with
  | connectStarted h | unassociated h | associated h => exact h.clientPeer
  | relayedUp | remoteFlushed => rw [Session.withRemoteStream_client]
  | clientDrained | remoteDrained => rw [Session.withRemoteStream_client]; rfl
  | _ => rfl

theorem Steps.clientPeer {r : Except SessionError Unit} (h : Steps ctx origin s es r s') :
    s'.client.peer = s.client.peer := by
  induction h with
  | nil => rfl
  | snoc _ h ih => exact h.clientPeer.trans ih

/-- No turn makes a session that of another client. -/
theorem Session.handle_clientPeer {role : Role} {r : Readiness} {ids : Dns.QueryIds} {goesOn : Bool}
    {w : Work} (hs : s.Shaped) (h : Run (Session.handle ctx role r ⟨s, ids⟩) es (goesOn, w)) :
    w.session.client.peer = s.client.peer := by
  cases goesOn with
  | true => exact (turn_steps hs h).1.clientPeer
  | false =>
    obtain ⟨es₁, es₂, e, -, hsteps, -⟩ := turn_fails hs h
    exact hsteps.clientPeer

end

/-! ## The end of a session -/

/-- The calls of a session of the peer that is over: those up to where its client is all that is left, and
    those behind. -/
structure Transcript.SeenOff (peer : Endpoint) (before after : Transcript) : Prop where
  /-- Up to then, the socket of the client is on the poller and open. -/
  kept : before.record ⟨.client, 0⟩ = [.on] ∧ before.shuts ⟨.client, 0⟩ = 0
  /-- All other sockets are gone by then. -/
  alone : ∀ k, k ≠ ⟨.client, 0⟩ → before.Released k ∨ before.Strands k
  /-- Observers have not been told yet that any client has gone. -/
  unannounced : ∀ peer', .clientDisconnected peer' ∉ before.notices
  /-- Now the socket of the client is taken off the poller and shut down, each once. -/
  closed : after.record ⟨.client, 0⟩ = [.off] ∧ after.shuts ⟨.client, 0⟩ = 1
  /-- Nothing happens to another socket any more. -/
  last : ∀ k, k ≠ ⟨.client, 0⟩ → after.record k = [] ∧ after.shuts k = 0
  /-- Observers are told, once, that the client of the session has gone. -/
  announced : after.notices = [.clientDisconnected peer]

/-- A session is closed in two parts: first all that it holds besides its client, and then its client. -/
theorem Session.close_last {s : Session} {es : Transcript} (hs : s.Housed) (h : Run s.close es ()) :
    ∃ es₁ es₂ : Transcript, es = es₁ ++ es₂ ∧ es₁.moves = s.holdings.dropLast.map (·, .off) ∧
      es₂.moves = [(⟨.client, 0⟩, .off)] ∧ (∀ k, es₂.shuts k = if ⟨.client, 0⟩ = k then 1 else 0) ∧
      es₂.notices = [.clientDisconnected s.client.peer] := by
  have hmoves := close_moves h
  obtain ⟨es₁, es₂, es₃, es₄, rfl, -, -, -, -, -, h₄⟩ := close_parts h
  have hclosed : Transcript.moves (es₄ ++ [⟨.notify (.clientDisconnected s.client.peer), ()⟩,
      ⟨.log .session ⟨.debug, .session, "Session closed"⟩, ()⟩]) = [(⟨.client, 0⟩, .off)] := by
    rw [← hs.client, ← Talk.streamClose_moves h₄, Transcript.moves_append]
    exact List.append_nil _
  refine ⟨es₁ ++ (es₂ ++ es₃), _, by simp only [List.append_assoc], ?_, hclosed, fun k => ?_, ?_⟩
  · have hholdings : s.holdings = s.holdings.dropLast ++ [⟨.client, 0⟩] := by
      rw [← hs.client, holdings, List.dropLast_concat]
    rw [hholdings, List.map_append] at hmoves
    simp only [← List.append_assoc] at hmoves ⊢
    rw [List.append_assoc, Transcript.moves_append, hclosed] at hmoves
    exact List.append_cancel_right hmoves
  · rw [Transcript.shuts_append, Talk.streamClose_shuts h₄, hs.client]
    rfl
  · exact Transcript.notices_ahead (Talk.discreet_close _ _ h₄) rfl

section
variable {ctx : Context} {h : History} {s : Session}

/-- Before a session is closed, observers are told of its remote side alone. -/
theorem Session.not_mem_announced {peer : Endpoint} :
    .clientDisconnected peer ∉ s.announced ∧ .clientDisconnected peer ∉ s.revoked := by
  constructor <;>
  · intro hm
    obtain ⟨_, -, heq⟩ := List.mem_map.1 hm
    nomatch heq

/-- **A session that is over was seen off.** Its client was closed once, behind all other sockets. -/
theorem Ended.seenOff (he : Ended ctx h s) :
    ∃ before after, h.calls = before ++ after ∧ Transcript.SeenOff s.client.peer before after := by
  obtain ⟨es₁, es₂, e, heq, hover, hclose⟩ := (custody_upheld ctx).ended (fun _ _ _ => custody_of_start) he
  have hkept : Kept es₁ s := hover.elim (·.toKept) (·.2)
  obtain ⟨front, after, rfl, hfront, hmoves, hshuts, htold⟩ := Session.close_last hkept.housed hclose
  have hholdings : s.holdings = s.holdings.dropLast ++ [⟨.client, 0⟩] := by
    rw [← hkept.housed.client, Session.holdings, List.dropLast_concat]
  obtain ⟨hd, -, hclient⟩ := List.nodup_append.1 (hholdings ▸ hkept.housed.holdings_nodup)
  have hbefore : Transcript.record (es₁ ++ front) ⟨.client, 0⟩ = [.on] := by
    have hheld : (⟨.client, 0⟩ : Socket) ∈ s.holdings := by
      rw [hholdings]
      exact List.mem_append_right _ (List.mem_singleton_self _)
    rw [Transcript.record_append, hkept.held _ hheld, Transcript.record_of_off hfront hd,
      if_neg fun hm => hclient _ hm _ (List.mem_singleton_self _) rfl]
    rfl
  have hafter : Transcript.record after ⟨.client, 0⟩ = [.off] :=
    (Transcript.record_of_move hmoves).trans (if_pos rfl)
  rw [← List.append_assoc] at heq
  refine ⟨es₁ ++ front, after, heq, {
    kept := ⟨hbefore, ?_⟩
    alone := fun k hk => hkept.settles hfront hd (fun k hm => List.dropLast_subset _ hm) fun hm => ?_
    unannounced := fun peer hm => ?_
    closed := ⟨hafter, (hshuts _).trans (if_pos rfl)⟩
    last := fun k hk => ⟨Transcript.record_of_ne hmoves hk.symm, (hshuts k).trans (if_neg hk.symm)⟩
    announced := htold }⟩
  · -- The one time that the client was taken off is behind.
    have htidy := he.tidy ⟨.client, 0⟩
    rw [heq, Transcript.shuts_append, Transcript.record_append, hbefore, hafter, hshuts, if_pos rfl] at htidy
    exact Nat.le_zero.1 (Nat.le_of_succ_le_succ htidy)
  · rw [hholdings] at hm
    exact (List.mem_append.1 hm).resolve_right fun hlast => hk (List.mem_singleton.1 hlast)
  · have hnotices := he.notices
    rw [heq, Transcript.notices_append, htold] at hnotices
    rcases hnotices with hnotices | ⟨hnotices, -, -⟩
    · rw [List.append_cancel_right hnotices] at hm
      exact (List.mem_append.1 hm).elim Session.not_mem_announced.1 Session.not_mem_announced.2
    · rw [List.append_cancel_right hnotices] at hm
      exact Session.not_mem_announced.2 hm

end

end SocksProxy
