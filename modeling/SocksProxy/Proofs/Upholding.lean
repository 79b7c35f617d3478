/-
  What holds of a session and its calls, and is kept by everything that handlers do.

  Most of what handlers do moves bytes on streams, and changes what is scheduled or was read. What holds
  regardless of that (`Enduring`) has to be looked at only where sockets are opened or closed and datagrams
  are moved.

  * `Session.outline` is what is left of a session without schedules and bytes;
  * `Handler.Brings J h K E`: where `J` holds, `K` holds behind `h`, or `E` if it ends the session. The
    `brings_` lemmas take handlers apart;
  * `Upheld` lists what has to be looked at; `Upheld.life` and `Upheld.ended` say of every session what
    holds then.
-/
import SocksProxy.Proofs.Progress

namespace SocksProxy

open Dialogue

/-! ## Plain calls -/

/-- The call neither opens nor closes a socket, and moves no datagram. -/
def SessionCall.isPlain : SessionCall → Bool
  | .tune _ _ | .localAddress _ | .peerAddress _ | .pendingError _ | .reregister _ _ | .receive _ _
  | .send _ _ | .log _ _ | .notify _ => true
  | .connect _ _ | .bindDatagram _ _ | .register _ _ | .deregister _ | .shutdown _ | .receiveFrom _ _
  | .sendTo _ _ _ => false

namespace Transcript

/-- All calls are plain. -/
def Plain (es : Transcript) : Prop :=
  ∀ e ∈ es, e.1.isPlain = true

variable {es : Transcript}

theorem plain_nil : Plain [] :=
  List.forall_mem_nil _

theorem plain_singleton {e : SessionEvent} (h : e.1.isPlain = true) : Plain [e] :=
  List.forall_mem_singleton.2 h

theorem plain_of_receives {s : Socket} (h : All (· = .receive s) es) : Plain es := by
  intro e he
  have hv := h e he
  obtain ⟨c, x⟩ := e
  cases c <;> first | rfl | nomatch hv

end Transcript

namespace Stream

variable {turns : Nat} {s s' : Stream} {data : Bytes} {es : Transcript}

theorem receive_plain {x : Except IoError Received} (h : Run (s.receive turns) es x) : es.Plain :=
  Transcript.plain_of_receives (receive_all h)

/-- What is written to the socket of a stream is plain. -/
theorem plain_onStream {socket : Socket} {ws : List Writer.Event} :
    Transcript.Plain (ws.map (SessionEvent.onStream socket)) :=
  List.forall_mem_map.2 fun _ _ => rfl

theorem send_plain {x : Except IoError Flush} (h : Run (s.send turns data) es (x, s')) :
    es.Plain ∧ s'.socket = s.socket := by
  obtain ⟨ws, outbound, rfl, rfl, -⟩ := send_run h
  exact ⟨plain_onStream, rfl⟩

theorem flush_plain {x : Except IoError Flush} (h : Run (s.flush turns) es (x, s')) :
    es.Plain ∧ s'.socket = s.socket := by
  obtain ⟨ws, outbound, rfl, rfl, -⟩ := flush_run h
  exact ⟨plain_onStream, rfl⟩

theorem resume_plain {x : Except IoError Unit} (h : Run s.resume es (x, s')) :
    es.Plain ∧ s'.socket = s.socket := by
  obtain ⟨(r : Except IoError Unit), es', rfl, h'⟩ := run_ask_iff.1 h
  cases r <;>
  · obtain ⟨rfl, heq⟩ := run_done_iff.1 h'
    cases heq
    exact ⟨Transcript.plain_singleton rfl, rfl⟩

theorem settle_plain {x : Except IoError Unit} (h : Run s.settle es (x, s')) :
    es.Plain ∧ s'.socket = s.socket := by
  unfold settle at h
  split at h
  · obtain ⟨rfl, heq⟩ := run_done_iff.1 h
    cases heq
    exact ⟨Transcript.plain_nil, rfl⟩
  · exact resume_plain h

end Stream

theorem Talk.peerOf_plain {stream : Stream} {es : Transcript} {x : Except IoError (Option Endpoint)}
    (h : Run (peerOf stream) es x) : es.Plain := by
  obtain ⟨(r : Except IoError (Option IoError)), es', rfl, h'⟩ := run_ask_iff.1 h
  rcases r with e | _ | e
  · obtain ⟨rfl, -⟩ := run_done_iff.1 h'
    exact Transcript.plain_singleton rfl
  · obtain ⟨(r' : Except IoError Endpoint), es'', rfl, h''⟩ := run_ask_iff.1 h'
    cases r' <;>
    · obtain ⟨rfl, -⟩ := run_done_iff.1 h''
      exact List.forall_mem_cons.2 ⟨rfl, Transcript.plain_singleton rfl⟩
  · obtain ⟨rfl, -⟩ := run_done_iff.1 h'
    exact Transcript.plain_singleton rfl

/-! ## What endures -/

/-- What is left of the remote side: how many attempts were made, if it is a stream, and its socket. -/
def Remote.outline : Remote → Option Nat × Option Socket
  | .stream out => (some out.attempts.started, out.stream.map (·.socket))
  | .datagram socket => (none, some socket)

/-- What is left of a session when schedules, interests and bytes are forgotten, and where in the handshake
    it is. -/
structure Outline where
  rank : Nat
  peer : Endpoint
  localAddress : Endpoint
  client : Socket
  relay : Option Relay
  remote : Option (Option Nat × Option Socket)
  lookups : Vector (Option Lookup) Role.maxQueries

/-- What is left of a session. -/
def Session.outline (s : Session) : Outline where
  rank := s.stage.rank
  peer := s.client.peer
  localAddress := s.client.localAddress
  client := s.client.stream.socket
  relay := s.relay
  remote := s.remote.map Remote.outline
  lookups := s.lookups

namespace Session

variable {s : Session} {stream : Stream}

theorem outline_withClientStream (h : stream.socket = s.client.stream.socket) :
    (s.withClientStream stream).outline = s.outline := by
  unfold outline
  rw [withClientStream_stream, h]
  rfl

theorem outline_withOutgoing {out out' : Outgoing} (h : s.remote = some (.stream out))
    (hs : out'.attempts.started = out.attempts.started)
    (hstream : out'.stream.map (·.socket) = out.stream.map (·.socket)) :
    (s.withOutgoing out').outline = s.outline := by
  unfold outline
  simp only [withOutgoing_stage, withOutgoing_client, withOutgoing_relay, withOutgoing_remote,
    withOutgoing_lookups, h, Option.map_some, Remote.outline, hs, hstream]

theorem outline_withRemoteStream {stream' : Stream} (h : s.remoteStream? = some stream)
    (hs : stream'.socket = stream.socket) : (s.withRemoteStream stream').outline = s.outline := by
  obtain ⟨out, hrem, hout⟩ := remoteStream?_eq_some.1 h
  rw [withRemoteStream_of_remote hrem]
  exact outline_withOutgoing hrem rfl (by rw [hout, Option.map_some, Option.map_some, hs])

end Session

/-- What holds of a session behind its calls does not depend on plain calls, schedules and bytes. -/
structure Enduring (J : Transcript → Session → Prop) : Prop where
  call : ∀ {es : Transcript} {s : Session} {e : SessionEvent}, J es s → e.1.isPlain = true →
    J (es ++ [e]) s
  alike : ∀ {es : Transcript} {s s' : Session}, J es s → s'.outline = s.outline → J es s'

namespace Enduring

variable {J : Transcript → Session → Prop} {es es₁ : Transcript} {s : Session}

theorem calls (hJ : Enduring J) (h : J es s) (hp : es₁.Plain) : J (es ++ es₁) s := by
  induction es₁ generalizing es with
  | nil => rwa [List.append_nil]
  | cons e es₁ ih =>
    obtain ⟨he, hes₁⟩ := List.forall_mem_cons.1 hp
    rw [← List.singleton_append, ← List.append_assoc]
    exact ih (hJ.call h he) hes₁

/-- In a part of the session it endures as well. -/
theorem at_rank (hJ : Enduring J) (p : Nat → Prop) :
    Enduring fun es s => J es s ∧ p s.stage.rank where
  call h he := ⟨hJ.call h.1 he, h.2⟩
  alike h heq := by
    have hrank := congrArg Outline.rank heq
    simp only [Session.outline] at hrank
    exact ⟨hJ.alike h.1 heq, hrank ▸ h.2⟩

end Enduring

/-! ## Handlers -/

namespace Handler

variable {α β : Type} {J K L : Transcript → Session → Prop}
  {E E' : SessionError → Transcript → Session → Prop} {ctx : Context}

/-- Where `J` holds, `K` holds behind the handler, or `E` if it ends the session. -/
def Brings (J : Transcript → Session → Prop) (h : Handler α) (K : Transcript → Session → Prop)
    (E : SessionError → Transcript → Session → Prop) : Prop :=
  ∀ w es, J es w.session →
    h.Always w es (fun _ w' es' => K es' w'.session) (fun e w' es' => E e es' w'.session)

section
variable {h : Handler α}

theorem brings_pure {a : α} : Brings J (pure a) J E :=
  fun _ _ hw => always_pure.2 hw

theorem brings_fail {e : SessionError} (hE : ∀ es s, J es s → E e es s) :
    Brings J (fail e : Handler α) K E :=
  fun _ _ hw => always_fail.2 (hE _ _ hw)

theorem brings_refuse {fault : WireError} (hE : ∀ es s, J es s → E (.violation fault) es s) :
    Brings J (refuse fault : Handler α) K E :=
  brings_fail hE

theorem Brings.imp {J' K' : Transcript → Session → Prop} (hh : Brings J h K E)
    (hJ : ∀ es s, J' es s → J es s) (hK : ∀ es s, K es s → K' es s)
    (hE : ∀ e es s, E e es s → E' e es s) : Brings J' h K' E' := fun w es hw =>
  (hh w es (hJ es _ hw)).imp (fun _ _ _ h => hK _ _ h) fun _ _ _ h => hE _ _ _ h

/-- What was asked of the session before can be more. -/
theorem Brings.of_imp {J' : Transcript → Session → Prop} (hh : Brings J h K E)
    (hJ : ∀ es s, J' es s → J es s) : Brings J' h K E :=
  hh.imp hJ (fun _ _ h => h) fun _ _ _ h => h

theorem brings_bind {f : α → Handler β} (hh : Brings J h K E) (hf : ∀ a, Brings K (f a) L E) :
    Brings J (h >>= f) L E := fun w es hw =>
  always_bind.2 ((hh w es hw).imp (fun a w' es' hK => hf a w' es' hK) fun _ _ _ h => h)

/-- What comes behind the end of the session does not matter. -/
theorem brings_fail_bind {e : SessionError} {f : α → Handler β} (hE : ∀ es s, J es s → E e es s) :
    Brings J ((fail e : Handler α) >>= f) K E := fun _ _ hw =>
  always_bind.2 (always_fail.2 (hE _ _ hw))

/-- A handler may go by what the session is. -/
theorem brings_session_bind {f : Session → Handler β}
    (hf : ∀ s, Brings (fun es s' => J es s' ∧ s' = s) (f s) K E) : Brings J (session >>= f) K E :=
  fun w es hw => always_bind.2 (always_session.2 (hf w.session w es ⟨hw, rfl⟩))

/-- A handler looks at the session, and what it finds does not matter. -/
theorem brings_session {f : Session → Handler β} (hf : ∀ s, Brings J (f s) K E) :
    Brings J (session >>= f) K E :=
  brings_session_bind fun s => (hf s).of_imp fun _ _ h => h.1

theorem brings_update {f : Session → Session} (hf : ∀ es s, J es s → K es (f s)) :
    Brings J (update f) K E :=
  fun _ _ hw => always_update.2 (hf _ _ hw)

theorem brings_talk {p : Talk α} (hp : ∀ es s es₁ a, J es s → Run p es₁ a → K (es ++ es₁) s) :
    Brings J (talk p) K E :=
  fun _ _ hw => always_talk.2 fun es₁ a hr => hp _ _ es₁ a hw hr

theorem brings_stuck : Brings J (talk .stuck : Handler α) K E :=
  brings_talk fun _ _ _ _ _ hr => absurd hr not_run_stuck

theorem brings_check {r : Except IoError α} (hE : ∀ e es s, J es s → E e es s) :
    Brings J (check r) J E := by
  cases r with
  | ok a => exact brings_pure
  | error e => exact brings_fail (hE _)

theorem brings_attempt {p : Talk (Except IoError α)}
    (hp : ∀ es s es₁ a, J es s → Run p es₁ a → K (es ++ es₁) s)
    (hE : ∀ e es s, K es s → E e es s) : Brings J (attempt p) K E :=
  brings_bind (brings_talk hp) fun _ => brings_check hE

/-- A handler goes on with an outcome that does not end the session yet. -/
theorem brings_outcome_bind {f : Except SessionError α → Handler β} (hh : Brings J h K E')
    (hok : ∀ a, Brings K (f (.ok a)) L E) (herror : ∀ e, Brings (E' e) (f (.error e)) L E) :
    Brings J (outcome h >>= f) L E := fun w es hw =>
  always_bind.2 (always_outcome.2 ((hh w es hw).imp (fun a w' es' hK => hok a w' es' hK)
    fun e w' es' hE => herror e w' es' hE))

end

section
variable (hJ : Enduring J)
include hJ

theorem brings_ask {c : SessionCall} (hc : c.isPlain = true) : Brings J (ask c) J E :=
  brings_talk fun es s es₁ a hs hr => by
    rw [run_call_iff.1 hr]
    exact hJ.call hs hc

theorem brings_log {mark : LogMark} {level : LogLevel} {source : LogSource} {text : String} :
    Brings J (talk (Talk.log mark level source text)) J E :=
  brings_talk fun es s es₁ a hs hr => by
    rw [run_log_iff.1 hr]
    exact hJ.call hs rfl

theorem brings_alike {f : Session → Session} (hf : ∀ s, (f s).outline = s.outline) :
    Brings J (update f) J E :=
  brings_update fun _ s hs => hJ.alike hs (hf s)

variable (hE : ∀ e es s, J es s → E e es s)
include hE

theorem brings_onClientStream {f : Stream → Talk (Except IoError α × Stream)}
    (hf : ∀ stream es r stream', Run (f stream) es (r, stream') →
      Transcript.Plain es ∧ stream'.socket = stream.socket) : Brings J (onClientStream f) J E := by
  intro w es hw
  rw [always_onClientStream]
  intro es₁ r stream hr
  obtain ⟨hplain, hsocket⟩ := hf _ _ _ _ hr
  have hkept : J (es ++ es₁) (w.session.withClientStream stream) :=
    hJ.alike (hJ.calls hw hplain) (Session.outline_withClientStream hsocket)
  cases r with
  | ok a => exact hkept
  | error e => exact hE _ _ _ hkept

theorem brings_onRemoteStream {f : Stream → Talk (Except IoError α × Stream)}
    (hf : ∀ stream es r stream', Run (f stream) es (r, stream') →
      Transcript.Plain es ∧ stream'.socket = stream.socket) : Brings J (onRemoteStream f) J E := by
  intro w es hw
  cases hs : w.session.remoteStream? with
  | some stream =>
    rw [always_onRemoteStream stream hs]
    intro es₁ r stream' hr
    obtain ⟨hplain, hsocket⟩ := hf _ _ _ _ hr
    have hkept : J (es ++ es₁) (w.session.withRemoteStream stream') :=
      hJ.alike (hJ.calls hw hplain) (Session.outline_withRemoteStream hs hsocket)
    cases r with
    | ok a => exact hkept
    | error e => exact hE _ _ _ hkept
  | none =>
    unfold onRemoteStream
    rw [always_bind, always_session]
    split
    · next out hout =>
      rw [Session.remoteStream?, hout] at hs
      rw [show out.stream = none from hs]
      exact always_pure.2 hw
    · exact always_pure.2 hw

/-! ## The client -/

theorem brings_receive {stream : Stream} : Brings J (attempt (stream.receive ctx.turns)) J E :=
  brings_attempt (fun _ _ _ _ hs hr => hJ.calls hs (Stream.receive_plain hr)) hE

theorem brings_sendOnClient {data : Bytes} :
    Brings J (onClientStream (·.send ctx.turns data)) J E :=
  brings_onClientStream hJ hE fun _ _ _ _ => Stream.send_plain

theorem brings_resumeClient : Brings J (onClientStream (·.resume)) J E :=
  brings_onClientStream hJ hE fun _ _ _ _ => Stream.resume_plain

theorem brings_settleClient : Brings J (onClientStream (·.settle)) J E :=
  brings_onClientStream hJ hE fun _ _ _ _ => Stream.settle_plain

theorem brings_resumeRemote : Brings J (onRemoteStream (·.resume)) J E :=
  brings_onRemoteStream hJ hE fun _ _ _ _ => Stream.resume_plain

theorem brings_sendClient {data : Bytes} : Brings J (sendClient ctx data) J E :=
  brings_bind (brings_sendOnClient hJ hE) fun _ => brings_settleClient hJ hE

omit hE in
theorem brings_sendLast {data : Bytes} : Brings J (sendLast ctx data) J E := by
  intro w es hw
  simp only [sendLast, always_bind, always_session, always_talk, always_update]
  rintro es₁ ⟨r, stream⟩ hr
  obtain ⟨hplain, hsocket⟩ := Stream.send_plain hr
  have hkept : J (es ++ es₁) (w.session.withClientStream stream) :=
    hJ.alike (hJ.calls hw hplain) (Session.outline_withClientStream hsocket)
  cases r with
  | ok f => exact always_pure.2 hkept
  | error e => exact brings_log hJ ⟨_, w.ids⟩ _ hkept

/-- The client is told why the session ends. -/
theorem brings_farewell {data : Bytes} {e : SessionError} :
    Brings J (do sendLast ctx data; fail e : Handler α) K E :=
  brings_bind (brings_sendLast hJ) fun _ => brings_fail (hE e)

theorem brings_behindEvent {socket : Socket} {f : α → Handler β} :
    Brings J (do
      let a ← fail (.transport (IoError.behindEvent (← ask (.pendingError socket))))
      f a) K E :=
  brings_bind (brings_ask hJ rfl) fun _ => brings_fail_bind (hE _)

theorem brings_flushClient : Brings J (flushClient ctx) J E := by
  refine brings_bind (brings_onClientStream hJ hE fun _ _ _ _ => Stream.flush_plain) fun x => ?_
  cases x with
  | pending => exact brings_pure
  | drained =>
    refine brings_bind (brings_resumeClient hJ hE) fun _ => brings_session fun s => ?_
    split
    · exact brings_bind (brings_resumeRemote hJ hE) fun _ => brings_pure
    · exact brings_pure

theorem brings_discard : Brings J (discard ctx) J E := by
  have hreads (n discarded : Nat) : Brings J (discardReads ctx n discarded) J E := by
    induction n generalizing discarded with
    | zero => exact brings_pure
    | succ n ih =>
      refine brings_session fun s => brings_bind (brings_receive hJ hE) fun x => ?_
      cases x with
      | data b => exact ih _
      | wouldBlock => exact brings_pure
      | closed => exact brings_fail (hE _)
  refine brings_bind (hreads _ _) fun x => ?_
  have hrest : Brings J (if !x.2 then onClientStream (·.resume) else pure () : Handler Unit) J E := by
    split
    · exact brings_resumeClient hJ hE
    · exact brings_pure
  dsimp only
  split
  · exact brings_session fun s => brings_bind (brings_log hJ) fun _ => hrest
  · exact hrest

/-! ## Tunnels -/

theorem brings_pumpClient {turns : Nat} : Brings J (pumpClient ctx turns) J E := by
  induction turns with
  | zero => exact brings_stuck
  | succ turns ih =>
    refine brings_session fun s => ?_
    split
    · exact brings_pure
    · split
      · exact brings_pure
      · refine brings_bind (brings_receive hJ hE) fun x => ?_
        cases x with
        | wouldBlock => exact brings_pure
        | closed => exact brings_fail (hE _)
        | data b =>
          refine brings_bind (brings_onRemoteStream hJ hE fun _ _ _ _ => Stream.send_plain) fun y => ?_
          split
          · exact brings_bind (brings_onRemoteStream hJ hE fun _ _ _ _ => Stream.settle_plain)
              fun _ => brings_pure
          · exact ih

theorem brings_pumpRemote {turns : Nat} : Brings J (pumpRemote ctx turns) J E := by
  induction turns with
  | zero => exact brings_stuck
  | succ turns ih =>
    refine brings_session fun s => ?_
    split
    · exact brings_pure
    · split
      · exact brings_pure
      · refine brings_bind (brings_receive hJ hE) fun x => ?_
        cases x with
        | wouldBlock => exact brings_pure
        | closed => exact brings_fail (hE _)
        | data b =>
          refine brings_bind (brings_sendOnClient hJ hE) fun y => ?_
          cases y with
          | pending => exact brings_settleClient hJ hE
          | drained => exact ih

theorem brings_onTunnel {r : Readiness} : Brings J (onTunnel ctx r) J E := by
  refine brings_session fun s => ?_
  split
  · exact brings_pure
  · have hread : Brings J (if r.readable then pumpRemote ctx ctx.turns else pure () : Handler Unit)
        J E := by
      split
      · exact brings_pumpRemote hJ hE
      · exact brings_pure
    dsimp only
    split
    · exact brings_behindEvent hJ hE
    · split
      · exact brings_fail_bind (hE _)
      · split
        · refine brings_bind (brings_onRemoteStream hJ hE fun _ _ _ _ => Stream.flush_plain) fun x => ?_
          split
          · exact brings_bind (brings_resumeRemote hJ hE) fun _ =>
              brings_bind (brings_resumeClient hJ hE) fun _ => hread
          · exact hread
        · exact hread

end

/-! ## Associations -/

section
variable {relay : Relay} {remote : Socket} {datagram payload : Bytes} {source : Endpoint}
  (hJ : Enduring J) (hE : ∀ e es s, J es s → E e es s)
  (hsent : ∀ es s es₁ socket data dest r, J es s → Run (Talk.sendTo ctx.turns socket data dest) es₁ r →
    J (es ++ es₁) s)
include hJ hE hsent

/-- A datagram is sent, or cannot be sent now. The sockets stay with the session. -/
theorem brings_post {P : Session → Prop} {socket : Socket} {data : Bytes} {dest : Endpoint}
    {level : LogLevel} {text : String} :
    Brings (fun es s => J es s ∧ P s)
      (do if !(← attempt (Talk.sendTo ctx.turns socket data dest)) then log level text : Handler Unit)
      (fun es s => J es s ∧ P s) E := by
  refine brings_bind (K := fun es s => J es s ∧ P s)
    (brings_attempt (fun _ _ _ _ h hr => ⟨hsent _ _ _ _ _ _ _ h.1 hr, h.2⟩) fun e _ _ h => hE e _ _ h.1)
    fun sent => ?_
  split
  · exact brings_talk fun _ _ _ _ h hr => by
      rw [run_log_iff.1 hr]
      exact ⟨hJ.call h.1 rfl, h.2⟩
  · exact brings_pure

theorem brings_forward
    (hports : ∀ es s ports, J es s → s.relay = some relay → J es { s with relay := some { relay with ports } }) :
    Brings (fun es s => J es s ∧ s.relay = some relay ∧ s.remote = some (.datagram remote))
      (forward ctx relay remote datagram source)
      (fun es s => J es s ∧ s.remote = some (.datagram remote)) E := by
  have hlog {level : LogLevel} {text : String} :
      Brings (fun es s => J es s ∧ s.remote = some (.datagram remote)) (log level text)
        (fun es s => J es s ∧ s.remote = some (.datagram remote)) E :=
    brings_talk fun _ _ _ _ h hr => by
      rw [run_log_iff.1 hr]
      exact ⟨hJ.call h.1 rfl, h.2⟩
  unfold forward
  dsimp only
  refine brings_bind (K := fun es s => J es s ∧ s.remote = some (.datagram remote))
    (brings_update fun es s h => ⟨hports _ _ _ h.1 h.2.1, h.2.2⟩) fun _ => ?_
  split
  · refine brings_session fun s => ?_
    split
    · exact hlog
    · exact brings_post hJ hE hsent
  · exact hlog

theorem brings_deliver :
    Brings (fun es s => J es s ∧ s.relay = some relay ∧ s.remote = some (.datagram remote))
      (deliver ctx relay payload source)
      (fun es s => J es s ∧ s.relay = some relay ∧ s.remote = some (.datagram remote)) E := by
  unfold deliver
  split
  · exact brings_post hJ hE hsent
  · exact brings_talk fun _ _ _ _ h hr => by
      rw [run_log_iff.1 hr]
      exact ⟨hJ.call h.1 rfl, h.2⟩

end

end Handler

/-! ## What is upheld -/

namespace Session

theorem outline_withOutgoing_congr {s s' : Session} {out : Outgoing} (h : s'.outline = s.outline) :
    (s'.withOutgoing out).outline = (s.withOutgoing out).outline := by
  unfold outline at h ⊢
  simp only [Outline.mk.injEq] at h
  obtain ⟨hrank, hpeer, hlocal, hclient, hrelay, -, hlookups⟩ := h
  simp only [withOutgoing_stage, withOutgoing_client, withOutgoing_relay, withOutgoing_remote,
    withOutgoing_lookups, hrank, hpeer, hlocal, hclient, hrelay, hlookups]

end Session

theorem Session.lookup_of_find {s : Session} {slot : Fin Role.maxQueries}
    (h : s.lookups.findFinIdx? (·.isNone) = some slot) : s.lookups.get slot = none := by
  obtain ⟨index, hindex, rfl⟩ := Option.map_eq_some_iff.1 h
  exact Option.isNone_iff_eq_none.1 (Array.findFinIdx?_eq_some_iff.1 hindex).1

/-- What holds while candidates are tried: it would hold with the outbound stream as it is by then. -/
theorem Enduring.withOutgoing {J : Transcript → Session → Prop} (hJ : Enduring J) (out : Outgoing) :
    Enduring fun es s => J es (s.withOutgoing out) where
  call h he := hJ.call h he
  alike h heq := hJ.alike h (Session.outline_withOutgoing_congr heq)

/-- What holds is upheld by all handlers: besides what it endures, it was looked at wherever sockets are
    opened or closed and datagrams are moved. `E` holds of a session that a handler has ended. -/
structure Upheld (ctx : Context) (J : Transcript → Session → Prop)
    (E : SessionError → Transcript → Session → Prop) : Prop where
  enduring : Enduring J
  fails : ∀ e es s, J es s → E e es s
  lasts : ∀ e, Enduring (E e)
  /-- A message that is cut short need not end the session. -/
  cut : ∀ {needed available es s}, E (.violation (.truncated needed available)) es s → J es s
  advances : ∀ {es s} {stage : Stage}, J es s → s.stage.rank ≤ stage.rank → J es { s with stage }
  /-- The socket for a query could not be opened. -/
  missesQuery : ∀ {es s es₁ addr e} {slot : Fin Role.maxQueries}, J es s → s.lookups.get slot = none →
    Run (Talk.openDatagram ⟨.query slot, 0⟩ addr) es₁ (.error e) → J (es ++ es₁) s
  /-- The query has not left. -/
  withdraws : ∀ {es s es₁ es₂ es₃ addr data dest r} {e : SessionError} {slot : Fin Role.maxQueries},
    J es s → s.stage.rank = 0 → s.lookups.get slot = none →
    Run (Talk.openDatagram ⟨.query slot, 0⟩ addr) es₁ (.ok ()) →
    Run (Talk.sendTo ctx.turns ⟨.query slot, 0⟩ data dest) es₂ r →
    Run (Talk.deregister ⟨.query slot, 0⟩) es₃ () → e.IsFinal → E e (es ++ es₁ ++ es₂ ++ es₃) s
  queries : ∀ {es s es₁ es₂ addr data server id name} {slot : Fin Role.maxQueries}, J es s →
    s.stage.rank = 0 → s.lookups.get slot = none →
    Run (Talk.openDatagram ⟨.query slot, 0⟩ addr) es₁ (.ok ()) →
    Run (Talk.sendTo ctx.turns ⟨.query slot, 0⟩ data server) es₂ (.ok true) →
    J (es ++ es₁ ++ es₂)
      { s with lookups := s.lookups.set slot.val (some ⟨⟨.query slot, 0⟩, server, id, name⟩) slot.isLt }
  waits : ∀ {es s es₁ x} {slot : Nat} {lookup : Lookup}, J es s →
    s.lookups[slot]? = some (some lookup) →
    Run (Talk.receiveFrom ctx.turns lookup.socket Handler.datagramSize) es₁ x → J (es ++ es₁) s
  closesLookups : ∀ {es s es₁}, J es s → s.stage.rank = 1 →
    Run (Talk.deregisterAll s.lookupSockets) es₁ () →
    J (es ++ es₁) { s with lookups := .replicate _ none }
  connects : ∀ {es s candidates}, J es s → s.stage.rank ≤ 1 →
    J es { s with
      stage := .connecting
      inbound := []
      remote := some (.stream ⟨Attempts.new candidates, none, s.inbound⟩) }
  opens : ∀ {es es₁} {s : Session} {a : Attempts} {target rest early stream},
    J es (s.withOutgoing ⟨a, none, early⟩) →
    Run (Talk.openStream ⟨.remote, a.started⟩ target ctx.settings.remoteTcp) es₁ (.ok stream) →
    J (es ++ es₁) (s.withOutgoing ⟨a.begin target rest, some stream, early⟩)
  misses : ∀ {es es₁} {s : Session} {a : Attempts} {target rest early e},
    J es (s.withOutgoing ⟨a, none, early⟩) →
    Run (Talk.openStream ⟨.remote, a.started⟩ target ctx.settings.remoteTcp) es₁ (.error e) →
    J (es ++ es₁) (s.withOutgoing ⟨a.begin target rest, none, early⟩)
  abandons : ∀ {es es₁} {s : Session} {out : Outgoing} {stream : Stream}, J es s →
    s.remote = some (.stream out) → out.stream = some stream → Run stream.close es₁ () →
    J (es ++ es₁) (s.withOutgoing { out with stream := none })
  /-- The socket that is to face the client could not be opened. -/
  missesRelay : ∀ {es s es₁ addr e}, J es s → s.stage.rank ≤ 1 →
    Run (Talk.openDatagram ⟨.relay, 0⟩ addr) es₁ (.error e) → E (.transport e) (es ++ es₁) s
  /-- The socket that faces the client does not tell its address. -/
  unboundRelay : ∀ {es s es₁ addr e}, J es s → s.stage.rank ≤ 1 →
    Run (Talk.openDatagram ⟨.relay, 0⟩ addr) es₁ (.ok ()) →
    E (.transport e)
      (es ++ es₁ ++ [⟨.localAddress ⟨.relay, 0⟩, (.error e : Except IoError Endpoint)⟩]) s
  /-- The socket that is to face the remote side could not be opened. -/
  halfAssociates : ∀ {es s es₁ es₂ addr addr' bound e}, J es s → s.stage.rank ≤ 1 →
    Run (Talk.openDatagram ⟨.relay, 0⟩ addr) es₁ (.ok ()) →
    Run (Talk.openDatagram ⟨.remote, 0⟩ addr') es₂ (.error e) →
    E (.transport e)
      (es ++ es₁ ++ [⟨.localAddress ⟨.relay, 0⟩, (.ok bound : Except IoError Endpoint)⟩] ++ es₂)
      { s with relay := some ⟨⟨.relay, 0⟩, PortMap.new s.client.peer.ip⟩ }
  associates : ∀ {es s es₁ es₂ addr addr' bound}, J es s → s.stage.rank ≤ 1 →
    Run (Talk.openDatagram ⟨.relay, 0⟩ addr) es₁ (.ok ()) →
    Run (Talk.openDatagram ⟨.remote, 0⟩ addr') es₂ (.ok ()) →
    J (es ++ es₁ ++ [⟨.localAddress ⟨.relay, 0⟩, (.ok bound : Except IoError Endpoint)⟩] ++ es₂)
      { s with
        stage := .associated
        remote := some (.datagram ⟨.remote, 0⟩)
        relay := some ⟨⟨.relay, 0⟩, PortMap.new s.client.peer.ip⟩
        inbound := [] }
  /-- No datagram of the client is there. -/
  awaitsClient : ∀ {es s es₁ relay x}, J es s → s.relay = some relay →
    Run (Talk.receiveFrom ctx.turns relay.socket Handler.datagramSize) es₁ x →
    (∀ found, x ≠ .ok (some found)) → J (es ++ es₁) s
  forwards : ∀ {es s es₁ relay remote datagram source}, J es s → s.relay = some relay →
    s.remote = some (.datagram remote) →
    Run (Talk.receiveFrom ctx.turns relay.socket Handler.datagramSize) es₁
      (.ok (some (datagram, source))) →
    ∀ ids, (Handler.forward ctx relay remote datagram source).Always ⟨s, ids⟩ (es ++ es₁)
      (fun _ w' es' => J es' w'.session ∧ w'.session.remote = some (.datagram remote))
      (fun e w' es' => E e es' w'.session)
  /-- No datagram of the remote side is there. -/
  awaitsRemote : ∀ {es s es₁ remote x}, J es s → s.remote = some (.datagram remote) →
    Run (Talk.receiveFrom ctx.turns remote Handler.datagramSize) es₁ x →
    (∀ found, x ≠ .ok (some found)) → J (es ++ es₁) s
  delivers : ∀ {es s es₁ relay remote payload source}, J es s → s.relay = some relay →
    s.remote = some (.datagram remote) →
    Run (Talk.receiveFrom ctx.turns remote Handler.datagramSize) es₁ (.ok (some (payload, source))) →
    ∀ ids, (Handler.deliver ctx relay payload source).Always ⟨s, ids⟩ (es ++ es₁)
      (fun _ w' es' => J es' w'.session ∧ w'.session.relay = some relay ∧
        w'.session.remote = some (.datagram remote))
      (fun e w' es' => E e es' w'.session)

namespace Upheld

variable {ctx : Context} {J : Transcript → Session → Prop}
  {E : SessionError → Transcript → Session → Prop} {early : Bytes} {r : Readiness}

section
variable (u : Upheld ctx J E)
include u

open Handler

/-- From the handshake, a session can come to every stage. -/
theorem advances_first {es : Transcript} {s : Session} {stage : Stage}
    (h : J es s ∧ s.stage.rank = 0) : J es { s with stage } :=
  u.advances h.1 (by rw [h.2]; exact Nat.zero_le _)

/-! ### Relaying datagrams -/

theorem associate_brings :
    Brings (fun es s => J es s ∧ s.stage.rank ≤ 1) (associate ctx) J E := by
  rintro ⟨s, ids⟩ es ⟨hs, hrank⟩
  unfold associate
  rw [always_bind, always_session, always_bind, always_attempt]
  intro es₁ r₁ h₁
  cases r₁ with
  | error e => exact u.missesRelay hs hrank h₁
  | ok _ =>
    refine always_bind.2 (always_ask.2 fun (bound : Except IoError Endpoint) =>
      always_bind.2 (always_check.2 ?_))
    cases bound with
    | error e => exact u.unboundRelay hs hrank h₁
    | ok bound =>
      simp only
      rw [always_bind, always_update, always_bind, always_attempt]
      intro es₂ r₂ h₂
      cases r₂ with
      | error e => exact u.halfAssociates hs hrank h₁ h₂
      | ok _ =>
        simp only
        rw [always_bind, always_update]
        have hdone : J (es ++ es₁ ++
              [⟨.localAddress ⟨.relay, 0⟩, (.ok bound : Except IoError Endpoint)⟩] ++ es₂)
            { s with
              stage := .associated
              remote := some (.datagram ⟨.remote, 0⟩)
              relay := some ⟨⟨.relay, 0⟩, PortMap.new s.client.peer.ip⟩
              inbound := [] } :=
          u.associates hs hrank h₁ h₂
        exact brings_bind (brings_log u.enduring) (fun _ => brings_sendClient u.enduring u.fails) _ _
          hdone

theorem forwardAll_brings {remote : Socket} {turns : Nat} :
    Brings (fun es s => J es s ∧ s.remote = some (.datagram remote)) (forwardAll ctx remote turns)
      J E := by
  induction turns with
  | zero => exact brings_stuck
  | succ turns ih =>
    refine brings_session_bind fun s => ?_
    split
    · exact brings_pure.of_imp fun _ _ hs => hs.1.1
    · next relay hrelay =>
      rintro ⟨_, ids⟩ es ⟨⟨hs, hremote⟩, rfl⟩
      rw [always_bind, always_attempt]
      intro es₁ r hr
      rcases r with e | _ | ⟨datagram, source⟩
      · exact u.fails _ _ _ (u.awaitsClient hs hrelay hr (by simp))
      · exact always_pure.2 (u.awaitsClient hs hrelay hr (by simp))
      · exact always_bind.2 ((u.forwards hs hrelay hremote hr ids).imp (fun _ w' es' h => ih w' es' h)
          fun _ _ _ h => h)

theorem deliverAll_brings {relay : Relay} {remote : Socket} {turns : Nat} :
    Brings (fun es s => J es s ∧ s.relay = some relay ∧ s.remote = some (.datagram remote))
      (deliverAll ctx relay remote turns) J E := by
  induction turns with
  | zero => exact brings_stuck
  | succ turns ih =>
    rintro ⟨s, ids⟩ es ⟨hs, hrelay, hremote⟩
    rw [deliverAll, always_bind, always_attempt]
    intro es₁ r hr
    rcases r with e | _ | ⟨payload, source⟩
    · exact u.fails _ _ _ (u.awaitsRemote hs hremote hr (by simp))
    · exact always_pure.2 (u.awaitsRemote hs hremote hr (by simp))
    · exact always_bind.2 ((u.delivers hs hrelay hremote hr ids).imp (fun _ w' es' h => ih w' es' h)
        fun _ _ _ h => h)

theorem onRelay_brings : Brings J (onRelay ctx r) J E := by
  refine brings_session_bind fun s => ?_
  split
  · exact brings_pure.of_imp fun _ _ hs => hs.1
  · dsimp only
    split
    · exact (brings_behindEvent u.enduring u.fails).of_imp fun _ _ hs => hs.1
    · split
      · next remote hremote =>
        refine u.forwardAll_brings.of_imp ?_
        rintro es _ ⟨hs, rfl⟩
        exact ⟨hs, hremote⟩
      · exact brings_pure.of_imp fun _ _ hs => hs.1

theorem onRemoteDatagram_brings {remote : Socket} :
    Brings (fun es s => J es s ∧ s.remote = some (.datagram remote)) (onRemoteDatagram ctx r remote)
      J E := by
  unfold onRemoteDatagram
  split
  · exact (brings_behindEvent u.enduring u.fails).of_imp fun _ _ hs => hs.1
  · refine brings_session_bind fun s => ?_
    split
    · exact brings_pure.of_imp fun _ _ hs => hs.1.1
    · next relay hrelay =>
      refine u.deliverAll_brings.of_imp ?_
      rintro es _ ⟨⟨hs, hremote⟩, rfl⟩
      exact ⟨hs, hrelay, hremote⟩

/-! ### Connecting -/

theorem tryEach_brings {candidates : List Endpoint} {a : Attempts} :
    Brings (fun es s => J es (s.withOutgoing ⟨a, none, early⟩)) (tryEach ctx early candidates a)
      J E := by
  induction candidates generalizing a with
  | nil =>
    refine brings_bind (brings_update fun _ _ hs => hs) fun _ => ?_
    exact brings_farewell u.enduring u.fails
  | cons target rest ih =>
    refine brings_bind (brings_log (u.enduring.withOutgoing _)) fun _ => ?_
    intro w es hw
    rw [always_bind, always_talk]
    intro es₁ x hr
    cases x with
    | ok stream => exact always_update.2 (u.opens hw hr)
    | error e =>
      have hmiss : J (es ++ es₁) (w.session.withOutgoing ⟨a.begin target rest, none, early⟩) :=
        u.misses hw hr
      have hnext : J (es ++ es₁)
          (w.session.withOutgoing ⟨(a.begin target rest).failed e, none, early⟩) :=
        u.enduring.alike hmiss rfl
      exact brings_bind (brings_log (u.enduring.withOutgoing _)) (fun _ => ih) w _ hnext

theorem startConnect_brings {candidates : List Endpoint} :
    Brings (fun es s => J es s ∧ s.stage.rank ≤ 1) (startConnect ctx candidates) J E := by
  refine brings_session_bind fun s => brings_bind
    (K := fun es s' => J es (s'.withOutgoing ⟨Attempts.new candidates, none, s.inbound⟩))
    (brings_update ?_) fun _ => u.tryEach_brings
  rintro es s' ⟨⟨hs, hrank⟩, rfl⟩
  exact u.connects hs hrank

theorem fulfil_brings {intent : Intent} {candidates : List Endpoint} :
    Brings (fun es s => J es s ∧ s.stage.rank ≤ 1) (fulfil ctx intent candidates) J E := by
  cases intent with
  | connect => exact u.startConnect_brings
  | associate => exact u.associate_brings

theorem abandon_brings {out : Outgoing} {why : IoError} :
    Brings (fun es s => J es s ∧ s.remote = some (.stream out)) (abandon ctx out why) J E := by
  have hclosed {es : Transcript} {s : Session} (hs : J es (s.withOutgoing { out with stream := none })) :
      J es (s.withOutgoing ⟨out.attempts.failed why, none, out.early⟩) :=
    u.enduring.alike hs rfl
  unfold Handler.abandon
  split
  · next stream hstream =>
    exact brings_bind (brings_talk fun es s es₁ x hs hr =>
      hclosed (u.abandons hs.1 hs.2 hstream hr)) fun _ => u.tryEach_brings
  · next hstream =>
    refine u.tryEach_brings.of_imp fun es s hs => hclosed (u.enduring.alike hs.1 ?_)
    exact Session.outline_withOutgoing hs.2 rfl (by rw [hstream])

theorem establish_brings {out : Outgoing} {stream : Stream} {peer : Endpoint} (hout : out.stream = some stream) :
    Brings (fun es s => J es s ∧ s.stage.rank ≤ 2 ∧ s.remote = some (.stream out))
      (establish ctx out stream peer) J E := by
  have hJ := u.enduring.at_rank (· ≤ 2)
  have hE (e : SessionError) (es : Transcript) (s : Session) (h : J es s ∧ s.stage.rank ≤ 2) :
      E e es s := u.fails e es s h.1
  refine brings_bind (K := fun es s => J es s ∧ s.stage.rank ≤ 2) (brings_update ?_) fun _ => ?_
  · rintro es s ⟨hs, hrank, hremote⟩
    exact ⟨u.enduring.alike hs (Session.outline_withOutgoing hremote rfl (by rw [hout]; rfl)), hrank⟩
  refine brings_bind (brings_ask hJ rfl) fun r => brings_bind (brings_check hE) fun bound => ?_
  refine brings_bind (brings_onRemoteStream hJ hE fun _ _ _ _ => Stream.flush_plain) fun _ => ?_
  refine brings_bind (brings_resumeRemote hJ hE) fun _ => ?_
  refine brings_bind (brings_log hJ) fun _ => brings_bind (brings_ask hJ rfl) fun _ => ?_
  refine brings_bind (brings_update fun _ _ hs => u.advances hs.1 (Nat.le_succ_of_le hs.2)) fun _ => ?_
  exact brings_bind (brings_sendClient u.enduring u.fails) fun _ =>
    brings_resumeClient u.enduring u.fails

theorem onAttempt_brings {out : Outgoing} :
    Brings (fun es s => J es s ∧ s.stage.rank ≤ 2 ∧ s.remote = some (.stream out))
      (onAttempt ctx r out) J E := by
  have habandon {why : IoError} : Brings
      (fun es s => J es s ∧ s.stage.rank ≤ 2 ∧ s.remote = some (.stream out)) (abandon ctx out why) J E :=
    u.abandon_brings.of_imp fun _ _ hs => ⟨hs.1, hs.2.2⟩
  have habandonFailed {why : IoError} : Brings
      (fun es s => J es s ∧ s.stage.rank ≤ 2 ∧ s.remote = some (.stream out))
      (abandonFailed ctx out why) J E := by
    refine brings_bind (brings_talk fun _ _ _ _ hs hr => ?_) fun _ => habandon
    rw [run_log_iff.1 hr]
    exact ⟨u.enduring.call hs.1 rfl, hs.2⟩
  unfold onAttempt
  split
  · exact habandonFailed
  · next stream hout =>
    refine brings_bind (K := fun es s => J es s ∧ s.stage.rank ≤ 2 ∧ s.remote = some (.stream out))
      (brings_talk fun _ _ _ _ hs hr => ⟨u.enduring.calls hs.1 (Talk.peerOf_plain hr), hs.2⟩)
      fun x => ?_
    split
    · exact u.establish_brings hout
    · split
      · exact habandon
      · exact brings_pure.of_imp fun _ _ hs => hs.1
    · exact habandonFailed

/-! ### Resolving -/

theorem startLookup_brings {name : DomainName} {server : Endpoint} :
    Brings (fun es s => J es s ∧ s.stage.rank = 0) (startLookup ctx name server)
      (fun es s => J es s ∧ s.stage.rank = 0)
      fun e es s => E e es s ∧ ∀ what, e = .exhausted what → J es s := by
  rintro ⟨s, ids⟩ es ⟨hs, hrank⟩
  refine (startLookup_cases.shift es).imp ?_ ?_
  · rintro _ w' _ ⟨es₁, rfl, h⟩
    cases h with
    | sent hslot _ h₁ h₂ =>
      rw [← List.append_assoc, ← List.append_assoc]
      exact ⟨u.enduring.call (u.queries hs hrank (Session.lookup_of_find hslot) h₁ h₂) rfl, hrank⟩
  · rintro e w' _ ⟨es₁, rfl, h⟩
    cases h with
    | full => exact ⟨u.fails _ _ _ (by rwa [List.append_nil]), fun _ _ => by rwa [List.append_nil]⟩
    | unasked => exact ⟨u.fails _ _ _ (by rwa [List.append_nil]), nofun⟩
    | unopened hslot h₁ =>
      exact ⟨u.fails _ _ _ (u.missesQuery hs (Session.lookup_of_find hslot) h₁), nofun⟩
    | unsent hslot h₁ h₂ _ h₃ hfinal hne =>
      rw [← List.append_assoc, ← List.append_assoc]
      exact ⟨u.withdraws hs hrank (Session.lookup_of_find hslot) h₁ h₂ h₃ hfinal,
        fun what he => absurd he (hne what)⟩

theorem resolve_brings {name : DomainName} {request : PendingRequest} :
    Brings (fun es s => J es s ∧ s.stage.rank = 0) (resolve ctx name request) J E := by
  unfold Handler.resolve
  split
  · exact (brings_farewell u.enduring u.fails).of_imp fun _ _ hs => hs.1
  · refine brings_outcome_bind u.startLookup_brings (fun _ => ?_) fun e => ?_
    · refine brings_update fun es s hs => ?_
      have hpending : J es { s with pending := some request } := u.enduring.alike hs.1 rfl
      exact u.advances_first ⟨hpending, hs.2⟩
    · split
      · next heq => nomatch heq
      · next what heq =>
        cases heq
        exact (brings_log u.enduring).of_imp fun _ _ hs => hs.2 _ rfl
      · next heq =>
        cases heq
        refine Brings.of_imp ?_ fun _ _ hs => hs.1
        exact brings_bind (brings_sendLast (u.lasts _)) fun _ => brings_fail fun _ _ h => h

theorem receiveAnswer_brings {slot : Nat} {lookup : Lookup} {turns : Nat} {s : Session}
    (hs : s.lookups[slot]? = some (some lookup)) :
    Brings (fun es s' => J es s' ∧ s' = s) (receiveAnswer ctx lookup turns)
      (fun es s' => J es s' ∧ s' = s) (fun _ es s' => J es s' ∧ s' = s) := by
  induction turns with
  | zero => exact brings_stuck
  | succ turns ih =>
    have hlog {mark level source text} : Brings (fun es s' => J es s' ∧ s' = s)
        (talk (Talk.log mark level source text)) (fun es s' => J es s' ∧ s' = s)
        (fun _ es s' => J es s' ∧ s' = s) :=
      brings_talk fun _ _ _ _ h hr => by
        rw [run_log_iff.1 hr]
        exact ⟨u.enduring.call h.1 rfl, h.2⟩
    refine brings_bind (brings_attempt ?_ fun _ _ _ h => h) fun x => ?_
    · rintro es _ es₁ x ⟨h, rfl⟩ hr
      exact ⟨u.waits h hs hr, rfl⟩
    · split
      · exact brings_pure
      · split
        · exact brings_bind hlog fun _ => ih
        · split
          · exact brings_pure
          · exact brings_bind hlog fun _ => ih
          · exact brings_fail fun _ _ h => h

theorem lookupResult_brings {slot : Nat} {lookup : Lookup} {s : Session}
    (hs : s.lookups[slot]? = some (some lookup)) :
    Brings (fun es s' => J es s' ∧ s' = s) (lookupResult ctx lookup r)
      (fun es s' => J es s' ∧ s' = s) (fun _ es s' => J es s' ∧ s' = s) := by
  unfold Handler.lookupResult
  split
  · exact brings_fail fun _ _ h => h
  · exact u.receiveAnswer_brings hs

theorem closeLookups_brings : Brings (fun es s => J es s ∧ s.stage.rank = 1) closeLookups
    (fun es s => J es s ∧ s.stage.rank = 1) E := by
  refine brings_session_bind fun s => ?_
  intro w es hw
  rw [always_bind, always_talk]
  intro es₁ x hr
  refine always_update.2 ⟨u.closesLookups hw.1.1 hw.1.2 ?_, hw.1.2⟩
  rw [hw.2]
  exact hr

theorem onResolved_brings {addresses : List Ip} :
    Brings (fun es s => J es s ∧ s.stage.rank ≤ 1) (onResolved ctx addresses) J E := by
  refine brings_session fun s => ?_
  split
  · exact brings_pure.of_imp fun _ _ hs => hs.1
  · refine brings_bind (brings_update fun _ _ hs => ?_) fun _ => u.fulfil_brings
    exact ⟨u.enduring.alike hs.1 rfl, hs.2⟩

theorem onLookup_brings {slot : Nat} :
    Brings (fun es s => J es s ∧ s.Shaped) (onLookup ctx slot r) J E := by
  refine brings_session_bind fun s => ?_
  split
  · next lookup hs =>
    have hrank (hshaped : s.Shaped) : s.stage.rank = 1 := by
      rw [hshaped.resolving_of_lookup hs]
      rfl
    intro w es ⟨⟨hw, hshaped⟩, rfl⟩
    have hresult := (u.lookupResult_brings (r := r) hs).imp (fun _ _ h => h)
      (fun es s h => (⟨h.1, by rw [h.2]; exact hrank hshaped⟩ : J es s ∧ s.stage.rank = 1))
      fun _ es s h => (⟨h.1, by rw [h.2]; exact hrank hshaped⟩ : J es s ∧ s.stage.rank = 1)
    refine brings_outcome_bind hresult (fun x => ?_) (fun e => ?_) w es ⟨hw, rfl⟩
    · cases x with
      | none => exact brings_pure.of_imp fun _ _ hs => hs.1
      | some addresses =>
        exact brings_bind (brings_log (u.enduring.at_rank (· = 1))) fun _ =>
          brings_bind u.closeLookups_brings fun _ => u.onResolved_brings.of_imp fun _ _ hs =>
            ⟨hs.1, Nat.le_of_eq hs.2⟩
    · exact brings_bind u.closeLookups_brings fun _ =>
        (brings_farewell u.enduring u.fails).of_imp fun _ _ hs => hs.1
  · exact brings_pure.of_imp fun _ _ hs => hs.1.1

/-! ### The handshake -/

theorem onGreeting_brings :
    Brings (fun es s => J es s ∧ s.stage.rank = 0) (onGreeting ctx) J E := by
  have hJ := u.enduring.at_rank (· = 0)
  have hE (e : SessionError) (es : Transcript) (s : Session) (h : J es s ∧ s.stage.rank = 0) :
      E e es s := u.fails e es s h.1
  refine brings_session fun s => ?_
  split
  · split
    · exact brings_bind (brings_sendLast hJ) fun _ => brings_refuse (hE _)
    · exact brings_refuse (hE _)
  · refine brings_bind (brings_alike hJ fun _ => rfl) fun _ => ?_
    split
    · exact brings_bind (brings_sendLast hJ) fun _ => brings_refuse (hE _)
    · refine brings_bind (brings_log hJ) fun _ => brings_bind (brings_sendClient hJ hE) fun _ => ?_
      exact brings_update fun _ _ hs => u.advances_first hs

theorem onCredentials_brings :
    Brings (fun es s => J es s ∧ s.stage.rank = 0) (onCredentials ctx) J E := by
  have hJ := u.enduring.at_rank (· = 0)
  have hE (e : SessionError) (es : Transcript) (s : Session) (h : J es s ∧ s.stage.rank = 0) :
      E e es s := u.fails e es s h.1
  refine brings_session fun s => ?_
  split
  · exact brings_refuse (hE _)
  · refine brings_bind (brings_alike hJ fun _ => rfl) fun _ => ?_
    dsimp only
    split
    · refine brings_bind (brings_log hJ) fun _ => brings_bind (brings_sendClient hJ hE) fun _ => ?_
      exact brings_update fun _ _ hs => u.advances_first hs
    · exact brings_bind (brings_log hJ) fun _ => brings_bind (brings_sendLast hJ) fun _ =>
        brings_refuse (hE _)

theorem onRequest_brings :
    Brings (fun es s => J es s ∧ s.stage.rank = 0) (onRequest ctx) J E := by
  have hJ := u.enduring.at_rank (· = 0)
  have hE (e : SessionError) (es : Transcript) (s : Session) (h : J es s ∧ s.stage.rank = 0) :
      E e es s := u.fails e es s h.1
  have hfulfil {intent : Intent} {candidates : List Endpoint} :
      Brings (fun es s => J es s ∧ s.stage.rank = 0) (fulfil ctx intent candidates) J E :=
    u.fulfil_brings.of_imp fun _ _ hs => ⟨hs.1, by rw [hs.2]; exact Nat.zero_le 1⟩
  refine brings_session fun s => ?_
  split
  · split
    · exact brings_bind (brings_sendLast hJ) fun _ => brings_refuse (hE _)
    · exact brings_refuse (hE _)
  · next request n _ =>
    refine brings_bind (brings_alike hJ fun _ => rfl) fun _ => ?_
    refine brings_bind (brings_log hJ) fun _ => ?_
    dsimp only
    split
    · split
      · exact u.resolve_brings
      · exact hfulfil
      · exact hfulfil
    · split
      · exact u.resolve_brings
      · exact hfulfil
      · exact hfulfil
    · exact brings_bind (brings_sendLast hJ) fun _ => brings_refuse (hE _)

theorem onMessage_brings {stage : Stage} :
    Brings (fun es s => J es s ∧ s.stage.rank = 0) (onMessage ctx stage) J E := by
  unfold onMessage
  split
  · exact u.onGreeting_brings
  · exact u.onCredentials_brings
  · exact u.onRequest_brings

theorem parse_brings {burstDone : Bool} {n : Nat} : Brings J (parse ctx burstDone n) J E := by
  induction n with
  | zero => exact brings_pure
  | succ n ih =>
    refine brings_session_bind fun s => ?_
    split
    · exact brings_pure.of_imp fun _ _ hs => hs.1
    · next hcond =>
      have hst : s.stage.rank = 0 := Stage.rank_eq_zero.2 (by simp_all)
      refine brings_outcome_bind (u.onMessage_brings.of_imp ?_) (fun _ => ih) fun e => ?_
      · rintro es _ ⟨hs, rfl⟩
        exact ⟨hs, hst⟩
      · split
        · next heq => nomatch heq
        · next needed available heq =>
          cases heq
          split
          · exact brings_refuse fun _ _ h => h
          · exact brings_pure.of_imp fun _ _ h => u.cut h
        · next heq =>
          cases heq
          exact brings_fail fun _ _ h => h

theorem parseAll_brings {burstDone : Bool} : Brings J (parseAll ctx burstDone) J E :=
  brings_session fun _ => u.parse_brings

theorem readHandshake_brings {turns : Nat} : Brings J (readHandshake ctx turns) J E := by
  induction turns with
  | zero => exact brings_stuck
  | succ turns ih =>
    refine brings_session fun s => brings_bind (brings_receive u.enduring u.fails) fun x => ?_
    cases x with
    | closed => exact brings_fail (u.fails _)
    | wouldBlock => exact u.parseAll_brings
    | data b =>
      refine brings_bind (brings_alike u.enduring fun _ => rfl) fun _ => ?_
      refine brings_bind u.parseAll_brings fun _ => brings_session fun s' => ?_
      split
      · exact brings_resumeClient u.enduring u.fails
      · split
        · exact brings_refuse (u.fails _)
        · exact ih

/-! ### All sockets -/

theorem readClient_brings : Brings J (readClient ctx) J E := by
  have hhandshake (s : Session) : Brings J
      (if s.client.stream.hasPending then pure () else readHandshake ctx ctx.turns) J E := by
    split
    · exact brings_pure
    · exact u.readHandshake_brings
  refine brings_session fun s => ?_
  split
  · exact hhandshake s
  · exact hhandshake s
  · exact hhandshake s
  · exact brings_pumpClient u.enduring u.fails
  · exact brings_pure
  · exact brings_discard u.enduring u.fails
  · exact brings_discard u.enduring u.fails

theorem onClient_brings : Brings J (onClient ctx r) J E := by
  have hread : Brings J (if r.readable then readClient ctx else pure () : Handler Unit) J E := by
    split
    · exact u.readClient_brings
    · exact brings_pure
  unfold onClient
  dsimp only
  split
  · exact brings_session fun s => brings_behindEvent u.enduring u.fails
  · split
    · exact brings_fail_bind (u.fails _)
    · split
      · exact brings_bind (brings_flushClient u.enduring u.fails) fun _ => hread
      · exact hread

theorem onRemote_brings : Brings J (onRemote ctx r) J E := by
  refine brings_session_bind fun s => ?_
  split
  · exact brings_pure.of_imp fun _ _ hs => hs.1
  · next socket hremote =>
    refine u.onRemoteDatagram_brings.of_imp ?_
    rintro es _ ⟨hs, rfl⟩
    exact ⟨hs, hremote⟩
  · next out hremote =>
    split
    · next hst =>
      refine u.onAttempt_brings.of_imp ?_
      rintro es _ ⟨hs, rfl⟩
      exact ⟨hs, by rw [hst]; decide, hremote⟩
    · exact (brings_onTunnel u.enduring u.fails).of_imp fun _ _ hs => hs.1

theorem onEvent_brings {role : Role} :
    Brings (fun es s => J es s ∧ s.Shaped) (onEvent ctx role r) J E := by
  cases role with
  | client => exact u.onClient_brings.of_imp fun _ _ hs => hs.1
  | remote => exact u.onRemote_brings.of_imp fun _ _ hs => hs.1
  | relay => exact u.onRelay_brings.of_imp fun _ _ hs => hs.1
  | query slot => exact u.onLookup_brings

end

/-! ### Lives -/

variable {h : History} {s : Session}

/-- What holds of every new session holds whenever a handler has let a session go on. -/
theorem life (u : Upheld ctx J E)
    (hstart : ∀ peer es s, Run (Session.start ctx.settings peer) es (.ok s) → J es s)
    (hl : Life ctx h s) : J h.calls s := by
  induction hl with
  | start h =>
    rw [History.calls_turn]
    exact hstart _ _ _ h
  | turn hl h ih =>
    rw [History.calls_append, History.calls_event, History.calls_turn]
    exact u.onEvent_brings ⟨_, _⟩ _ ⟨ih, hl.shaped⟩ _ (.ok ()) _ (handle_goes h)

/-- When a session is closed, what was upheld holds of it, or what holds behind a handler that failed. -/
theorem ended (u : Upheld ctx J E)
    (hstart : ∀ peer es s, Run (Session.start ctx.settings peer) es (.ok s) → J es s)
    (he : Ended ctx h s) :
    ∃ es₁ es₂ e, h.calls = es₁ ++ es₂ ∧ E e es₁ s ∧ Run s.close es₂ () := by
  cases he with
  | stopped hl hclose =>
    rw [History.calls_append, History.calls_turn]
    exact ⟨_, _, .peerClosed, rfl, u.fails _ _ _ (u.life hstart hl), hclose⟩
  | failed hl hrun hclose =>
    obtain ⟨es₁, es₂, e, rfl, hfails, hlog⟩ := handle_fails hrun
    have hend := u.onEvent_brings ⟨_, _⟩ _ ⟨u.life hstart hl, hl.shaped⟩ _ (.error e) _ hfails
    rw [History.calls_append, History.calls_event, History.calls_turn]
    refine ⟨_, _, e, (List.append_assoc ..).symm, ?_, hclose⟩
    rw [← List.append_assoc]
    revert hlog
    cases e <;> intro hlog <;> rw [Handler.run_log_iff.1 hlog] <;> exact (u.lasts _).call hend rfl

end Upheld

end SocksProxy
