/-
  What handlers are made of, and whom they blame for the end of a session.

  `Handler.BuiltFor P draws h` says that `h` is put together from parts that end a session for a fault of
  the client only if the fault is of the kind `P`, and that draw ids for queries only if `draws`. A handler
  is gone through part by part once, and what its parts have in common is shown by induction.

  * Behind the handshake no handler finds fault with the client, and none draws an id (`onLookup_built` and
    so on, for every kind `P`);
  * `onMessage_built`: no message of the handshake is found to be too long;
  * `BuiltFor.blames`: whatever a client does, it is blamed for faults of the kind alone.
-/
import SocksProxy.Proofs.Logic

namespace SocksProxy

open Dialogue

namespace Handler

/-- If the handler ends the session for a fault of the client, the fault is of the kind `P`. -/
def BlamesFor {α : Type} (P : WireError → Prop) (h : Handler α) : Prop :=
  ∀ w es, h.Always w es (fun _ _ _ => True) fun e _ _ => ∀ fault, e = .violation fault → P fault

/-- The parts of the handler blame the client for faults of the kind `P` alone, and draw ids only if
    `draws`. -/
inductive BuiltFor (P : WireError → Prop) (draws : Prop) : {α : Type} → Handler α → Prop where
  | pure {α : Type} {a : α} : BuiltFor P draws (pure a)
  | fail {α : Type} {e : SessionError} :
      (∀ fault, e = .violation fault → P fault) → BuiltFor P draws (fail e : Handler α)
  | session : BuiltFor P draws session
  | update {f : Session → Session} : BuiltFor P draws (update f)
  | talk {α : Type} {p : Talk α} : BuiltFor P draws (talk p)
  | draw : draws → BuiltFor P draws drawId
  | bind {α β : Type} {h : Handler α} {f : α → Handler β} :
      BuiltFor P draws h → (∀ a, BuiltFor P draws (f a)) → BuiltFor P draws (h >>= f)
  /-- A handler that is made to go on has an outcome, which may be a failure that it ended in. -/
  | outcome {α β : Type} {h : Handler α} {f : Except SessionError α → Handler β} :
      BuiltFor P draws h → (∀ a, BuiltFor P draws (f (.ok a))) →
      (∀ e, (∀ fault, e = .violation fault → P fault) → BuiltFor P draws (f (.error e))) →
      BuiltFor P draws (outcome h >>= f)

variable {α β : Type} {P : WireError → Prop} {draws : Prop} {ctx : Context}

/-! ## Whom handlers blame -/

theorem blames_bind {h : Handler α} {f : α → Handler β} (hh : BlamesFor P h)
    (hf : ∀ a, BlamesFor P (f a)) : BlamesFor P (h >>= f) :=
  fun w es => always_bind.2 ((hh w es).imp (fun a w' es' _ => hf a w' es') fun _ _ _ he => he)

theorem blames_ite {c : Prop} [Decidable c] {h h' : Handler α} (hh : BlamesFor P h)
    (hh' : BlamesFor P h') : BlamesFor P (if c then h else h') := by
  split
  · exact hh
  · exact hh'

/-- Nothing has to be drawn. -/
theorem BuiltFor.drawing {h : Handler α} (hb : BuiltFor P draws h) : BuiltFor P True h := by
  induction hb with
  | pure => exact .pure
  | fail he => exact .fail he
  | session => exact .session
  | update => exact .update
  | talk => exact .talk
  | draw _ => exact .draw trivial
  | bind _ _ ih ihf => exact .bind ih ihf
  | outcome _ _ _ ih ihok iherror => exact .outcome ih ihok iherror

theorem BuiltFor.blames {h : Handler α} (hb : BuiltFor P True h) : BlamesFor P h := by
  induction hb with
  | pure => exact fun _ _ => always_pure.2 trivial
  | fail he => exact fun _ _ => always_fail.2 he
  | session => exact fun _ _ => always_session.2 trivial
  | update => exact fun _ _ => always_update.2 trivial
  | talk => exact fun _ _ => always_talk.2 fun _ _ _ => trivial
  | draw _ =>
    rintro w es es' r w' ⟨⟩
    trivial
  | bind _ _ ih ihf => exact blames_bind ih ihf
  | outcome _ _ _ ih ihok iherror =>
    exact fun w es => always_bind.2 (always_outcome.2
      ((ih w es).imp (fun a w' es' _ => ihok a w' es') fun e w' es' he => iherror e he w' es'))

/-! ## Parts of handlers -/

theorem built_refuse {fault : WireError} (hf : P fault) :
    BuiltFor P draws (refuse fault : Handler α) :=
  .fail fun _ h => SessionError.violation.inj h ▸ hf

/-- Behind the end nothing is done. -/
theorem built_fail_bind {e : SessionError} {f : α → Handler β}
    (he : ∀ fault, e = .violation fault → P fault) : BuiltFor P draws (fail e >>= f) :=
  show BuiltFor P draws (fail e) from .fail he

theorem built_ite {c : Prop} [Decidable c] {h h' : Handler α} (hh : BuiltFor P draws h)
    (hh' : BuiltFor P draws h') : BuiltFor P draws (if c then h else h') := by
  split
  · exact hh
  · exact hh'

theorem built_ask {c : SessionCall} : BuiltFor P draws (ask c) :=
  .talk

theorem built_log {level : LogLevel} {text : String} : BuiltFor P draws (log level text) :=
  .talk

/-- A socket has reported an error. -/
theorem built_behindEvent {socket : Socket} {f : α → Handler β} :
    BuiltFor P draws (ask (.pendingError socket) >>= fun x =>
      fail (.transport (IoError.behindEvent x)) >>= f) :=
  .bind built_ask fun _ => built_fail_bind nofun

theorem built_check {r : Except IoError α} : BuiltFor P draws (check r) := by
  cases r with
  | ok a => exact .pure
  | error e => exact .fail nofun

theorem built_attempt {p : Talk (Except IoError α)} : BuiltFor P draws (attempt p) :=
  .bind .talk fun _ => built_check

/-! ## Streams -/

theorem built_onClientStream {f : Stream → Talk (Except IoError α × Stream)} :
    BuiltFor P draws (onClientStream f) :=
  .bind .session fun _ => .bind .talk fun _ =>
    .bind .update fun _ => built_check

theorem built_onRemoteStream {f : Stream → Talk (Except IoError α × Stream)} :
    BuiltFor P draws (onRemoteStream f) := by
  refine .bind .session fun s => ?_
  split
  · split
    · exact .bind .talk fun _ => .bind .update fun _ =>
        .bind built_check fun _ => .pure
    · exact .pure
  · exact .pure

theorem built_sendClient {data : Bytes} : BuiltFor P draws (sendClient ctx data) :=
  .bind built_onClientStream fun _ => built_onClientStream

theorem built_sendLast {data : Bytes} : BuiltFor P draws (sendLast ctx data) := by
  refine .bind .session fun s => .bind .talk fun x =>
    .bind .update fun _ => ?_
  split
  · exact .pure
  · exact .talk

theorem built_reject {code : ReplyCode} : BuiltFor P draws (reject ctx code) :=
  built_sendLast

/-! ## Connecting -/

theorem tryEach_built {early : Bytes} {candidates : List Endpoint} {attempts : Attempts} :
    BuiltFor P draws (tryEach ctx early candidates attempts) := by
  induction candidates generalizing attempts with
  | nil =>
    exact .bind .update fun _ => .bind built_sendLast fun _ => .fail nofun
  | cons target rest ih =>
    refine .bind built_log fun _ => .bind .talk fun r => ?_
    cases r with
    | ok stream => exact .update
    | error e => exact .bind built_log fun _ => ih

theorem startConnect_built {candidates : List Endpoint} : BuiltFor P draws (startConnect ctx candidates) :=
  .bind .session fun _ => .bind .update fun _ => tryEach_built

theorem abandon_built {out : Outgoing} {why : IoError} : BuiltFor P draws (abandon ctx out why) := by
  unfold abandon
  cases out.stream with
  | some stream => exact .bind .talk fun _ => tryEach_built
  | none => exact tryEach_built

theorem abandonFailed_built {out : Outgoing} {why : IoError} :
    BuiltFor P draws (abandonFailed ctx out why) :=
  .bind built_log fun _ => abandon_built

theorem establish_built {out : Outgoing} {stream : Stream} {peer : Endpoint} :
    BuiltFor P draws (establish ctx out stream peer) :=
  .bind .update fun _ => .bind built_ask fun _ => .bind built_check fun _ =>
    .bind built_onRemoteStream fun _ => .bind built_onRemoteStream fun _ =>
    .bind built_log fun _ => .bind built_ask fun _ => .bind .update fun _ =>
    .bind built_sendClient fun _ => built_onClientStream

theorem onAttempt_built {r : Readiness} {out : Outgoing} : BuiltFor P draws (onAttempt ctx r out) := by
  unfold onAttempt
  cases out.stream with
  | none => exact abandonFailed_built
  | some stream =>
    refine .bind .talk fun x => ?_
    rcases x with e | _ | peer
    · exact abandonFailed_built
    · simp only
      split
      · exact abandon_built
      · exact .pure
    · exact establish_built

/-! ## Relaying -/

theorem pumpClient_built {turns : Nat} : BuiltFor P draws (pumpClient ctx turns) := by
  induction turns with
  | zero => exact .talk
  | succ turns ih =>
    refine .bind .session fun s => ?_
    split
    · exact .pure
    · split
      · exact .pure
      · refine .bind built_attempt fun x => ?_
        cases x with
        | wouldBlock => exact .pure
        | closed => exact .fail nofun
        | data b =>
          refine .bind built_onRemoteStream fun f => ?_
          split
          · exact .bind built_onRemoteStream fun _ => .pure
          · exact ih

theorem pumpRemote_built {turns : Nat} : BuiltFor P draws (pumpRemote ctx turns) := by
  induction turns with
  | zero => exact .talk
  | succ turns ih =>
    refine .bind .session fun s => ?_
    split
    · exact .pure
    · split
      · exact .pure
      · refine .bind built_attempt fun x => ?_
        cases x with
        | wouldBlock => exact .pure
        | closed => exact .fail nofun
        | data b =>
          refine .bind built_onClientStream fun f => ?_
          cases f with
          | pending => exact built_onClientStream
          | drained => exact ih

theorem onTunnel_built {r : Readiness} : BuiltFor P draws (onTunnel ctx r) := by
  have hpump : BuiltFor P draws (if r.readable then pumpRemote ctx ctx.turns else pure ()) :=
    built_ite pumpRemote_built .pure
  refine .bind .session fun s => ?_
  split
  · exact .pure
  · refine built_ite built_behindEvent (built_ite (built_fail_bind nofun) (built_ite ?_ hpump))
    refine .bind built_onRemoteStream fun f => ?_
    split
    · exact .bind built_onRemoteStream fun _ => .bind built_onClientStream fun _ => hpump
    · exact hpump

/-! ## Associations -/

theorem associate_built : BuiltFor P draws (associate ctx) :=
  .bind .session fun _ => .bind built_attempt fun _ =>
    .bind built_ask fun _ => .bind built_check fun _ => .bind .update fun _ =>
    .bind built_attempt fun _ => .bind .update fun _ =>
    .bind built_log fun _ => built_sendClient

theorem forward_built {relay : Relay} {remote : Socket} {datagram : Bytes} {source : Endpoint} :
    BuiltFor P draws (forward ctx relay remote datagram source) := by
  refine .bind .update fun _ => ?_
  split
  · exact .bind .session fun _ =>
      built_ite built_log (.bind built_attempt fun _ => built_ite built_log .pure)
  · exact built_log

theorem deliver_built {relay : Relay} {payload : Bytes} {source : Endpoint} :
    BuiltFor P draws (deliver ctx relay payload source) := by
  unfold deliver
  split
  · exact .bind built_attempt fun _ => built_ite built_log .pure
  · exact built_log

theorem forwardAll_built {remote : Socket} {turns : Nat} :
    BuiltFor P draws (forwardAll ctx remote turns) := by
  induction turns with
  | zero => exact .talk
  | succ turns ih =>
    refine .bind .session fun s => ?_
    split
    · exact .pure
    · refine .bind built_attempt fun x => ?_
      split
      · exact .pure
      · exact .bind forward_built fun _ => ih

theorem deliverAll_built {relay : Relay} {remote : Socket} {turns : Nat} :
    BuiltFor P draws (deliverAll ctx relay remote turns) := by
  induction turns with
  | zero => exact .talk
  | succ turns ih =>
    refine .bind built_attempt fun x => ?_
    split
    · exact .pure
    · exact .bind deliver_built fun _ => ih

theorem onRelay_built {r : Readiness} : BuiltFor P draws (onRelay ctx r) := by
  refine .bind .session fun s => ?_
  split
  · exact .pure
  · refine built_ite built_behindEvent ?_
    split
    · exact forwardAll_built
    · exact .pure

theorem onRemoteDatagram_built {r : Readiness} {remote : Socket} :
    BuiltFor P draws (onRemoteDatagram ctx r remote) := by
  refine built_ite built_behindEvent (.bind .session fun s => ?_)
  split
  · exact .pure
  · exact deliverAll_built

theorem onRemote_built {r : Readiness} : BuiltFor P draws (onRemote ctx r) := by
  refine .bind .session fun s => ?_
  split
  · exact .pure
  · exact onRemoteDatagram_built
  · exact built_ite onAttempt_built onTunnel_built

/-! ## Resolving -/

theorem fulfil_built {intent : Intent} {candidates : List Endpoint} :
    BuiltFor P draws (fulfil ctx intent candidates) := by
  cases intent with
  | connect => exact startConnect_built
  | associate => exact associate_built

theorem startLookup_built {name : DomainName} {server : Endpoint} (hd : draws) :
    BuiltFor P draws (startLookup ctx name server) := by
  refine .bind .session fun s => ?_
  split
  · exact .fail nofun
  · refine .bind (.draw hd) fun id => ?_
    split
    · exact .fail nofun
    · refine .bind built_attempt fun _ => .bind .talk fun x => ?_
      rcases x with e | _ | _
      · exact .bind .talk fun _ => .fail nofun
      · exact .bind .talk fun _ => .fail nofun
      · exact .bind built_log fun _ => .update

theorem resolve_built {name : DomainName} {request : PendingRequest} (hd : draws) :
    BuiltFor P draws (resolve ctx name request) := by
  unfold resolve
  split
  · exact .bind built_reject fun _ => .fail nofun
  · refine .outcome (startLookup_built hd) (fun _ => .update) fun e he => ?_
    cases e with
    | exhausted what => exact built_log
    | _ => exact .bind built_reject fun _ => .fail he

theorem receiveAnswer_built {lookup : Lookup} {turns : Nat} :
    BuiltFor P draws (receiveAnswer ctx lookup turns) := by
  induction turns with
  | zero => exact .talk
  | succ turns ih =>
    refine .bind built_attempt fun x => ?_
    split
    · exact .pure
    · refine built_ite (.bind .talk fun _ => ih) ?_
      split
      · exact .pure
      · exact .bind .talk fun _ => ih
      · exact .fail nofun

theorem onResolved_built {addresses : List Ip} : BuiltFor P draws (onResolved ctx addresses) := by
  refine .bind .session fun s => ?_
  split
  · exact .pure
  · exact .bind .update fun _ => fulfil_built

theorem closeLookups_built : BuiltFor P draws closeLookups :=
  .bind .session fun _ => .bind .talk fun _ => .update

theorem onLookup_built {slot : Nat} {r : Readiness} : BuiltFor P draws (onLookup ctx slot r) := by
  refine .bind .session fun s => ?_
  split
  · refine .outcome (built_ite (.fail nofun) receiveAnswer_built) (fun x => ?_) fun e he => ?_
    · cases x with
      | none => exact .pure
      | some addresses =>
        exact .bind built_log fun _ => .bind closeLookups_built fun _ => onResolved_built
    · exact .bind closeLookups_built fun _ => .bind built_reject fun _ => .fail he
  · exact .pure

/-! ## The stream of the client -/

theorem discardReads_built {n discarded : Nat} : BuiltFor P draws (discardReads ctx n discarded) := by
  induction n generalizing discarded with
  | zero => exact .pure
  | succ n ih =>
    refine .bind .session fun s => .bind built_attempt fun x => ?_
    cases x with
    | data b => exact ih
    | wouldBlock => exact .pure
    | closed => exact .fail nofun

theorem discard_built : BuiltFor P draws (discard ctx) := by
  refine .bind discardReads_built fun x => ?_
  have hresume : BuiltFor P draws (if !x.2 then onClientStream (·.resume) else pure ()) :=
    built_ite built_onClientStream .pure
  exact built_ite (.bind .session fun _ => .bind .talk fun _ => hresume) hresume

theorem flushClient_built : BuiltFor P draws (flushClient ctx) := by
  refine .bind built_onClientStream fun f => ?_
  cases f with
  | pending => exact .pure
  | drained =>
    exact .bind built_onClientStream fun _ => .bind .session fun _ =>
      built_ite (.bind built_onRemoteStream fun _ => .pure) .pure

end Handler

/-! ## Messages -/

/-- The fault is not that a message is too long. -/
def WireError.NotLength (fault : WireError) : Prop :=
  ∀ pending, fault ≠ .tooLong pending

section
variable {b : Bytes} {fault : WireError}

theorem Greeting.decode_notLength (h : decode b = .error fault) : fault.NotLength := by
  unfold decode at h
  split at h
  · split at h
    · cases h
      nofun
    · split at h
      · cases h
        nofun
      · cases h
  · cases h
    nofun

theorem Credentials.decode_notLength (h : decode b = .error fault) : fault.NotLength := by
  unfold decode at h
  split at h
  · split at h
    · cases h
      nofun
    · split at h
      · cases h
        nofun
      · simp only at h
        split at h
        · cases h
          nofun
        · cases h
  · cases h
    nofun

theorem DomainName.ofBytes_notLength (h : ofBytes b = .error fault) : fault.NotLength := by
  rw [ofBytes] at h
  split at h
  · rw [ofText] at h
    split at h
    · nomatch h
    · cases h
      nofun
  · cases h
    nofun

theorem Address.decode_notLength (h : decode b = .error fault) : fault.NotLength := by
  unfold decode at h
  split at h
  · cases h
    nofun
  · split at h
    · cases h
    · cases h
      nofun
  · split at h
    · cases h
    · cases h
      nofun
  · split at h
    · cases h
      nofun
    · next n rest =>
      split at h
      · cases h
        nofun
      · cases hname : DomainName.ofBytes (rest.take n.toNat) with
        | ok name =>
          rw [hname] at h
          cases h
        | error e =>
          rw [hname] at h
          cases h
          exact DomainName.ofBytes_notLength hname
  · cases h
    nofun

theorem Request.decode_notLength (h : decode b = .error fault) : fault.NotLength := by
  unfold decode at h
  split at h
  · split at h
    · cases h
      nofun
    · next t rest _ =>
      cases ha : Address.decode (t :: rest) with
      | ok found =>
        rw [ha] at h
        cases h
      | error e =>
        rw [ha] at h
        cases h
        exact Address.decode_notLength ha
  · cases h
    nofun

end

namespace Handler

variable {draws : Prop} {ctx : Context}

/-- An accepted message is answered. -/
theorem accept_built {P : WireError → Prop} {level : LogLevel} {text : String} {data : Bytes}
    {next : Stage} :
    BuiltFor P draws (do
      log level text
      sendClient ctx data
      update fun s => { s with stage := next }) :=
  .bind built_log fun _ => .bind built_sendClient fun _ => .update

theorem onGreeting_built : BuiltFor WireError.NotLength draws (onGreeting ctx) := by
  refine .bind .session fun s => ?_
  split
  · next fault hd =>
    have hrefuse : BuiltFor WireError.NotLength draws (refuse fault : Handler Unit) :=
      built_refuse (Greeting.decode_notLength hd)
    cases fault with
    | unsupportedVersion v => exact .bind built_sendLast fun _ => hrefuse
    | _ => exact hrefuse
  · refine .bind .update fun _ => ?_
    split
    · exact .bind built_sendLast fun _ => built_refuse nofun
    · exact accept_built

theorem onCredentials_built : BuiltFor WireError.NotLength draws (onCredentials ctx) := by
  refine .bind .session fun s => ?_
  split
  · next fault hd => exact built_refuse (Credentials.decode_notLength hd)
  · exact .bind .update fun _ => built_ite accept_built
      (.bind built_log fun _ => .bind built_sendLast fun _ => built_refuse nofun)

theorem onRequest_built : BuiltFor WireError.NotLength True (onRequest ctx) := by
  refine .bind .session fun s => ?_
  split
  · next fault hd =>
    have hrefuse : BuiltFor WireError.NotLength True (refuse fault : Handler Unit) :=
      built_refuse (Request.decode_notLength hd)
    cases fault with
    | addressTypeNotSupported type => exact .bind built_reject fun _ => hrefuse
    | _ => exact hrefuse
  · next request n hd =>
    refine .bind .update fun _ => .bind built_log fun _ => ?_
    obtain ⟨command, host, port⟩ := request
    cases command with
    | connect | associate =>
      cases host with
      | domain name => exact resolve_built trivial
      | _ => exact fulfil_built
    | _ => exact .bind built_reject fun _ => built_refuse nofun

theorem onMessage_built {stage : Stage} : BuiltFor WireError.NotLength True (onMessage ctx stage) := by
  cases stage with
  | accepted => exact onGreeting_built
  | authRequested => exact onCredentials_built
  | _ => exact onRequest_built

theorem parse_built {burstDone : Bool} {n : Nat} :
    BuiltFor WireError.NotLength True (parse ctx burstDone n) := by
  induction n with
  | zero => exact .pure
  | succ n ih =>
    refine .bind .session fun s => built_ite .pure ?_
    refine .outcome onMessage_built (fun _ => ih) fun e he => ?_
    split
    · next heq => cases heq
    · exact built_ite (built_refuse nofun) .pure
    · next heq =>
      cases heq
      exact .fail he

theorem parseAll_built {burstDone : Bool} :
    BuiltFor WireError.NotLength True (parseAll ctx burstDone) :=
  .bind .session fun _ => parse_built

end Handler

end SocksProxy
