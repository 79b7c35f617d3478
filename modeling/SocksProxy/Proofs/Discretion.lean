/-
  Handlers that tell observers nothing.

  * `Transcript.notices` is what observers are told;
  * `Talk.Discreet`: nothing is, whatever the answers are;
  * `Handler.Discreet P`: nothing is either, and `P` holds of the session behind the handler, whether it
    goes on or not, if it held before. The `discreet_` lemmas take handlers apart;
  * `onEvent_unconnected` and `onEvent_connected`: discreet are all handlers but those of an attempt.
-/
import SocksProxy.Proofs.Life

namespace SocksProxy

open Dialogue

/-! ## Notices -/

namespace Transcript

/-- What observers are told, in order. -/
def notices (es : Transcript) : List Notice :=
  es.filterMap fun e => match e.1 with
    | .notify notice => some notice
    | _ => none

variable {es es' : Transcript}

@[simp] theorem notices_nil : notices [] = [] := rfl

@[simp] theorem notices_append : notices (es ++ es') = notices es ++ notices es' :=
  List.filterMap_append

theorem notices_behind {told : List Notice} (h : notices es = told) (h' : notices es' = []) :
    notices (es ++ es') = told := by
  rw [notices_append, h, h', List.append_nil]

theorem notices_ahead {told : List Notice} (h : notices es = []) (h' : notices es' = told) :
    notices (es ++ es') = told := by
  rw [notices_append, h, h', List.nil_append]

theorem notices_of_verbs (h : All (· ≠ .aside) es) : notices es = [] := by
  refine List.filterMap_eq_nil_iff.2 fun e he => ?_
  have hv := h e he
  split
  · next notice heq => exact absurd (by rw [heq]; rfl) hv
  · rfl

end Transcript

/-- Whether the call tells observers something. -/
def SessionCall.isNotice : SessionCall → Bool
  | notify _ => true
  | _ => false

theorem Transcript.notices_cons {c : SessionCall} {r : c.Answer} {es : Transcript}
    (hc : c.isNotice = false) : notices (⟨c, r⟩ :: es) = notices es := by
  cases c with
  | notify => nomatch hc
  | _ => rfl

theorem Stream.Worked.notices {α : Type} {stream stream' : Stream} {data : Bytes} {es : Transcript}
    {r : Except IoError α} (h : stream.Worked data es r stream') : es.notices = [] := by
  refine Transcript.notices_of_verbs (h.calls.imp fun v hv => ?_)
  rcases hv with rfl | rfl <;> nofun

namespace Talk

variable {α β : Type} {p : Talk α}

/-- Observers are told nothing, whatever the answers are. -/
def Discreet (p : Talk α) : Prop :=
  ∀ (es : Transcript) a, Run p es a → es.notices = []

theorem discreet_done {a : α} : Discreet (.done a) := by
  intro es b h
  obtain ⟨rfl, -⟩ := run_done_iff.1 h
  rfl

theorem discreet_stuck : Discreet (.stuck : Talk α) :=
  fun _ _ h => absurd h not_run_stuck

theorem discreet_ask {c : SessionCall} {next : c.Answer → Talk α} (hc : c.isNotice = false)
    (h : ∀ r, Discreet (next r)) : Discreet (.ask c next) := by
  intro es a hr
  obtain ⟨r, es', rfl, h'⟩ := run_ask_iff.1 hr
  exact (Transcript.notices_cons hc).trans (h r _ _ h')

theorem discreet_call {c : SessionCall} (hc : c.isNotice = false) :
    Discreet (Dialogue.call (I := SessionNet) c) :=
  discreet_ask hc fun _ => discreet_done

theorem discreet_bind {f : α → Talk β} (h : Discreet p) (hf : ∀ a, Discreet (f a)) :
    Discreet (p >>= f) := by
  intro es b hr
  obtain ⟨es₁, es₂, a, rfl, h₁, h₂⟩ := run_monad_bind_iff.1 hr
  exact Transcript.notices_behind (h _ _ h₁) (hf a _ _ h₂)

/-! ## Sockets -/

section
variable {turns : Nat} {s : Socket} {stream : Stream}

theorem discreet_log {mark : LogMark} {level : LogLevel} {source : LogSource} {text : String} :
    Discreet (log mark level source text) :=
  discreet_call rfl

theorem discreet_deregister : Discreet (deregister s) :=
  discreet_ask rfl fun (r : Except IoError Unit) => by
    cases r with
    | ok _ => exact discreet_done
    | error e => exact discreet_log

theorem discreet_deregisterAll {sockets : List Socket} : Discreet (deregisterAll sockets) := by
  induction sockets with
  | nil => exact discreet_done
  | cons s rest ih => exact discreet_bind discreet_deregister fun _ => ih

theorem discreet_close : Discreet stream.close :=
  discreet_bind discreet_deregister fun _ => discreet_bind (discreet_call rfl) fun _ => discreet_done

theorem discreet_tune {switches : List TcpSwitch} : Discreet (tune s switches) := by
  induction switches with
  | nil => exact discreet_done
  | cons switch rest ih =>
    refine discreet_ask rfl fun (r : Except IoError Unit) => ?_
    cases r with
    | ok _ => exact ih
    | error e => exact discreet_done

theorem discreet_openStream {target : Endpoint} {options : TcpOptions} :
    Discreet (openStream s target options) := by
  refine discreet_ask rfl fun (r : Except IoError Unit) => ?_
  cases r with
  | error e => exact discreet_done
  | ok _ =>
    refine discreet_bind discreet_tune fun r => ?_
    cases r with
    | error e => exact discreet_done
    | ok _ =>
      refine discreet_bind (discreet_call rfl) fun (r : Except IoError Unit) => ?_
      cases r with
      | ok _ => exact discreet_done
      | error e => exact discreet_bind discreet_close fun _ => discreet_done

theorem discreet_peerOf : Discreet (peerOf stream) := by
  refine discreet_ask rfl fun (r : Except IoError (Option IoError)) => ?_
  rcases r with e | _ | e
  · exact discreet_done
  · exact discreet_ask rfl fun (r : Except IoError Endpoint) => by cases r <;> exact discreet_done
  · exact discreet_done

theorem discreet_openDatagram {addr : Endpoint} : Discreet (openDatagram s addr) :=
  discreet_ask rfl fun (r : Except IoError Unit) => by
    cases r with
    | ok _ => exact discreet_call rfl
    | error e => exact discreet_done

theorem discreet_receiveFrom {max : Nat} : Discreet (receiveFrom turns s max) := by
  refine fun es r h => Transcript.notices_of_verbs fun e he => ?_
  obtain ⟨a, rfl⟩ := (receiveFrom_cases h).1 e he
  nofun

theorem discreet_sendTo {data : Bytes} {dest : Endpoint} : Discreet (sendTo turns s data dest) := by
  intro es r h
  obtain ⟨es₀, a, rfl, hes₀, -⟩ := sendTo_cases h
  refine Transcript.notices_of_verbs (Transcript.All.append (fun e he => ?_)
    (Transcript.all_singleton (by nofun)))
  obtain ⟨error, rfl⟩ := hes₀ e he
  nofun

theorem discreet_receive : Discreet (stream.receive turns) := by
  refine fun es r h => Transcript.notices_of_verbs ((Stream.receive_all h).imp fun v hv => ?_)
  rw [hv]
  nofun

theorem discreet_send {data : Bytes} : Discreet (stream.send turns data) :=
  fun _ _ h => (Stream.send_cases h).1.notices

theorem discreet_flush : Discreet (stream.flush turns) :=
  fun _ _ h => (Stream.flush_cases h).1.notices

theorem discreet_resume : Discreet stream.resume :=
  fun _ _ h => (Stream.resume_cases h).1.notices

theorem discreet_settle : Discreet stream.settle :=
  fun _ _ h => (Stream.settle_cases h).1.notices

end

end Talk

/-! ## Sessions -/

namespace Session

/-- The peer that the outbound stream was found to be connected to. -/
def peer? (s : Session) : Option Endpoint :=
  s.attempts?.bind (·.peer)

theorem peer?_of_stream {s : Session} {out : Outgoing} (h : s.remote = some (.stream out)) :
    s.peer? = out.attempts.peer := by
  rw [peer?, attempts?, outgoing?, h]
  rfl

theorem peer?_of_not_stream {s : Session} (h : ∀ out, s.remote ≠ some (.stream out)) :
    s.peer? = none := by
  rw [peer?, attempts?, outgoing?]
  split
  · next out hrem => exact absurd hrem (h out)
  · rfl

/-- No attempt has succeeded. -/
def Unconnected (s : Session) : Prop :=
  s.peer? = none

/-- A tunnel to the peer is up. -/
def ConnectedTo (peer : Endpoint) (s : Session) : Prop :=
  s.stage = .connected ∧ s.peer? = some peer

end Session

/-- Only the stage and the attempts of a session matter. -/
def Steady (P : Session → Prop) : Prop :=
  ∀ s s' : Session, s'.stage = s.stage → s'.attempts? = s.attempts? → P s → P s'

theorem steady_unconnected : Steady Session.Unconnected := by
  intro s s' _ ha h
  rw [Session.Unconnected, Session.peer?, ha]
  exact h

theorem steady_connectedTo {peer : Endpoint} : Steady (Session.ConnectedTo peer) := by
  rintro s s' hst ha ⟨hst', hp⟩
  refine ⟨hst.trans hst', ?_⟩
  rw [Session.peer?, ha]
  exact hp

/-! ## Handlers -/

namespace Handler

variable {α β : Type} {P : Session → Prop} {ctx : Context} {h : Handler α}

/-- Observers are told nothing, and what holds of the session before holds of it behind the handler. -/
def Discreet (P : Session → Prop) (h : Handler α) : Prop :=
  ∀ w, P w.session → h.Always w [] (fun _ w' es => P w'.session ∧ es.notices = [])
    (fun _ w' es => P w'.session ∧ es.notices = [])

theorem discreet_pure {a : α} : Discreet P (pure a) :=
  fun _ hw => always_pure.2 ⟨hw, rfl⟩

theorem discreet_fail {e : SessionError} : Discreet P (fail e : Handler α) :=
  fun _ hw => always_fail.2 ⟨hw, rfl⟩

theorem discreet_refuse {fault : WireError} : Discreet P (refuse fault : Handler α) :=
  discreet_fail

theorem discreet_check {r : Except IoError α} : Discreet P (check r) := by
  cases r with
  | ok a => exact discreet_pure
  | error e => exact discreet_fail

theorem discreet_talk {p : Talk α} (hp : p.Discreet) : Discreet P (talk p) :=
  fun _ hw => always_talk.2 fun es a hr => ⟨hw, hp es a hr⟩

theorem discreet_stuck : Discreet P (talk .stuck : Handler α) :=
  discreet_talk Talk.discreet_stuck

theorem discreet_ask {c : SessionCall} (hc : c.isNotice = false) : Discreet P (ask c) :=
  discreet_talk (Talk.discreet_call hc)

theorem discreet_log {level : LogLevel} {text : String} : Discreet P (log level text) :=
  discreet_talk Talk.discreet_log

theorem discreet_session : Discreet P session :=
  fun _ hw => always_session.2 ⟨hw, rfl⟩

theorem discreet_update {f : Session → Session} (hf : ∀ s, P s → P (f s)) : Discreet P (update f) :=
  fun _ hw => always_update.2 ⟨hf _ hw, rfl⟩

theorem Discreet.behind {h : Handler α} (hh : Discreet P h) {w : Work} (hw : P w.session)
    {es : Transcript} (hes : es.notices = []) :
    h.Always w es (fun _ w' es => P w'.session ∧ es.notices = [])
      (fun _ w' es => P w'.session ∧ es.notices = []) := by
  refine ((hh w hw).shift es).imp ?_ ?_ <;>
  · rintro _ w' _ ⟨es', rfl, hw', hes'⟩
    exact ⟨hw', Transcript.notices_behind hes hes'⟩

theorem discreet_bind {f : α → Handler β} (hh : Discreet P h) (hf : ∀ a, Discreet P (f a)) :
    Discreet P (h >>= f) := fun w hw =>
  always_bind.2 ((hh w hw).imp (fun a _ _ ⟨hw', hes⟩ => (hf a).behind hw' hes) fun _ _ _ h => h)

/-- What comes behind the end of the session does not matter. -/
theorem discreet_fail_bind {e : SessionError} {f : α → Handler β} :
    Discreet P ((fail e : Handler α) >>= f) := fun _ hw =>
  always_bind.2 (always_fail.2 ⟨hw, rfl⟩)

/-- A handler may go by what holds of the session. -/
theorem discreet_session_bind {f : Session → Handler β} (hf : ∀ s, P s → Discreet P (f s)) :
    Discreet P (session >>= f) := fun w hw =>
  always_bind.2 (always_session.2 (hf w.session hw w hw))

theorem discreet_outcome (hh : Discreet P h) : Discreet P (outcome h) :=
  fun w hw => always_outcome.2 (hh w hw)

theorem discreet_attempt {p : Talk (Except IoError α)} (hp : p.Discreet) : Discreet P (attempt p) :=
  discreet_bind (discreet_talk hp) fun _ => discreet_check

section
variable (hP : Steady P)
include hP

theorem discreet_onClientStream {f : Stream → Talk (Except IoError α × Stream)}
    (hf : ∀ stream, (f stream).Discreet) : Discreet P (onClientStream f) := by
  intro w hw
  rw [always_onClientStream]
  intro es r stream hr
  have hw' : P (w.session.withClientStream stream) := hP w.session _ rfl rfl hw
  cases r <;> exact ⟨hw', hf _ es _ hr⟩

theorem discreet_onRemoteStream {f : Stream → Talk (Except IoError α × Stream)}
    (hf : ∀ stream, (f stream).Discreet) : Discreet P (onRemoteStream f) := by
  intro w hw
  cases hs : w.session.remoteStream? with
  | some stream =>
    rw [always_onRemoteStream stream hs]
    intro es r stream' hr
    have hw' : P (w.session.withRemoteStream stream') :=
      hP _ _ Session.withRemoteStream_stage Session.withRemoteStream_attempts? hw
    cases r <;> exact ⟨hw', hf _ es _ hr⟩
  | none =>
    unfold onRemoteStream
    rw [always_bind, always_session]
    split
    · next out hout =>
      rw [Session.remoteStream?, hout] at hs
      rw [show out.stream = none from hs]
      exact always_pure.2 ⟨hw, rfl⟩
    · exact always_pure.2 ⟨hw, rfl⟩

/-! ## The client -/

theorem discreet_sendClient {data : Bytes} : Discreet P (sendClient ctx data) :=
  discreet_bind (discreet_onClientStream hP fun _ => Talk.discreet_send) fun _ =>
    discreet_onClientStream hP fun _ => Talk.discreet_settle

theorem discreet_resumeClient : Discreet P (onClientStream (·.resume)) :=
  discreet_onClientStream hP fun _ => Talk.discreet_resume

theorem discreet_resumeRemote : Discreet P (onRemoteStream (·.resume)) :=
  discreet_onRemoteStream hP fun _ => Talk.discreet_resume

theorem discreet_sendLast {data : Bytes} : Discreet P (sendLast ctx data) := by
  refine discreet_bind discreet_session fun s => discreet_bind (discreet_talk Talk.discreet_send)
    fun x => discreet_bind (discreet_update fun s hs => hP s _ rfl rfl hs) fun _ => ?_
  cases x.1 with
  | ok _ => exact discreet_pure
  | error e => exact discreet_talk Talk.discreet_log

theorem discreet_reject {code : ReplyCode} : Discreet P (reject ctx code) :=
  discreet_sendLast hP

theorem discreet_flushClient : Discreet P (flushClient ctx) := by
  refine discreet_bind (discreet_onClientStream hP fun _ => Talk.discreet_flush) fun x => ?_
  cases x with
  | pending => exact discreet_pure
  | drained =>
    refine discreet_bind (discreet_resumeClient hP) fun _ => discreet_bind discreet_session fun s => ?_
    split
    · exact discreet_bind (discreet_resumeRemote hP) fun _ => discreet_pure
    · exact discreet_pure

omit hP in
theorem discreet_discardReads {n discarded : Nat} : Discreet P (discardReads ctx n discarded) := by
  induction n generalizing discarded with
  | zero => exact discreet_pure
  | succ n ih =>
    refine discreet_bind discreet_session fun s =>
      discreet_bind (discreet_attempt Talk.discreet_receive) fun x => ?_
    cases x with
    | data b => exact ih
    | wouldBlock => exact discreet_pure
    | closed => exact discreet_fail

theorem discreet_discard : Discreet P (discard ctx) := by
  refine discreet_bind discreet_discardReads fun x => ?_
  have hrest : Discreet P (if !x.2 then onClientStream (·.resume) else pure () : Handler Unit) := by
    split
    · exact discreet_resumeClient hP
    · exact discreet_pure
  dsimp only
  split
  · exact discreet_bind discreet_session fun s =>
      discreet_bind (discreet_talk Talk.discreet_log) fun _ => hrest
  · exact hrest

/-! ## Tunnels -/

theorem discreet_pumpClient {turns : Nat} : Discreet P (pumpClient ctx turns) := by
  induction turns with
  | zero => exact discreet_stuck
  | succ turns ih =>
    refine discreet_bind discreet_session fun s => ?_
    split
    · exact discreet_pure
    · split
      · exact discreet_pure
      · refine discreet_bind (discreet_attempt Talk.discreet_receive) fun x => ?_
        cases x with
        | wouldBlock => exact discreet_pure
        | closed => exact discreet_fail
        | data b =>
          refine discreet_bind (discreet_onRemoteStream hP fun _ => Talk.discreet_send) fun y => ?_
          split
          · exact discreet_bind (discreet_onRemoteStream hP fun _ => Talk.discreet_settle) fun _ =>
              discreet_pure
          · exact ih

theorem discreet_pumpRemote {turns : Nat} : Discreet P (pumpRemote ctx turns) := by
  induction turns with
  | zero => exact discreet_stuck
  | succ turns ih =>
    refine discreet_bind discreet_session fun s => ?_
    split
    · exact discreet_pure
    · split
      · exact discreet_pure
      · refine discreet_bind (discreet_attempt Talk.discreet_receive) fun x => ?_
        cases x with
        | wouldBlock => exact discreet_pure
        | closed => exact discreet_fail
        | data b =>
          refine discreet_bind (discreet_onClientStream hP fun _ => Talk.discreet_send) fun y => ?_
          cases y with
          | pending => exact discreet_onClientStream hP fun _ => Talk.discreet_settle
          | drained => exact ih

theorem discreet_onTunnel {r : Readiness} : Discreet P (onTunnel ctx r) := by
  refine discreet_bind discreet_session fun s => ?_
  split
  · exact discreet_pure
  · have hread : Discreet P (if r.readable then pumpRemote ctx ctx.turns else pure () :
        Handler Unit) := by
      split
      · exact discreet_pumpRemote hP
      · exact discreet_pure
    dsimp only
    split
    · exact discreet_bind (discreet_ask rfl) fun _ => discreet_fail_bind
    · split
      · exact discreet_fail_bind
      · split
        · refine discreet_bind (discreet_onRemoteStream hP fun _ => Talk.discreet_flush) fun x => ?_
          split
          · exact discreet_bind (discreet_resumeRemote hP) fun _ =>
              discreet_bind (discreet_resumeClient hP) fun _ => hread
          · exact hread
        · exact hread

/-! ## Associations -/

theorem discreet_forward {relay : Relay} {remote : Socket} {datagram : Bytes} {source : Endpoint} :
    Discreet P (forward ctx relay remote datagram source) := by
  unfold forward
  refine discreet_bind (discreet_update fun s hs => hP s _ rfl rfl hs) fun _ => ?_
  split
  · refine discreet_bind discreet_session fun s => ?_
    split
    · exact discreet_log
    · refine discreet_bind (discreet_attempt Talk.discreet_sendTo) fun sent => ?_
      split
      · exact discreet_log
      · exact discreet_pure
  · exact discreet_log

omit hP in
theorem discreet_deliver {relay : Relay} {payload : Bytes} {source : Endpoint} :
    Discreet P (deliver ctx relay payload source) := by
  unfold deliver
  split
  · refine discreet_bind (discreet_attempt Talk.discreet_sendTo) fun sent => ?_
    split
    · exact discreet_log
    · exact discreet_pure
  · exact discreet_log

theorem discreet_forwardAll {remote : Socket} {turns : Nat} :
    Discreet P (forwardAll ctx remote turns) := by
  induction turns with
  | zero => exact discreet_stuck
  | succ turns ih =>
    refine discreet_bind discreet_session fun s => ?_
    split
    · exact discreet_pure
    · refine discreet_bind (discreet_attempt Talk.discreet_receiveFrom) fun x => ?_
      split
      · exact discreet_pure
      · exact discreet_bind (discreet_forward hP) fun _ => ih

omit hP in
theorem discreet_deliverAll {relay : Relay} {remote : Socket} {turns : Nat} :
    Discreet P (deliverAll ctx relay remote turns) := by
  induction turns with
  | zero => exact discreet_stuck
  | succ turns ih =>
    refine discreet_bind (discreet_attempt Talk.discreet_receiveFrom) fun x => ?_
    split
    · exact discreet_pure
    · exact discreet_bind discreet_deliver fun _ => ih

theorem discreet_onRelay {r : Readiness} : Discreet P (onRelay ctx r) := by
  refine discreet_bind discreet_session fun s => ?_
  split
  · exact discreet_pure
  · dsimp only
    split
    · exact discreet_bind (discreet_ask rfl) fun _ => discreet_fail_bind
    · split
      · exact discreet_forwardAll hP
      · exact discreet_pure

omit hP in
theorem discreet_onRemoteDatagram {r : Readiness} {remote : Socket} :
    Discreet P (onRemoteDatagram ctx r remote) := by
  unfold onRemoteDatagram
  dsimp only
  split
  · exact discreet_bind (discreet_ask rfl) fun _ => discreet_fail_bind
  · refine discreet_bind discreet_session fun s => ?_
    split
    · exact discreet_pure
    · exact discreet_deliverAll

/-! ## Queries -/

theorem discreet_closeLookups : Discreet P closeLookups :=
  discreet_bind discreet_session fun _ => discreet_bind (discreet_talk Talk.discreet_deregisterAll)
    fun _ => discreet_update fun s hs => hP s _ rfl rfl hs

omit hP in
theorem discreet_receiveAnswer {lookup : Lookup} {turns : Nat} :
    Discreet P (receiveAnswer ctx lookup turns) := by
  induction turns with
  | zero => exact discreet_stuck
  | succ turns ih =>
    refine discreet_bind (discreet_attempt Talk.discreet_receiveFrom) fun x => ?_
    split
    · exact discreet_pure
    · split
      · exact discreet_bind (discreet_talk Talk.discreet_log) fun _ => ih
      · split
        · exact discreet_pure
        · exact discreet_bind (discreet_talk Talk.discreet_log) fun _ => ih
        · exact discreet_fail

omit hP in
theorem discreet_lookupResult {lookup : Lookup} {r : Readiness} :
    Discreet P (lookupResult ctx lookup r) := by
  unfold lookupResult
  split
  · exact discreet_fail
  · exact discreet_receiveAnswer

omit hP in
theorem discreet_drawId : Discreet P drawId :=
  fun _ hw => always_drawId.2 ⟨hw, rfl⟩

theorem discreet_startLookup {name : DomainName} {server : Endpoint} :
    Discreet P (startLookup ctx name server) := by
  refine discreet_bind discreet_session fun s => ?_
  split
  · exact discreet_fail
  · refine discreet_bind discreet_drawId fun id => ?_
    split
    · exact discreet_fail
    · refine discreet_bind (discreet_attempt Talk.discreet_openDatagram) fun _ =>
        discreet_bind (discreet_talk Talk.discreet_sendTo) fun x => ?_
      have hclose {socket : Socket} {e : SessionError} : Discreet P (do
          talk (Talk.deregister socket)
          fail e : Handler Unit) :=
        discreet_bind (discreet_talk Talk.discreet_deregister) fun _ => discreet_fail
      split
      · exact discreet_bind discreet_log fun _ => discreet_update fun s hs => hP s _ rfl rfl hs
      · exact hclose
      · exact hclose

end

/-! ## Requests -/

theorem unconnected_withOutgoing {s : Session} {out : Outgoing} (h : out.attempts.peer = none) :
    (s.withOutgoing out).Unconnected :=
  h

theorem discreet_tryEach {early : Bytes} {candidates : List Endpoint} {attempts : Attempts}
    (ha : attempts.peer = none) :
    Discreet Session.Unconnected (tryEach ctx early candidates attempts) := by
  induction candidates generalizing attempts with
  | nil =>
    exact discreet_bind (discreet_update fun _ _ => unconnected_withOutgoing ha) fun _ =>
      discreet_bind (discreet_sendLast steady_unconnected) fun _ => discreet_fail
  | cons target rest ih =>
    refine discreet_bind discreet_log fun _ =>
      discreet_bind (discreet_talk Talk.discreet_openStream) fun x => ?_
    cases x with
    | ok stream => exact discreet_update fun _ _ => unconnected_withOutgoing ha
    | error e => exact discreet_bind discreet_log fun _ => ih ha

theorem discreet_startConnect {candidates : List Endpoint} :
    Discreet Session.Unconnected (startConnect ctx candidates) :=
  discreet_bind discreet_session fun _ => discreet_bind (discreet_update fun _ _ => rfl) fun _ =>
    discreet_tryEach rfl

theorem discreet_associate : Discreet Session.Unconnected (associate ctx) := by
  refine discreet_bind discreet_session fun s => ?_
  exact discreet_bind (discreet_attempt Talk.discreet_openDatagram) fun _ =>
    discreet_bind (discreet_ask rfl) fun _ => discreet_bind discreet_check fun _ =>
    discreet_bind (discreet_update fun s hs => steady_unconnected s _ rfl rfl hs) fun _ =>
    discreet_bind (discreet_attempt Talk.discreet_openDatagram) fun _ =>
    discreet_bind (discreet_update fun _ _ => rfl) fun _ => discreet_bind discreet_log fun _ =>
    discreet_sendClient steady_unconnected

theorem discreet_fulfil {intent : Intent} {candidates : List Endpoint} :
    Discreet Session.Unconnected (fulfil ctx intent candidates) := by
  cases intent with
  | connect => exact discreet_startConnect
  | associate => exact discreet_associate

theorem discreet_resolve {name : DomainName} {request : PendingRequest} :
    Discreet Session.Unconnected (resolve ctx name request) := by
  unfold resolve
  have hrefuse {code : ReplyCode} {e : SessionError} : Discreet Session.Unconnected (do
      reject ctx code
      fail e : Handler Unit) :=
    discreet_bind (discreet_reject steady_unconnected) fun _ => discreet_fail
  split
  · exact hrefuse
  · refine discreet_bind (discreet_outcome (discreet_startLookup steady_unconnected)) fun x => ?_
    split
    · exact discreet_update fun _ hs => hs
    · exact discreet_log
    · exact hrefuse

theorem discreet_onResolved {addresses : List Ip} :
    Discreet Session.Unconnected (onResolved ctx addresses) := by
  refine discreet_bind discreet_session fun s => ?_
  split
  · exact discreet_pure
  · exact discreet_bind (discreet_update fun _ hs => hs) fun _ => discreet_fulfil

theorem discreet_onLookup {slot : Nat} {r : Readiness} :
    Discreet Session.Unconnected (onLookup ctx slot r) := by
  refine discreet_bind discreet_session fun s => ?_
  split
  · refine discreet_bind (discreet_outcome discreet_lookupResult) fun x => ?_
    split
    · exact discreet_pure
    · exact discreet_bind discreet_log fun _ =>
        discreet_bind (discreet_closeLookups steady_unconnected) fun _ => discreet_onResolved
    · exact discreet_bind (discreet_closeLookups steady_unconnected) fun _ =>
        discreet_bind (discreet_reject steady_unconnected) fun _ => discreet_fail
  · exact discreet_pure

/-! ## The handshake -/

theorem discreet_consume {n : Nat} : Discreet Session.Unconnected (consume n) :=
  discreet_update fun _ hs => hs

theorem discreet_onGreeting : Discreet Session.Unconnected (onGreeting ctx) := by
  refine discreet_bind discreet_session fun s => ?_
  split
  · dsimp only
    split
    · exact discreet_bind (discreet_sendLast steady_unconnected) fun _ => discreet_refuse
    · exact discreet_refuse
  · refine discreet_bind discreet_consume fun _ => ?_
    split
    · exact discreet_bind (discreet_sendLast steady_unconnected) fun _ => discreet_refuse
    · exact discreet_bind discreet_log fun _ =>
        discreet_bind (discreet_sendClient steady_unconnected) fun _ => discreet_update fun _ hs => hs

theorem discreet_onCredentials : Discreet Session.Unconnected (onCredentials ctx) := by
  refine discreet_bind discreet_session fun s => ?_
  split
  · exact discreet_refuse
  · refine discreet_bind discreet_consume fun _ => ?_
    split
    · exact discreet_bind discreet_log fun _ =>
        discreet_bind (discreet_sendClient steady_unconnected) fun _ => discreet_update fun _ hs => hs
    · exact discreet_bind discreet_log fun _ =>
        discreet_bind (discreet_sendLast steady_unconnected) fun _ => discreet_refuse

theorem discreet_onRequest : Discreet Session.Unconnected (onRequest ctx) := by
  refine discreet_bind discreet_session fun s => ?_
  split
  · dsimp only
    split
    · exact discreet_bind (discreet_reject steady_unconnected) fun _ => discreet_refuse
    · exact discreet_refuse
  · next request n _ =>
    refine discreet_bind discreet_consume fun _ => discreet_bind discreet_log fun _ => ?_
    dsimp only
    split
    · split
      · exact discreet_resolve
      · exact discreet_fulfil
      · exact discreet_fulfil
    · split
      · exact discreet_resolve
      · exact discreet_fulfil
      · exact discreet_fulfil
    · exact discreet_bind (discreet_reject steady_unconnected) fun _ => discreet_refuse

theorem discreet_onMessage {stage : Stage} : Discreet Session.Unconnected (onMessage ctx stage) := by
  unfold onMessage
  split
  · exact discreet_onGreeting
  · exact discreet_onCredentials
  · exact discreet_onRequest

theorem discreet_parse {burstDone : Bool} {n : Nat} :
    Discreet Session.Unconnected (parse ctx burstDone n) := by
  induction n with
  | zero => exact discreet_pure
  | succ n ih =>
    refine discreet_bind discreet_session fun s => ?_
    split
    · exact discreet_pure
    · refine discreet_bind (discreet_outcome discreet_onMessage) fun x => ?_
      split
      · exact ih
      · split
        · exact discreet_refuse
        · exact discreet_pure
      · exact discreet_fail

theorem discreet_parseAll {burstDone : Bool} :
    Discreet Session.Unconnected (parseAll ctx burstDone) :=
  discreet_bind discreet_session fun _ => discreet_parse

theorem discreet_readHandshake {turns : Nat} :
    Discreet Session.Unconnected (readHandshake ctx turns) := by
  induction turns with
  | zero => exact discreet_stuck
  | succ turns ih =>
    refine discreet_bind discreet_session fun s =>
      discreet_bind (discreet_attempt Talk.discreet_receive) fun x => ?_
    cases x with
    | closed => exact discreet_fail
    | wouldBlock => exact discreet_parseAll
    | data b =>
      refine discreet_bind (discreet_update fun _ hs => hs) fun _ =>
        discreet_bind discreet_parseAll fun _ => discreet_bind discreet_session fun s => ?_
      split
      · exact discreet_resumeClient steady_unconnected
      · split
        · exact discreet_refuse
        · exact ih

/-! ## Events -/

theorem discreet_readClient_unconnected : Discreet Session.Unconnected (readClient ctx) := by
  refine discreet_bind discreet_session fun s => ?_
  have hhandshake : Discreet Session.Unconnected (if s.client.stream.hasPending then pure ()
      else readHandshake ctx ctx.turns : Handler Unit) := by
    split
    · exact discreet_pure
    · exact discreet_readHandshake
  split
  · exact hhandshake
  · exact hhandshake
  · exact hhandshake
  · exact discreet_pumpClient steady_unconnected
  · exact discreet_pure
  · exact discreet_discard steady_unconnected
  · exact discreet_discard steady_unconnected

theorem discreet_readClient_connected {peer : Endpoint} :
    Discreet (Session.ConnectedTo peer) (readClient ctx) := by
  refine discreet_session_bind fun s hs => ?_
  rw [hs.1]
  exact discreet_pumpClient steady_connectedTo

theorem discreet_onClient (hP : Steady P) (hread : Discreet P (readClient ctx)) {r : Readiness} :
    Discreet P (onClient ctx r) := by
  have hread? : Discreet P (if r.readable then readClient ctx else pure () : Handler Unit) := by
    split
    · exact hread
    · exact discreet_pure
  have hwork : Discreet P (do
      if r.writable then flushClient ctx
      if r.readable then readClient ctx : Handler Unit) := by
    dsimp only
    split
    · exact discreet_bind (discreet_flushClient hP) fun _ => hread?
    · exact hread?
  unfold onClient
  dsimp only
  split
  · exact discreet_bind discreet_session fun _ => discreet_bind (discreet_ask rfl) fun _ =>
      discreet_fail_bind
  · split
    · exact discreet_fail_bind
    · exact hwork

variable {w : Work} {role : Role} {r : Readiness}

/-- Before an attempt has succeeded, observers are told nothing, unless one is looked at. -/
theorem onEvent_unconnected (hw : w.session.Unconnected)
    (hst : role = .remote → w.session.stage ≠ .connecting) :
    (onEvent ctx role r).Always w []
      (fun _ w' es => w'.session.Unconnected ∧ es.notices = [])
      (fun _ w' es => w'.session.Unconnected ∧ es.notices = []) := by
  cases role with
  | client => exact discreet_onClient steady_unconnected discreet_readClient_unconnected w hw
  | relay => exact discreet_onRelay steady_unconnected w hw
  | query slot => exact discreet_onLookup w hw
  | remote =>
    rw [onEvent, onRemote, always_bind, always_session]
    split
    · exact always_pure.2 ⟨hw, rfl⟩
    · exact discreet_onRemoteDatagram w hw
    · rw [if_neg (hst rfl)]
      exact discreet_onTunnel steady_unconnected w hw

/-- While a tunnel is up, observers are told nothing. -/
theorem onEvent_connected {peer : Endpoint} (hs : w.session.Shaped)
    (hw : w.session.ConnectedTo peer) :
    (onEvent ctx role r).Always w []
      (fun _ w' es => w'.session.ConnectedTo peer ∧ es.notices = [])
      (fun _ w' es => w'.session.ConnectedTo peer ∧ es.notices = []) := by
  cases role with
  | client => exact discreet_onClient steady_connectedTo discreet_readClient_connected w hw
  | relay => exact discreet_onRelay steady_connectedTo w hw
  | query slot =>
    obtain ⟨hl, -⟩ := (Session.holds_connected hw.1).1 hs.holds
    rw [onEvent, onLookup, always_bind, always_session]
    split
    · next lookup hlookup => exact absurd hlookup (hl.getElem? slot lookup)
    · exact always_pure.2 ⟨hw, rfl⟩
  | remote =>
    rw [onEvent, onRemote, always_bind, always_session]
    split
    · exact always_pure.2 ⟨hw, rfl⟩
    · exact discreet_onRemoteDatagram w hw
    · rw [if_neg (by simp [hw.1])]
      exact discreet_onTunnel steady_connectedTo w hw

end Handler

end SocksProxy
