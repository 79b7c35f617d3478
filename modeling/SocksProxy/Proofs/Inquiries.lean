/-
  What sessions ask of name servers.

  * `Transcript.Inquires` counts the queries of a stretch of calls;
  * `startLookup_inquires`: a lookup opens one socket and sends one query, or fails;
  * `lookupResult_spares`: behind it only datagrams are received, and the answer comes from the server
    that was asked;
  * `onRelay_spares`, `onRemoteDatagram_spares`: the datagrams of an association are no queries.
-/
import SocksProxy.Proofs.ClientWork

namespace SocksProxy

open Dialogue

/-! ## Queries -/

/-- Whether the role is that of a query. -/
def Role.isQuery : Role → Bool
  | query _ => true
  | _ => false

namespace SessionEvent

/-- Whether the call opens a socket for a query. -/
def opensQuery : SessionEvent → Bool
  | ⟨.bindDatagram s _, _⟩ => s.role.isQuery
  | _ => false

/-- Whether a query leaves with the call. -/
def sendsQuery : SessionEvent → Bool
  | ⟨.sendTo s _ _, .ok ()⟩ => s.role.isQuery
  | _ => false

variable {e : SessionEvent}

theorem opensQuery_of_verb (h : ∀ s : Socket, e.1.verb = .datagram s → s.role.isQuery = false) :
    e.opensQuery = false := by
  unfold opensQuery
  split
  · exact h _ rfl
  · rfl

theorem sendsQuery_of_verb (h : ∀ s : Socket, e.1.verb = .datagram s → s.role.isQuery = false) :
    e.sendsQuery = false := by
  unfold sendsQuery
  split
  · exact h _ rfl
  · rfl

end SessionEvent

namespace Transcript

/-- No socket is opened for a query, and no query leaves. -/
def AsksNothing (es : Transcript) : Prop :=
  ∀ e ∈ es, e.opensQuery = false ∧ e.sendsQuery = false

/-- How many sockets are opened for queries. -/
def querySockets (es : Transcript) : Nat :=
  es.countP SessionEvent.opensQuery

/-- How many queries leave. -/
def queries (es : Transcript) : Nat :=
  es.countP SessionEvent.sendsQuery

variable {es es' : Transcript} {socket : Socket} {n : Nat}

@[simp] theorem querySockets_append : querySockets (es ++ es') = querySockets es + querySockets es' :=
  List.countP_append

@[simp] theorem queries_append : queries (es ++ es') = queries es + queries es' :=
  List.countP_append

theorem asksNothing_nil : AsksNothing [] :=
  List.forall_mem_nil _

theorem AsksNothing.append (h : AsksNothing es) (h' : AsksNothing es') : AsksNothing (es ++ es') :=
  List.forall_mem_append.2 ⟨h, h'⟩

theorem AsksNothing.querySockets (h : AsksNothing es) : es.querySockets = 0 :=
  List.countP_eq_zero.2 fun e he => by rw [(h e he).1]; nofun

theorem AsksNothing.queries (h : AsksNothing es) : es.queries = 0 :=
  List.countP_eq_zero.2 fun e he => by rw [(h e he).2]; nofun

theorem asksNothing_of_verbs
    (h : All (fun v => ∀ s : Socket, v = .datagram s → s.role.isQuery = false) es) :
    AsksNothing es :=
  fun e he => ⟨SessionEvent.opensQuery_of_verb (h e he), SessionEvent.sendsQuery_of_verb (h e he)⟩

theorem asksNothing_of_upkeep (h : All (fun v => v = .aside ∨ ∃ s, v = .register s) es) :
    AsksNothing es :=
  asksNothing_of_verbs (h.imp fun v hv s hs => by
    rw [hs] at hv
    rcases hv with hv | ⟨_, hv⟩ <;> nomatch hv)

theorem asksNothing_of_setup (h : All (fun v => ∃ socket, Verb.IsSetup socket v) es) :
    AsksNothing es :=
  asksNothing_of_verbs (h.imp fun v ⟨_, hv⟩ s hs => by
    rw [hs] at hv
    rcases hv with hv | hv | hv <;> nomatch hv)

theorem OfClient.asksNothing (h : OfClient es) : AsksNothing es := by
  refine asksNothing_of_verbs fun e he s hs => ?_
  obtain ⟨c, a⟩ := e
  have hc := h _ he
  cases c <;> simp only [SessionCall.verb, reduceCtorEq] at hs <;> exact hc.elim

/-- The calls by which name servers are asked: at most one socket is opened for a query, and `n`
    queries leave. -/
structure Inquires (n : Nat) (es : Transcript) : Prop where
  offStream : All Verb.IsOffStream es
  sockets : es.querySockets ≤ 1
  queries : es.queries = n

theorem AsksNothing.inquires (h : AsksNothing es) (hall : All Verb.IsOffStream es) : Inquires 0 es :=
  ⟨hall, by rw [h.querySockets]; exact Nat.zero_le 1, h.queries⟩

/-- Calls that ask nothing follow. -/
theorem Inquires.append (h : Inquires n es) (h' : AsksNothing es') (hall : All Verb.IsOffStream es') :
    Inquires n (es ++ es') where
  offStream := h.offStream.append hall
  sockets := by
    rw [querySockets_append, h'.querySockets]
    exact h.sockets
  queries := by
    rw [queries_append, h'.queries]
    exact h.queries

/-- A line of the log follows. -/
theorem Inquires.log (h : Inquires n es) {mark : LogMark} {line : LogLine} :
    Inquires n (es ++ [⟨.log mark line, ()⟩]) :=
  h.append (List.forall_mem_singleton.2 ⟨rfl, rfl⟩) (all_singleton trivial)

/-- The calls between are no queries, and do not matter to any stream. -/
def Spares (es es' : Transcript) : Prop :=
  ∃ es₁, es' = es ++ es₁ ∧ All Verb.IsOffStream es₁ ∧ AsksNothing es₁

theorem Spares.refl (es : Transcript) : Spares es es :=
  ⟨[], (List.append_nil es).symm, all_nil, asksNothing_nil⟩

theorem Spares.trans {es'' : Transcript} (h : Spares es es') (h' : Spares es' es'') :
    Spares es es'' := by
  obtain ⟨es₁, rfl, hall₁, hask₁⟩ := h
  obtain ⟨es₂, rfl, hall₂, hask₂⟩ := h'
  exact ⟨es₁ ++ es₂, List.append_assoc .., hall₁.append hall₂, hask₁.append hask₂⟩

theorem Spares.log {mark : LogMark} {line : LogLine} (h : Spares es es') :
    Spares es (es' ++ [⟨.log mark line, ()⟩]) :=
  h.trans ⟨_, rfl, all_singleton trivial, List.forall_mem_singleton.2 ⟨rfl, rfl⟩⟩

end Transcript

/-! ## Datagram sockets -/

namespace Talk

variable {turns : Nat} {s : Socket} {es : Transcript}

theorem openDatagram_sockets {addr : Endpoint} {r : Except IoError Unit}
    (h : Run (openDatagram s addr) es r) :
    es.querySockets = s.role.isQuery.toNat ∧ es.queries = 0 := by
  obtain ⟨(a : Except IoError Unit), es', rfl, h'⟩ := run_ask_iff.1 h
  have hone {rest : Transcript} (hrest : rest.querySockets = 0) :
      Transcript.querySockets (⟨.bindDatagram s addr, a⟩ :: rest) = s.role.isQuery.toNat := by
    rw [Transcript.querySockets] at hrest ⊢
    cases hs : s.role.isQuery <;> simp [SessionEvent.opensQuery, hs, hrest]
  cases a with
  | error e =>
    obtain ⟨rfl, -⟩ := run_done_iff.1 h'
    exact ⟨hone rfl, rfl⟩
  | ok _ =>
    obtain ⟨(b : Except IoError Unit), es'', rfl, h''⟩ := run_ask_iff.1 h'
    obtain ⟨rfl, -⟩ := run_done_iff.1 h''
    exact ⟨hone rfl, rfl⟩

theorem openDatagram_asksNothing {addr : Endpoint} {r : Except IoError Unit}
    (hs : s.role.isQuery = false) (h : Run (openDatagram s addr) es r) : es.AsksNothing := by
  obtain ⟨ho, hq⟩ := openDatagram_sockets h
  rw [hs] at ho
  intro e he
  have ho := List.countP_eq_zero.1 ho e he
  have hq := List.countP_eq_zero.1 hq e he
  exact ⟨by simpa using ho, by simpa using hq⟩

theorem sendTo_queries {data : Bytes} {dest : Endpoint} {r : Except IoError Bool}
    (hs : s.role.isQuery = true) (h : Run (sendTo turns s data dest) es r) :
    es.querySockets = 0 ∧ (r ≠ .ok true → es.queries = 0) ∧
      (r = .ok true → es.queries = 1 ∧
        ⟨.sendTo s data dest, (.ok () : Except IoError Unit)⟩ ∈ es) := by
  obtain ⟨es₀, a, rfl, hes₀, hr⟩ := sendTo_cases h
  have hfruitless : Transcript.AsksNothing es₀ := by
    intro e he
    obtain ⟨error, rfl⟩ := hes₀ e he
    exact ⟨rfl, rfl⟩
  rw [Transcript.querySockets_append, Transcript.queries_append, hfruitless.querySockets,
    hfruitless.queries, hr]
  cases a with
  | ok _ =>
    refine ⟨rfl, fun h => absurd (hr.2 rfl) h, fun _ => ⟨?_, List.mem_append_right _ List.mem_cons_self⟩⟩
    simp [Transcript.queries, SessionEvent.sendsQuery, hs]
  | error e => exact ⟨rfl, fun _ => rfl, nofun⟩

/-- A query leaves behind calls by which none has left, or does not. -/
theorem sendTo_inquires {es₁ : Transcript} {n : Nat} {data : Bytes} {dest : Endpoint}
    {r : Except IoError Bool} (hes : Transcript.Inquires 0 es₁) (hs : s.role.isQuery = true)
    (h : Run (sendTo turns s data dest) es r) (hn : es.queries = n) :
    Transcript.Inquires n (es₁ ++ es) where
  offStream := hes.offStream.append (sendTo_all h)
  sockets := by
    rw [Transcript.querySockets_append, (sendTo_queries hs h).1]
    exact hes.sockets
  queries := by rw [Transcript.queries_append, hes.queries, Nat.zero_add, hn]

theorem sendTo_asksNothing {data : Bytes} {dest : Endpoint} {r : Except IoError Bool}
    (hs : s.role.isQuery = false) (h : Run (sendTo turns s data dest) es r) : es.AsksNothing := by
  obtain ⟨es₀, a, rfl, hes₀, -⟩ := sendTo_cases h
  refine Transcript.AsksNothing.append (fun e he => ?_) (List.forall_mem_singleton.2 ⟨rfl, ?_⟩)
  · obtain ⟨error, rfl⟩ := hes₀ e he
    exact ⟨rfl, rfl⟩
  · cases a with
    | ok _ => exact hs
    | error e => rfl

theorem receiveFrom_asksNothing {max : Nat} {r : Except IoError (Option (Chunk max × Endpoint))}
    (h : Run (receiveFrom turns s max) es r) : es.AsksNothing := by
  intro e he
  obtain ⟨a, rfl⟩ := (receiveFrom_cases h).1 e he
  exact ⟨rfl, rfl⟩

end Talk

/-! ## Lookups -/

namespace Handler

variable {ctx : Context} {w : Work} {es : Transcript}

/-- A lookup sends its query, or the session cannot go on. -/
theorem startLookup_inquires {name : DomainName} {server : Endpoint} (hl : w.session.NoLookups) :
    (startLookup ctx name server).Always w es
      (fun _ w' es' => ∃ (es₁ : Transcript) (slot : Fin Role.maxQueries) (id : UInt16)
        (query : Dns.Query), es' = es ++ es₁ ∧ Dns.Query.ofText id name.text .a = .ok query ∧
          ⟨.sendTo ⟨.query slot, 0⟩ query.encode server, (.ok () : Except IoError Unit)⟩ ∈ es₁ ∧
          Transcript.Inquires 1 es₁ ∧
          w'.session = { w.session with
            lookups :=
              w.session.lookups.set slot.val (some ⟨⟨.query slot, 0⟩, server, id, name⟩) slot.isLt })
      (fun e w' es' => w'.session = w.session ∧ e.IsFinal ∧ (∀ what, e ≠ .exhausted what) ∧
        ∃ es₁, es' = es ++ es₁ ∧ Transcript.Inquires 0 es₁) := by
  have hopened {slot : Fin Role.maxQueries} {es₁ : Transcript} {r : Except IoError Unit}
      (h : Run (Talk.openDatagram ⟨.query slot, 0⟩ (Endpoint.wildcard server.ip)) es₁ r) :
      Transcript.Inquires 0 es₁ := by
    obtain ⟨ho, hq⟩ := Talk.openDatagram_sockets h
    exact ⟨Talk.openDatagram_all (by nofun) h, by rw [ho]; exact Nat.le_refl 1, hq⟩
  refine (startLookup_cases.shift es).imp ?_ ?_
  · rintro _ w' _ ⟨es₁, rfl, h⟩
    cases h with
    | sent _ hquery h₁ h₂ =>
      obtain ⟨-, -, hsent⟩ := Talk.sendTo_queries rfl h₂
      exact ⟨_, _, _, _, rfl, hquery,
        List.mem_append_left _ (List.mem_append_right _ (hsent rfl).2),
        (Talk.sendTo_inquires (hopened h₁) rfl h₂ (hsent rfl).1).log, rfl⟩
  · rintro e w' _ ⟨es₁, rfl, h⟩
    cases h with
    | full hslot => exact absurd hslot hl.findSlot_ne_none
    | unasked =>
      exact ⟨rfl, nofun, nofun, _, rfl, Transcript.asksNothing_nil.inquires Transcript.all_nil⟩
    | unopened _ h₁ => exact ⟨rfl, nofun, nofun, _, rfl, hopened h₁⟩
    | unsent _ h₁ h₂ hr h₃ hfinal hne =>
      obtain ⟨-, hkept, -⟩ := Talk.sendTo_queries rfl h₂
      have hclosed := Transcript.asksNothing_of_upkeep
        ((Talk.deregister_all h₃).imp fun v hv => hv.imp_right fun h => ⟨_, h⟩)
      exact ⟨rfl, hfinal, hne, _, rfl, (Talk.sendTo_inquires (hopened h₁) rfl h₂ (hkept hr)).append
        hclosed (Talk.deregister_offStream (by nofun) h₃)⟩

/-- A datagram is the answer of the name server to the query. -/
def Answered (lookup : Lookup) (es : Transcript) (addresses : List Ip) : Prop :=
  ∃ datagram : Chunk datagramSize,
    ⟨.receiveFrom lookup.socket datagramSize,
      (.ok (datagram, lookup.server) : Except IoError (Chunk datagramSize × Endpoint))⟩ ∈ es ∧
    Dns.addressesIn lookup.id datagram = .ok addresses

theorem receiveAnswer_spares {lookup : Lookup} {turns : Nat} :
    (receiveAnswer ctx lookup turns).Always w es
      (fun a w' es' => w' = w ∧ es.Spares es' ∧ ∀ addresses, a = some addresses →
        Answered lookup es' addresses)
      (fun _ w' es' => w' = w ∧ es.Spares es') := by
  induction turns generalizing es with
  | zero =>
    rw [receiveAnswer, always_talk]
    exact fun _ _ h => absurd h not_run_stuck
  | succ turns ih =>
    -- A datagram that is no answer is logged, and the next one is looked at.
    have hnext {es₁ : Transcript} {level : LogLevel} {text : String} (h : es.Spares es₁) :
        (do talk (Talk.log .unmarked level .sockets text); receiveAnswer ctx lookup turns :
          Handler (Option (List Ip))).Always w es₁
          (fun a w' es' => w' = w ∧ es.Spares es' ∧ ∀ addresses, a = some addresses →
            Answered lookup es' addresses)
          (fun _ w' es' => w' = w ∧ es.Spares es') := by
      rw [always_bind, always_talk]
      intro es₂ _ h₂
      obtain rfl := run_log_iff.1 h₂
      exact ih.imp (fun _ _ _ h₃ => ⟨h₃.1, h.log.trans h₃.2.1, h₃.2.2⟩)
        fun _ _ _ h₃ => ⟨h₃.1, h.log.trans h₃.2⟩
    rw [receiveAnswer, always_bind, always_attempt]
    intro es₁ r₁ h₁
    have hreceived : es.Spares (es ++ es₁) :=
      ⟨es₁, rfl, Talk.receiveFrom_all h₁, Talk.receiveFrom_asksNothing h₁⟩
    rcases r₁ with e | _ | ⟨datagram, source⟩
    · exact ⟨rfl, hreceived⟩
    · simp only
      rw [always_pure]
      refine ⟨rfl, hreceived, ?_⟩
      rintro _ ⟨⟩
    · simp only
      split
      · exact hnext hreceived
      · next hsource =>
        obtain rfl : source = lookup.server := Decidable.not_not.1 hsource
        split
        · next addresses haddresses =>
          rw [always_pure]
          refine ⟨rfl, hreceived, ?_⟩
          rintro _ ⟨⟩
          exact ⟨datagram, List.mem_append_right _ ((Talk.receiveFrom_cases h₁).2 _ rfl), haddresses⟩
        · exact hnext hreceived
        · rw [always_fail]
          exact ⟨rfl, hreceived⟩

theorem lookupResult_spares {lookup : Lookup} {r : Readiness} :
    (lookupResult ctx lookup r).Always w es
      (fun a w' es' => w' = w ∧ es.Spares es' ∧ ∀ addresses, a = some addresses →
        Answered lookup es' addresses)
      (fun _ w' es' => w' = w ∧ es.Spares es') := by
  rw [lookupResult]
  split
  · rw [always_fail]
    exact ⟨rfl, .refl es⟩
  · exact receiveAnswer_spares

/-! ## Associations -/

end Handler

/-- The session is an association, with sockets of the roles for one. -/
structure Session.Associates (s : Session) : Prop where
  stage : s.stage = .associated
  relay : ∃ ports, s.relay = some ⟨⟨.relay, 0⟩, ports⟩
  remote : s.remote = some (.datagram ⟨.remote, 0⟩)

namespace Handler

variable {ctx : Context} {w : Work} {es : Transcript}

/-- At every end the session is still an association, and nothing was asked. -/
def Carries {α : Type} (h : Handler α) (w : Work) (es : Transcript) : Prop :=
  h.Always w es (fun _ w' es' => w'.session.Associates ∧ es.Spares es')
    (fun _ w' es' => w'.session.Associates ∧ es.Spares es')

theorem Carries.bind {α β : Type} {h : Handler α} {f : α → Handler β} (hh : Carries h w es)
    (hf : ∀ a w' es', w'.session.Associates → Carries (f a) w' es') : Carries (h >>= f) w es := by
  rw [Carries, always_bind]
  refine Always.imp hh (fun a w₁ es₁ ⟨hw₁, h₁⟩ => ?_) fun _ _ _ h => h
  exact Always.imp (hf a w₁ es₁ hw₁) (fun _ _ _ h₂ => ⟨h₂.1, h₁.trans h₂.2⟩)
    fun _ _ _ h₂ => ⟨h₂.1, h₁.trans h₂.2⟩

section
variable (hw : w.session.Associates)
include hw

theorem carries_pure {α : Type} {a : α} : Carries (pure a : Handler α) w es :=
  always_pure.2 ⟨hw, .refl es⟩

theorem carries_log {level : LogLevel} {text : String} : Carries (log level text) w es :=
  always_log.2 ⟨hw, (Transcript.Spares.refl es).log⟩

theorem carries_behindEvent {α β : Type} {socket : Socket} {next : α → Handler β} :
    Carries (do
      let a ← fail (.transport (IoError.behindEvent (← ask (.pendingError socket))))
      next a) w es := by
  rw [Carries, always_bind, always_ask]
  intro (x : Except IoError (Option IoError))
  refine always_bind.2 (always_fail.2 ⟨hw, _, rfl, Transcript.all_singleton trivial, ?_⟩)
  exact List.forall_mem_singleton.2 ⟨rfl, rfl⟩

/-- Sends a datagram. -/
theorem carries_sendTo {s : Socket} {data : Bytes} {dest : Endpoint} {turns : Nat}
    (hs : s.role.isQuery = false) : Carries (attempt (Talk.sendTo turns s data dest)) w es := by
  rw [Carries, always_attempt]
  intro es₁ r h₁
  have h : es.Spares (es ++ es₁) := ⟨es₁, rfl, Talk.sendTo_all h₁, Talk.sendTo_asksNothing hs h₁⟩
  cases r <;> exact ⟨hw, h⟩

/-- Receives a datagram. -/
theorem carries_receiveFrom {s : Socket} {max turns : Nat} :
    Carries (attempt (Talk.receiveFrom turns s max)) w es := by
  rw [Carries, always_attempt]
  intro es₁ r h₁
  have h : es.Spares (es ++ es₁) :=
    ⟨es₁, rfl, Talk.receiveFrom_all h₁, Talk.receiveFrom_asksNothing h₁⟩
  cases r <;> exact ⟨hw, h⟩

theorem forward_carries {ports : PortMap} {remote : Socket} {datagram : Bytes} {source : Endpoint}
    (hr : remote.role.isQuery = false) :
    Carries (forward ctx ⟨⟨.relay, 0⟩, ports⟩ remote datagram source) w es := by
  rw [forward]
  obtain ⟨fate, ports'⟩ := PortMap.fromClient ports datagram source
  rw [Carries, always_bind, always_update]
  have hw' : Session.Associates { w.session with relay := some ⟨⟨.relay, 0⟩, ports'⟩ } :=
    ⟨hw.stage, ⟨ports', rfl⟩, hw.remote⟩
  cases fate with
  | drop reason => exact carries_log (w := ⟨_, w.ids⟩) hw'
  | forward dest payload =>
    simp only
    rw [always_bind, always_session]
    split
    · exact carries_log (w := ⟨_, w.ids⟩) hw'
    · refine Carries.bind (carries_sendTo (w := ⟨_, w.ids⟩) hw' hr) fun sent w₁ es₁ hw₁ => ?_
      split
      · exact carries_log hw₁
      · exact carries_pure hw₁

theorem deliver_carries {ports : PortMap} {payload : Bytes} {source : Endpoint} :
    Carries (deliver ctx ⟨⟨.relay, 0⟩, ports⟩ payload source) w es := by
  rw [deliver]
  split
  · refine (carries_sendTo hw rfl).bind fun sent w₁ es₁ hw₁ => ?_
    split
    · exact carries_log hw₁
    · exact carries_pure hw₁
  · exact carries_log hw

theorem forwardAll_carries {remote : Socket} {turns : Nat} (hr : remote.role.isQuery = false) :
    Carries (forwardAll ctx remote turns) w es := by
  induction turns generalizing w es with
  | zero =>
    rw [Carries, forwardAll, always_talk]
    exact fun _ _ h => absurd h not_run_stuck
  | succ turns ih =>
    obtain ⟨ports, hrelay⟩ := hw.relay
    rw [Carries, forwardAll, always_bind, always_session, hrelay]
    refine Carries.bind (carries_receiveFrom hw) fun found w₁ es₁ hw₁ => ?_
    cases found with
    | none => exact carries_pure hw₁
    | some found => exact (forward_carries hw₁ hr).bind fun _ _ _ hw₂ => ih hw₂

theorem deliverAll_carries {ports : PortMap} {remote : Socket} {turns : Nat} :
    Carries (deliverAll ctx ⟨⟨.relay, 0⟩, ports⟩ remote turns) w es := by
  induction turns generalizing w es with
  | zero =>
    rw [Carries, deliverAll, always_talk]
    exact fun _ _ h => absurd h not_run_stuck
  | succ turns ih =>
    refine (carries_receiveFrom hw).bind fun found w₁ es₁ hw₁ => ?_
    cases found with
    | none => exact carries_pure hw₁
    | some found => exact (deliver_carries hw₁).bind fun _ _ _ hw₂ => ih hw₂

theorem onRelay_carries {r : Readiness} : Carries (onRelay ctx r) w es := by
  obtain ⟨ports, hrelay⟩ := hw.relay
  rw [Carries, onRelay, always_bind, always_session, hrelay]
  by_cases he : r.error = true
  · simp only [he, if_true]
    exact carries_behindEvent hw
  · simp only [he, Bool.false_eq_true, if_false, hw.remote]
    exact forwardAll_carries hw rfl

theorem onRemoteDatagram_carries {r : Readiness} :
    Carries (onRemoteDatagram ctx r ⟨.remote, 0⟩) w es := by
  obtain ⟨ports, hrelay⟩ := hw.relay
  rw [Carries, onRemoteDatagram]
  split
  · exact carries_behindEvent hw
  · rw [always_bind, always_session, hrelay]
    exact deliverAll_carries hw

end

end Handler

end SocksProxy
