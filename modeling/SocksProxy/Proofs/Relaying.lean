/-
  Associations relay what they are to relay.

  * `Exchanges es s`: the port map of a session represents the ledger of the datagrams that have arrived, and
    what was posted is what the exchange asks for. It is kept by a datagram that is answered
    (`Exchanges.answered`), whichever side it came from;
  * `association_relays` is the result for whole sessions.
-/
import SocksProxy.Proofs.Exchange
import SocksProxy.Proofs.Rehearsal

namespace SocksProxy

open Dialogue

/-! ## What is kept -/

/-- What the association of a session has admitted and is to have posted behind the calls. -/
def Session.desk (s : Session) (es : Transcript) : Desk :=
  exchange s.client.peer.ip s.client.localAddress.ip.isV4 es.arrived

/-- The sockets that relay datagrams are those of an association, and it has posted what the exchange asks
    for. -/
structure Exchanges (es : Transcript) (s : Session) : Prop where
  lookups : ∀ (slot : Nat) (lookup : Lookup), s.lookups[slot]? = some (some lookup) →
    lookup.socket.role.isRelaying = false
  remote : ∀ socket, s.remote = some (.datagram socket) → socket.role = .remote
  silent : s.relay = none → es.arrived = [] ∧ es.posted = []
  socket : ∀ relay, s.relay = some relay → relay.socket.role = .relay
  ports : ∀ relay, s.relay = some relay →
    (s.desk es).ledger.Represents s.client.peer.ip relay.ports
  posted : es.posted.map Prod.fst = (s.desk es).outbox

/-- Besides, no socket has failed, and there is no association before it was asked for. -/
structure Exchanging (es : Transcript) (s : Session) : Prop extends Exchanges es s where
  intact : ∀ x ∈ es.posted, x.2 ≠ .broken
  early : s.stage.rank ≤ 1 → s.relay = none

/-- Behind a handler that has ended a session because a call failed, a datagram may have been lost. -/
def ExchangeOver (e : SessionError) (es : Transcript) (s : Session) : Prop :=
  Exchanging es s ∨ (∃ cause, e = .transport cause) ∧ Exchanges es s

section
variable {es es' : Transcript} {s s' : Session} {relay : Relay}

/-- Calls at which no datagram arrives and none is posted do not matter. -/
theorem Exchanges.behind (h : Exchanges es s) (ha : es'.arrived = []) (hp : es'.posted = []) :
    Exchanges (es ++ es') s where
  lookups := h.lookups
  remote := h.remote
  silent hr := by
    rw [Transcript.arrived_append, Transcript.posted_append, ha, hp, List.append_nil, List.append_nil]
    exact h.silent hr
  socket := h.socket
  ports := by
    rw [Session.desk, Transcript.arrived_append, ha, List.append_nil]
    exact h.ports
  posted := by
    rw [Session.desk, Transcript.arrived_append, Transcript.posted_append, ha, hp, List.append_nil,
      List.append_nil]
    exact h.posted

theorem Exchanging.behind (h : Exchanging es s) (ha : es'.arrived = []) (hp : es'.posted = []) :
    Exchanging (es ++ es') s where
  toExchanges := h.toExchanges.behind ha hp
  intact := by
    rw [Transcript.posted_append, hp, List.append_nil]
    exact h.intact
  early := h.early

theorem Exchanging.still (h : Exchanging es s) (h' : es'.Still) : Exchanging (es ++ es') s :=
  h.behind h'.arrived h'.posted

theorem Session.datagram_of_outline {socket : Socket} (h : s'.outline = s.outline)
    (hs : s'.remote = some (.datagram socket)) : s.remote = some (.datagram socket) := by
  have hremote := congrArg Outline.remote h
  simp only [Session.outline, hs, Option.map_some, Remote.outline] at hremote
  obtain ⟨remote, hrem, heq⟩ := Option.map_eq_some_iff.1 hremote.symm
  cases remote <;> cases heq
  exact hrem

theorem Exchanges.alike (h : Exchanges es s) (heq : s'.outline = s.outline) : Exchanges es s' := by
  have hout := heq
  simp only [Session.outline, Outline.mk.injEq] at hout
  obtain ⟨-, hpeer, hlocal, -, hrelay, -, hlookups⟩ := hout
  have hdesk : s'.desk es = s.desk es := by rw [Session.desk, Session.desk, hpeer, hlocal]
  exact {
    lookups := by rw [hlookups]; exact h.lookups
    remote := fun socket hs => h.remote socket (Session.datagram_of_outline heq hs)
    silent := by rw [hrelay]; exact h.silent
    socket := by rw [hrelay]; exact h.socket
    ports := by rw [hrelay, hdesk, hpeer]; exact h.ports
    posted := by rw [hdesk]; exact h.posted }

theorem Exchanging.alike (h : Exchanging es s) (heq : s'.outline = s.outline) : Exchanging es s' := by
  have hout := heq
  simp only [Session.outline, Outline.mk.injEq] at hout
  obtain ⟨hrank, -, -, -, hrelay, -, -⟩ := hout
  exact { h.toExchanges.alike heq with
    intact := h.intact
    early := by rw [hrank, hrelay]; exact h.early }

theorem exchanging_enduring : Enduring Exchanging where
  call h he := h.still (Transcript.plain_singleton he).still
  alike h heq := h.alike heq

theorem exchangeOver_enduring (e : SessionError) : Enduring (ExchangeOver e) where
  call h he := by
    have hstill := (Transcript.plain_singleton he).still
    exact h.imp (fun h => h.still hstill) fun h => ⟨h.1, h.2.behind hstill.arrived hstill.posted⟩
  alike h heq := h.imp (fun h => h.alike heq) fun h => ⟨h.1, h.2.alike heq⟩

/-- A datagram was answered: it was taken down, and what was due was posted. -/
theorem Exchanges.answered {p : Packet} {out : List (Packet × Fate)} {ports : PortMap}
    (h : Exchanges es s) (hr : s.relay = some relay) (ha : es'.arrived = es.arrived ++ [p])
    (hp : es'.posted = es.posted ++ out)
    (hports : ((s.desk es).take s.client.peer.ip s.client.localAddress.ip.isV4 p).ledger.Represents
      s.client.peer.ip ports)
    (hout : ((s.desk es).take s.client.peer.ip s.client.localAddress.ip.isV4 p).outbox =
      (s.desk es).outbox ++ out.map Prod.fst) :
    Exchanges es' { s with relay := some { relay with ports } } where
  lookups := h.lookups
  remote := h.remote
  silent hn := nomatch hn
  socket := by
    rintro _ ⟨⟩
    exact h.socket relay hr
  ports := by
    rintro _ ⟨⟩
    rw [Session.desk, ha, exchange_append]
    exact hports
  posted := by
    rw [Session.desk, ha, exchange_append, hp, List.map_append, h.posted]
    exact hout.symm

/-- What was posted for a datagram, and that it has not failed. -/
theorem Exchanging.answered {p : Packet} {out : List (Packet × Fate)} {ports : PortMap}
    (h : Exchanging es s) (hr : s.relay = some relay) (ha : es'.arrived = es.arrived ++ [p])
    (hp : es'.posted = es.posted ++ out)
    (hports : ((s.desk es).take s.client.peer.ip s.client.localAddress.ip.isV4 p).ledger.Represents
      s.client.peer.ip ports)
    (hout : ((s.desk es).take s.client.peer.ip s.client.localAddress.ip.isV4 p).outbox =
      (s.desk es).outbox ++ out.map Prod.fst)
    (hintact : ∀ x ∈ out, x.2 ≠ .broken) :
    Exchanging es' { s with relay := some { relay with ports } } where
  toExchanges := h.toExchanges.answered hr ha hp hports hout
  intact := by
    rw [hp]
    exact List.forall_mem_append.2 ⟨h.intact, hintact⟩
  early hrank := by
    rw [h.early hrank] at hr
    nomatch hr

end

/-! ## Handlers -/

namespace Handler

variable {ctx : Context} {relay : Relay} {es es₀ : Transcript} {s : Session} {ids : Dns.QueryIds}
  {level : LogLevel} {text : String}

section
variable {p : Packet} {ports : PortMap} (hw : Exchanging es₀ s) (hr : s.relay = some relay)
  (ha : es.arrived = es₀.arrived ++ [p]) (hp : es.posted = es₀.posted)
  (hports : ((s.desk es₀).take s.client.peer.ip s.client.localAddress.ip.isV4 p).ledger.Represents
    s.client.peer.ip ports)
include hw hr ha hp hports

/-- A packet is answered with nothing. -/
theorem always_log_answered
    (hout : ((s.desk es₀).take s.client.peer.ip s.client.localAddress.ip.isV4 p).outbox =
      (s.desk es₀).outbox) :
    (log level text).Always ⟨{ s with relay := some { relay with ports } }, ids⟩ es
      (fun _ w' es' => Exchanging es' w'.session ∧
        w'.session = { s with relay := some { relay with ports } })
      (fun e w' es' => ExchangeOver e es' w'.session) := by
  have hdone := hw.answered hr ha (hp.trans (List.append_nil _).symm) hports
    (hout.trans (List.append_nil _).symm) (List.forall_mem_nil _)
  exact always_log.2 ⟨exchanging_enduring.call hdone rfl, rfl⟩

/-- A packet is answered with one datagram. It may turn out that it cannot leave now. -/
theorem always_post_answered {socket : Socket} {data : Bytes} {dest : Endpoint}
    (hsocket : socket.role.isRelaying = true)
    (hout : ((s.desk es₀).take s.client.peer.ip s.client.localAddress.ip.isV4 p).outbox =
      (s.desk es₀).outbox ++ [⟨socket.role, data, dest⟩]) :
    (do if !(← attempt (Talk.sendTo ctx.turns socket data dest)) then log level text :
        Handler Unit).Always ⟨{ s with relay := some { relay with ports } }, ids⟩ es
      (fun _ w' es' => Exchanging es' w'.session ∧
        w'.session = { s with relay := some { relay with ports } })
      (fun e w' es' => ExchangeOver e es' w'.session) := by
  rw [always_bind, always_attempt]
  intro es₁ r hrun
  obtain ⟨ha₁, hp₁⟩ := Talk.sendTo_posted hsocket hrun
  have ha' : (es ++ es₁).arrived = es₀.arrived ++ [p] := by
    rw [Transcript.arrived_append, ha₁, List.append_nil, ha]
  have hp' : (es ++ es₁).posted = es₀.posted ++ [(⟨socket.role, data, dest⟩, Fate.ofSent r)] := by
    rw [Transcript.posted_append, hp₁, hp]
  cases r with
  | error e => exact .inr ⟨⟨e, rfl⟩, hw.toExchanges.answered hr ha' hp' hports hout⟩
  | ok left =>
    have hintact : Fate.ofSent (.ok left) ≠ .broken := by cases left <;> nofun
    have hdone := hw.answered hr ha' hp' hports hout (List.forall_mem_singleton.2 hintact)
    cases left with
    | true => exact always_pure.2 ⟨hdone, rfl⟩
    | false => exact always_log.2 ⟨exchanging_enduring.call hdone rfl, rfl⟩

end

/-- A datagram of the client that has arrived is answered. -/
theorem forward_answers {remote : Socket} {datagram : Bytes} {source : Endpoint}
    (hw : Exchanging es₀ s) (hr : s.relay = some relay) (hremote : s.remote = some (.datagram remote))
    (ha : es.arrived = es₀.arrived ++ [⟨.relay, datagram, source⟩]) (hp : es.posted = es₀.posted) :
    (forward ctx relay remote datagram source).Always ⟨s, ids⟩ es
      (fun _ w' es' => Exchanging es' w'.session ∧ w'.session.remote = some (.datagram remote))
      (fun e w' es' => ExchangeOver e es' w'.session) := by
  have hrole := hw.remote remote hremote
  have hrep := hw.ports relay hr
  have hstep := hrep.fromClient datagram source
  unfold forward
  cases hadm : (s.desk es₀).ledger.admits s.client.peer.ip datagram source with
  | none =>
    rw [hadm] at hstep
    obtain ⟨reason, hfate⟩ := hstep
    have htake : (s.desk es₀).take s.client.peer.ip s.client.localAddress.ip.isV4
        ⟨.relay, datagram, source⟩ = s.desk es₀ := by
      simp only [Desk.take, hadm, if_true]
    rw [hfate]
    simp only [always_bind, always_update]
    exact (always_log_answered hw hr ha hp (by rw [htake]; exact hrep) (by rw [htake])).imp
      (fun _ _ _ h => ⟨h.1, by rw [h.2]; exact hremote⟩) fun _ _ _ h => h
  | some admitted =>
    obtain ⟨dest, payload⟩ := admitted
    rw [hadm] at hstep
    have hfate : relay.ports.fromClient datagram source = _ := hstep
    have hports : ((s.desk es₀).take s.client.peer.ip s.client.localAddress.ip.isV4
        ⟨.relay, datagram, source⟩).ledger.Represents s.client.peer.ip
          { relay.ports with ports := relay.ports.ports.insert dest.port source.port } := by
      simp only [Desk.take, hadm, if_true]
      exact hrep.insert source.port
    rw [hfate]
    simp only [always_bind, always_update, always_session]
    by_cases hfamily : dest.ip.isV4 = s.client.localAddress.ip.isV4
    · rw [if_neg (by simp [hfamily])]
      refine (always_post_answered hw hr ha hp hports (by rw [hrole]; rfl) ?_).imp
        (fun _ _ _ h => ⟨h.1, by rw [h.2]; exact hremote⟩) fun _ _ _ h => h
      simp only [Desk.take, hadm, hfamily, hrole, if_true]
    · rw [if_pos (by simp [hfamily])]
      refine (always_log_answered hw hr ha hp hports ?_).imp
        (fun _ _ _ h => ⟨h.1, by rw [h.2]; exact hremote⟩) fun _ _ _ h => h
      simp only [Desk.take, hadm, if_neg hfamily, if_true]

/-- A datagram of the remote side that has arrived is answered. -/
theorem deliver_answers {payload : Bytes} {source : Endpoint}
    (hw : Exchanging es₀ s) (hr : s.relay = some relay)
    (ha : es.arrived = es₀.arrived ++ [⟨.remote, payload, source⟩]) (hp : es.posted = es₀.posted) :
    (deliver ctx relay payload source).Always ⟨s, ids⟩ es
      (fun _ w' es' => Exchanging es' w'.session ∧ w'.session = s)
      (fun e w' es' => ExchangeOver e es' w'.session) := by
  have hrole := hw.socket relay hr
  have hrep := hw.ports relay hr
  have hsame : { s with relay := some { relay with ports := relay.ports } } = s := by
    rw [← hr]
  have hwork : (⟨s, ids⟩ : Work) = ⟨{ s with relay := some { relay with ports := relay.ports } }, ids⟩ := by
    rw [hsame]
  have hkept : ((s.desk es₀).take s.client.peer.ip s.client.localAddress.ip.isV4
      ⟨.remote, payload, source⟩).ledger.Represents s.client.peer.ip relay.ports := by
    rw [Desk.take, if_neg (by nofun)]
    split <;> exact hrep
  unfold deliver
  rw [hrep.toClient payload source]
  cases hport : (s.desk es₀).ledger.lookup source.port with
  | none =>
    simp only [Option.map_none]
    rw [hwork]
    refine (always_log_answered hw hr ha hp hkept ?_).imp (fun _ _ _ h => ⟨h.1, h.2.trans hsame⟩)
      fun _ _ _ h => h
    simp only [Desk.take, reduceCtorEq, if_false, hport]
  | some port =>
    simp only [Option.map_some]
    rw [hwork]
    refine (always_post_answered hw hr ha hp hkept (by rw [hrole]; rfl) ?_).imp
      (fun _ _ _ h => ⟨h.1, h.2.trans hsame⟩) fun _ _ _ h => h
    simp only [Desk.take, reduceCtorEq, if_false, hport, hrole]

end Handler

/-! ## Sessions -/

theorem Exchanging.withOutgoing {es : Transcript} {s : Session} (h : Exchanging es s)
    (out : Outgoing) : Exchanging es (s.withOutgoing out) where
  lookups := h.lookups
  remote := nofun
  silent := h.silent
  socket := h.socket
  ports := h.ports
  posted := h.posted
  intact := h.intact
  early := h.early

/-- An association starts with an empty ledger. -/
theorem Exchanges.associated {es : Transcript} {s : Session} (h : Exchanging es s)
    (hrank : s.stage.rank ≤ 1) {stage : Stage} {remote : Option Remote} {inbound : Bytes}
    (hremote : ∀ socket, remote = some (.datagram socket) → socket.role = .remote) :
    Exchanges es { s with
      stage
      remote
      relay := some ⟨⟨.relay, 0⟩, PortMap.new s.client.peer.ip⟩
      inbound } := by
  obtain ⟨ha, hp⟩ := h.silent (h.early hrank)
  exact {
    lookups := h.lookups
    remote := hremote
    silent := nofun
    socket := by rintro _ ⟨⟩; rfl
    ports := by
      rintro _ ⟨⟩
      rw [Session.desk, ha]
      exact Ledger.Represents.new
    posted := by
      rw [Session.desk, ha, hp]
      rfl }

theorem exchanging_upheld (ctx : Context) : Upheld ctx Exchanging ExchangeOver where
  enduring := exchanging_enduring
  fails _ _ _ h := .inl h
  lasts := exchangeOver_enduring
  cut h := by
    rcases h with h | ⟨⟨_, hcause⟩, -⟩
    · exact h
    · nomatch hcause
  advances h hrank := { h with early := fun hr => h.early (Nat.le_trans hrank hr) }
  missesQuery h _ h₁ := h.still (Talk.openDatagram_still h₁)
  withdraws h _ _ h₁ h₂ h₃ _ := .inl (((h.still (Talk.openDatagram_still h₁)).still
    (Talk.sendTo_still rfl h₂)).still (Talk.deregister_still h₃))
  queries h _ _ h₁ h₂ :=
    { (h.still (Talk.openDatagram_still h₁)).still (Talk.sendTo_still rfl h₂) with
      lookups := fun i found hf => by
        rw [Vector.getElem?_set] at hf
        split at hf
        · cases hf
          rfl
        · exact h.lookups i found hf }
  waits h hl hrun := h.still (Talk.receiveFrom_still (h.lookups _ _ hl) hrun)
  closesLookups {_ s _} h _ hrun :=
    have hnone : Session.NoLookups { s with lookups := .replicate _ none } := rfl
    { h.still (Transcript.still_of_upkeep (deregisterAll_upkeep hrun)) with
      lookups := fun i found hf => absurd hf (hnone.getElem? i found) }
  connects h _ := { h with remote := nofun, early := fun hr => absurd (show 2 ≤ 1 from hr) (by decide) }
  opens h hrun := (h.still (Talk.openStream_still hrun)).withOutgoing _
  misses h hrun := (h.still (Talk.openStream_still hrun)).withOutgoing _
  abandons h _ _ hrun := (h.still (Transcript.still_of_upkeep (closeStream_upkeep hrun))).withOutgoing _
  missesRelay h _ h₁ := .inl (h.still (Talk.openDatagram_still h₁))
  unboundRelay h _ h₁ :=
    .inl ((h.still (Talk.openDatagram_still h₁)).still (Transcript.still_singleton rfl rfl))
  halfAssociates h hrank h₁ h₂ :=
    .inr ⟨⟨_, rfl⟩, Exchanges.associated (((h.still (Talk.openDatagram_still h₁)).still
      (Transcript.still_singleton rfl rfl)).still (Talk.openDatagram_still h₂)) hrank h.remote⟩
  associates h hrank h₁ h₂ :=
    have hopened := ((h.still (Talk.openDatagram_still h₁)).still
      (Transcript.still_singleton rfl rfl)).still (Talk.openDatagram_still h₂)
    { Exchanges.associated hopened hrank (by rintro _ ⟨⟩; rfl) with
      intact := hopened.intact
      early := fun hr => absurd (show 4 ≤ 1 from hr) (by decide) }
  awaitsClient h hr hrun hnone := by
    obtain ⟨hp, ha⟩ := Talk.receiveFrom_arrived (by rw [h.socket _ hr]; rfl) hrun
    exact h.behind (ha.trans (Packet.found_eq_nil hnone)) hp
  forwards h hr hremote hrun ids := by
    obtain ⟨hp, ha⟩ := Talk.receiveFrom_arrived (by rw [h.socket _ hr]; rfl) hrun
    rw [h.socket _ hr] at ha
    exact Handler.forward_answers h hr hremote (by rw [Transcript.arrived_append, ha]; rfl)
      (by rw [Transcript.posted_append, hp, List.append_nil])
  awaitsRemote h hr hrun hnone := by
    obtain ⟨hp, ha⟩ := Talk.receiveFrom_arrived (by rw [h.remote _ hr]; rfl) hrun
    exact h.behind (ha.trans (Packet.found_eq_nil hnone)) hp
  delivers h hr hremote hrun ids := by
    obtain ⟨hp, ha⟩ := Talk.receiveFrom_arrived (by rw [h.remote _ hremote]; rfl) hrun
    rw [h.remote _ hremote] at ha
    refine (Handler.deliver_answers h hr (by rw [Transcript.arrived_append, ha]; rfl)
      (by rw [Transcript.posted_append, hp, List.append_nil])).imp (fun _ _ _ hdone => ?_)
      fun _ _ _ h => h
    rw [hdone.2]
    exact ⟨by rw [← hdone.2]; exact hdone.1, hr, hremote⟩

theorem exchanging_of_start {settings : Settings} {peer : Endpoint} {es : Transcript} {s : Session}
    (h : Run (Session.start settings peer) es (.ok s)) : Exchanging es s := by
  obtain ⟨⟨localAddress, rfl⟩, hopens⟩ := start_cases h
  have hstill := Transcript.still_of_upkeep hopens.upkeep
  have hnone : (Session.fresh peer localAddress).NoLookups := rfl
  exact {
    lookups := fun i found hf => absurd hf (hnone.getElem? i found)
    remote := nofun
    silent := fun _ => ⟨hstill.arrived, hstill.posted⟩
    socket := nofun
    ports := nofun
    posted := by
      rw [Session.desk, hstill.arrived, hstill.posted]
      rfl
    intact := by
      rw [hstill.posted]
      exact List.forall_mem_nil _
    early := fun _ => rfl }

section
variable {ctx : Context} {h : History} {s : Session}

theorem Life.exchanging (hl : Life ctx h s) : Exchanging h.calls s :=
  (exchanging_upheld ctx).life (fun _ _ _ hs => exchanging_of_start hs) hl

theorem Ended.exchanges (he : Ended ctx h s) : Exchanges h.calls s := by
  obtain ⟨es₁, es₂, e, heq, hend, hclose⟩ :=
    (exchanging_upheld ctx).ended (fun _ _ _ hs => exchanging_of_start hs) he
  have hstill := Transcript.still_of_upkeep (close_upkeep hclose)
  rw [heq]
  rcases hend with hend | ⟨-, hend⟩
  · exact hend.toExchanges.behind hstill.arrived hstill.posted
  · exact hend.behind hstill.arrived hstill.posted

/-- **An association relays every datagram that it is to relay, and no other.** In whichever order datagrams
    arrive at its two sockets:

    * what it posts is, datagram by datagram, what the exchange asks for;
    * while the session goes on, whatever was posted has left, or would have blocked;
    * the header of a datagram names an endpoint if it was written for it, and the payload follows it. -/
theorem association_relays (hs : Life ctx h s ∨ Ended ctx h s) :
    h.calls.posted.map Prod.fst =
        (exchange s.client.peer.ip s.client.localAddress.ip.isV4 h.calls.arrived).outbox ∧
      (Life ctx h s → ∀ x ∈ h.calls.posted, x.2 = .left ∨ x.2 = .busy) ∧
      ∀ d dest payload, Datagram.opened? d = some (dest, payload) ↔
        d = Datagram.encode (Address.ofEndpoint dest) payload := by
  refine ⟨?_, fun hl x hx => ?_, fun _ _ _ => Datagram.opened?_eq_some⟩
  · rcases hs with hl | he
    · exact hl.exchanging.posted
    · exact he.exchanges.posted
  · have hintact := hl.exchanging.intact x hx
    cases hfate : x.2 with
    | left => exact .inl rfl
    | busy => exact .inr rfl
    | broken => exact absurd hfate hintact

end

/-! ## Turns that relay a datagram -/

namespace Handler

theorem run_attempt {α : Type} {p : Talk (Except IoError α)} {w : Work} {es : Transcript} {a : α}
    (hp : Run p es (.ok a)) : Run ((attempt p).exec w) es (.ok a, w) := by
  rw [attempt, exec_bind, exec_talk]
  exact run_bind_iff.2 ⟨es, [], _, (List.append_nil es).symm,
    run_bind_iff.2 ⟨es, [], _, (List.append_nil es).symm, hp, .done⟩, .done⟩

variable {ctx : Context} {n : Nat} {relay : Relay} {remote : Socket} {s : Session}
  {ids : Dns.QueryIds} {datagram payload : Bytes} {source dest : Endpoint} {ports : PortMap}

theorem run_receiveFrom {socket : Socket} {found : Chunk datagramSize × Endpoint} :
    Run (Talk.receiveFrom (n + 1) socket datagramSize)
      [⟨.receiveFrom socket datagramSize, (.ok found : Except IoError _)⟩] (.ok (some found)) :=
  .ask .done

theorem run_receiveFrom_dry {socket : Socket} :
    Run (Talk.receiveFrom (n + 1) socket datagramSize)
      [⟨.receiveFrom socket datagramSize, (.error (.plain .wouldBlock) : Except IoError _)⟩] (.ok none) :=
  .ask .done

theorem run_sendTo {socket : Socket} :
    Run (Talk.sendTo (n + 1) socket payload dest)
      [⟨.sendTo socket payload dest, (.ok () : Except IoError Unit)⟩] (.ok true) :=
  .ask .done

theorem run_forward (hn : ctx.turns = n + 1)
    (hfate : relay.ports.fromClient datagram source = (.forward dest payload, ports))
    (hfamily : dest.ip.isV4 = s.client.localAddress.ip.isV4) :
    Run ((forward ctx relay remote datagram source).exec ⟨s, ids⟩)
      [⟨.sendTo remote payload dest, (.ok () : Except IoError Unit)⟩]
      (.ok (), ⟨{ s with relay := some { relay with ports } }, ids⟩) := by
  unfold forward
  rw [hfate]
  simp only [exec_bind, exec_update, exec_session, Dialogue.bind, hfamily, bne_self_eq_false,
    Bool.false_eq_true, if_false, hn]
  exact run_bind_iff.2 ⟨_, [], _, rfl, run_attempt run_sendTo, .done⟩

/-- A datagram that is not of the family of the association is dropped. -/
theorem run_forward_stays
    (hfate : relay.ports.fromClient datagram source = (.forward dest payload, ports))
    (hfamily : dest.ip.isV4 ≠ s.client.localAddress.ip.isV4) :
    ∃ line, Run ((forward ctx relay remote datagram source).exec ⟨s, ids⟩) [⟨.log .session line, ()⟩]
      (.ok (), ⟨{ s with relay := some { relay with ports } }, ids⟩) := by
  unfold forward
  rw [hfate]
  simp only [exec_bind, exec_update, exec_session, Dialogue.bind, bne_iff_ne.2 hfamily, if_true]
  exact ⟨_, .ask .done⟩

end Handler

/-- The calls of a turn in which one datagram arrives at a socket and one leaves through another. -/
def Transcript.passing (entry exit : Socket) (found : Chunk Handler.datagramSize × Endpoint)
    (data : Bytes) (dest : Endpoint) : Transcript :=
  [⟨.receiveFrom entry Handler.datagramSize, (.ok found : Except IoError _)⟩] ++
    ([⟨.sendTo exit data dest, (.ok () : Except IoError Unit)⟩] ++
      ([⟨.receiveFrom entry Handler.datagramSize,
        (.error (.plain .wouldBlock) : Except IoError _)⟩] ++ []))

namespace Life

variable {ctx : Context} {n : Nat} {h : History} {s s' : Session} {relay : Relay} {remote : Socket}
  {found : Chunk Handler.datagramSize} {data : Bytes} {source dest : Endpoint} {ports : PortMap}

theorem turn_of_run {role : Role} {r : Readiness} {ids ids' : Dns.QueryIds} {es : Transcript}
    (hl : Life ctx h s) (hrun : Run ((Handler.onEvent ctx role r).exec ⟨s, ids⟩) es (.ok (), ⟨s', ids'⟩)) :
    Life ctx (h ++ [.event role r] ++ History.turn s.stage es) s' :=
  hl.turn (run_bind_iff.2 ⟨es, [], _, (List.append_nil es).symm, hrun, .done⟩)

/-- A datagram of the client that is forwarded can be all that arrives in a turn. -/
theorem forwarded (hl : Life ctx h s) (hn : ctx.turns = n + 2) (hr : s.relay = some relay)
    (hremote : s.remote = some (.datagram remote))
    (hfate : relay.ports.fromClient found.val source = (.forward dest data, ports))
    (hfamily : dest.ip.isV4 = s.client.localAddress.ip.isV4) :
    Life ctx (h ++ [.event .relay { readable := true }] ++ History.turn s.stage
        (Transcript.passing relay.socket remote (found, source) data dest))
      { s with relay := some { relay with ports } } := by
  have hrest : Run ((Handler.forwardAll ctx remote (n + 1)).exec
      ⟨{ s with relay := some { relay with ports } }, ⟨0⟩⟩)
      ([⟨.receiveFrom relay.socket Handler.datagramSize,
          (.error (.plain .wouldBlock) : Except IoError _)⟩] ++ [])
      (.ok (), ⟨{ s with relay := some { relay with ports } }, ⟨0⟩⟩) := by
    rw [Handler.forwardAll, Handler.exec_bind, Handler.exec_session]
    simp only [Dialogue.bind, hn]
    exact Handler.run_bind (Handler.run_attempt Handler.run_receiveFrom_dry) .done
  have hall : Run ((Handler.forwardAll ctx remote (n + 2)).exec ⟨s, ⟨0⟩⟩)
      (Transcript.passing relay.socket remote (found, source) data dest)
      (.ok (), ⟨{ s with relay := some { relay with ports } }, ⟨0⟩⟩) := by
    rw [Handler.forwardAll, Handler.exec_bind, Handler.exec_session]
    simp only [Dialogue.bind, hr]
    refine Handler.run_bind (Handler.run_attempt (by rw [hn]; exact Handler.run_receiveFrom)) ?_
    exact Handler.run_bind (Handler.run_forward hn hfate hfamily) hrest
  have hevent : Run ((Handler.onEvent ctx .relay { readable := true }).exec ⟨s, ⟨0⟩⟩)
      (Transcript.passing relay.socket remote (found, source) data dest)
      (.ok (), ⟨{ s with relay := some { relay with ports } }, ⟨0⟩⟩) := by
    rw [Handler.onEvent, Handler.onRelay, Handler.exec_bind, Handler.exec_session]
    rw [hremote] at hall
    simp only [Dialogue.bind, hr, hremote, hn, Bool.false_eq_true, if_false]
    exact hall
  exact hl.turn_of_run hevent

/-- A datagram of the remote side that is delivered can be all that arrives in a turn. -/
theorem delivered (hl : Life ctx h s) (hn : ctx.turns = n + 2) (hr : s.relay = some relay)
    (hremote : s.remote = some (.datagram remote))
    (hfate : relay.ports.toClient found.val source = some (data, dest)) :
    Life ctx (h ++ [.event .remote { readable := true }] ++ History.turn s.stage
      (Transcript.passing remote relay.socket (found, source) data dest)) s := by
  have hrest : Run ((Handler.deliverAll ctx relay remote (n + 1)).exec ⟨s, ⟨0⟩⟩)
      ([⟨.receiveFrom remote Handler.datagramSize,
          (.error (.plain .wouldBlock) : Except IoError _)⟩] ++ []) (.ok (), ⟨s, ⟨0⟩⟩) := by
    rw [Handler.deliverAll, hn]
    exact Handler.run_bind (Handler.run_attempt Handler.run_receiveFrom_dry) .done
  have hdeliver : Run ((Handler.deliver ctx relay found.val source).exec ⟨s, ⟨0⟩⟩)
      ([⟨.sendTo relay.socket data dest, (.ok () : Except IoError Unit)⟩] ++ [])
      (.ok (), ⟨s, ⟨0⟩⟩) := by
    rw [Handler.deliver, hfate, hn]
    exact Handler.run_bind (Handler.run_attempt Handler.run_sendTo) .done
  have hall : Run ((Handler.deliverAll ctx relay remote (n + 2)).exec ⟨s, ⟨0⟩⟩)
      (Transcript.passing remote relay.socket (found, source) data dest) (.ok (), ⟨s, ⟨0⟩⟩) := by
    rw [Handler.deliverAll]
    refine Handler.run_bind (Handler.run_attempt (by rw [hn]; exact Handler.run_receiveFrom)) ?_
    exact Handler.run_bind hdeliver hrest
  have hevent : Run ((Handler.onEvent ctx .remote { readable := true }).exec ⟨s, ⟨0⟩⟩)
      (Transcript.passing remote relay.socket (found, source) data dest) (.ok (), ⟨s, ⟨0⟩⟩) := by
    rw [Handler.onEvent, Handler.onRemote, Handler.exec_bind, Handler.exec_session]
    simp only [Dialogue.bind, hremote]
    rw [Handler.onRemoteDatagram]
    simp only [Bool.false_eq_true, if_false]
    rw [Handler.exec_bind, Handler.exec_session]
    simp only [Dialogue.bind, hr, hn]
    exact hall
  exact hl.turn_of_run hevent

end Life

/-! ## A client that sends datagrams -/

/-- A client that asks for an association. -/
def correspondent : SocketScript :=
  .between [[5, 1, 0], [5, 3, 0, 1, 0, 0, 0, 0, 0, 0]] []

/-- The session of a client that was granted an association with the port map. -/
def correspondence (ports : PortMap) : Session where
  stage := .associated
  client := ⟨correspondent.address, correspondent.address, ⟨⟨.client, 0⟩, .empty, .read⟩⟩
  remote := some (.datagram ⟨.remote, 0⟩)
  relay := some ⟨⟨.relay, 0⟩, ports⟩
  lookups := .replicate _ none
  inbound := []
  pending := none

theorem exists_life_correspondence :
    ∃ h, Life ⟨{}, none, 9⟩ h (correspondence (PortMap.new correspondent.address.ip)) ∧
      h.calls.arrived = [] ∧ h.calls.posted = [] := by
  have hplay : ∃ h w script, rehearse ⟨{}, none, 9⟩ correspondent [Role.client.reads] = some (h, w, script) ∧
      w.session = correspondence (PortMap.new correspondent.address.ip) ∧ h.calls.arrived = [] ∧
      h.calls.posted = [] :=
    ⟨_, _, _, rfl, rfl, rfl, rfl⟩
  obtain ⟨h, w, script, hrehearse, hw, ha, hp⟩ := hplay
  exact ⟨h, hw ▸ life_of_rehearse hrehearse, ha, hp⟩

/-- A datagram of one byte to port 53 of 192.0.2.9. -/
def Datagram.toNine : Chunk Handler.datagramSize :=
  ⟨[0, 0, 0, 1, 192, 0, 2, 9, 0, 53, 97], by decide⟩

/-- Port 53 of 192.0.2.9. -/
def Endpoint.nine : Endpoint :=
  ⟨.v4 ⟨192, 0, 2, 9⟩, 53⟩

/-- A port of the client. -/
def Endpoint.ofCorrespondent (port : UInt16) : Endpoint :=
  ⟨correspondent.address.ip, port⟩

/-- The client has sent a byte to port 53 of 192.0.2.9. -/
theorem exists_life_corresponding :
    ∃ h ports, Life ⟨{}, none, 9⟩ h (correspondence ports) ∧
      Ledger.Represents [(53, 5000)] correspondent.address.ip ports ∧
      h.calls.arrived = [⟨.relay, Datagram.toNine.val, .ofCorrespondent 5000⟩] ∧
      h.calls.posted = [(⟨.remote, [97], .nine⟩, .left)] := by
  obtain ⟨h, hl, ha, hp⟩ := exists_life_correspondence
  have hrep : Ledger.Represents [] correspondent.address.ip (PortMap.new correspondent.address.ip) :=
    Ledger.Represents.new
  have hfate := hrep.fromClient Datagram.toNine.val (.ofCorrespondent 5000)
  have hadm : Ledger.admits [] correspondent.address.ip Datagram.toNine.val (.ofCorrespondent 5000) =
      some (.nine, [97]) := by decide +kernel
  rw [hadm] at hfate
  refine ⟨_, _, hl.forwarded rfl rfl rfl hfate rfl, hrep.insert 5000, ?_, ?_⟩
  · rw [History.calls_append, History.calls_event, History.calls_turn, Transcript.arrived_append, ha]
    rfl
  · rw [History.calls_append, History.calls_event, History.calls_turn, Transcript.posted_append, hp]
    rfl

/-- What `association_relays` says of a client that has sent a byte to port 53 of 192.0.2.9, and is sent one
    from there. -/
theorem association_relays_of_correspondence :
    ∃ h s, Life ⟨{}, none, 9⟩ h s ∧ h.calls.arrived.length = 2 ∧
      h.calls.posted.map Prod.fst =
        (exchange s.client.peer.ip s.client.localAddress.ip.isV4 h.calls.arrived).outbox ∧
      h.calls.posted = [(⟨.remote, [97], .nine⟩, .left),
        (⟨.relay, [0, 0, 0, 1, 192, 0, 2, 9, 0, 53, 98], .ofCorrespondent 5000⟩, .left)] := by
  obtain ⟨h, ports, hl, hrep, ha, hp⟩ := exists_life_corresponding
  have hlast := hl.delivered rfl rfl rfl (hrep.toClient (⟨[98], by decide⟩ : Chunk Handler.datagramSize).val .nine)
  refine ⟨_, _, hlast, ?_, (association_relays (.inl hlast)).1, ?_⟩
  · rw [History.calls_append, History.calls_event, History.calls_turn, Transcript.arrived_append, ha]
    rfl
  · rw [History.calls_append, History.calls_event, History.calls_turn, Transcript.posted_append, hp]
    rfl

end SocksProxy
