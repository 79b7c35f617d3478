/-
  What one datagram of the client does to the port map of its association.

  * `forward_keeps_ports_or_maps`: a datagram that is not admitted leaves the port map as it is; one that is
    maps its destination port to its source port, whether it leaves then or not.
-/
import SocksProxy.Proofs.Relaying

namespace SocksProxy

open Dialogue

namespace PortMap

variable {m : PortMap} {source dest : Endpoint}

/-- The port map behind a datagram that came from `source` and is to go to `dest`. -/
def follow (m : PortMap) (source dest : Endpoint) : PortMap :=
  { m with ports := m.ports.insert dest.port source.port }

theorem clientPort?_follow {port : UInt16} :
    (m.follow source dest).clientPort? port =
      if port = dest.port then some source.port else m.clientPort? port := by
  rw [follow, clientPort?, Std.HashMap.getElem?_insert]
  exact if_congr (beq_iff_eq.trans eq_comm) rfl rfl

end PortMap

/-! ## Forwarding -/

section
variable {ctx : Context} {relay : Relay} {remote : Socket} {datagram payload : Bytes}
  {source dest : Endpoint} {s : Session} {ids : Dns.QueryIds} {es : Transcript}

theorem forward_of_not_admits (h : ∀ dest payload, ¬ relay.ports.Admits datagram source dest payload)
    (hr : s.relay = some relay) :
    (Handler.forward ctx relay remote datagram source).Always ⟨s, ids⟩ []
      (fun _ w' es' => w'.session = s ∧ es'.posted = []) (fun _ _ _ => False) := by
  obtain ⟨reason, hfate⟩ := PortMap.fromClient_of_not_admits h
  unfold Handler.forward
  rw [hfate]
  simp only [Handler.always_bind, Handler.always_update, Handler.always_log]
  exact ⟨by rw [← hr], rfl⟩

/-- A datagram that is not of the family of the association is dropped behind the port map. -/
theorem forward_of_other_family (h : relay.ports.Admits datagram source dest payload)
    (hfamily : dest.ip.isV4 ≠ s.client.localAddress.ip.isV4) :
    (Handler.forward ctx relay remote datagram source).Always ⟨s, ids⟩ []
      (fun _ w' es' => w'.session =
        { s with relay := some { relay with ports := relay.ports.follow source dest } } ∧
          es'.posted = []) (fun _ _ _ => False) := by
  unfold Handler.forward
  rw [h.fromClient]
  simp only [Handler.always_bind, Handler.always_update, Handler.always_session]
  rw [if_pos (by simp [hfamily]), Handler.always_log]
  exact ⟨rfl, rfl⟩

theorem forward_of_admits (h : relay.ports.Admits datagram source dest payload)
    (hfamily : dest.ip.isV4 = s.client.localAddress.ip.isV4) (hremote : remote.role.isRelaying = true) :
    (Handler.forward ctx relay remote datagram source).Always ⟨s, ids⟩ []
      (fun _ w' es' => w'.session =
        { s with relay := some { relay with ports := relay.ports.follow source dest } } ∧
          ∃ fate, es'.posted = [(⟨remote.role, payload, dest⟩, fate)])
      (fun _ w' es' => w'.session =
        { s with relay := some { relay with ports := relay.ports.follow source dest } } ∧
          ∃ fate, es'.posted = [(⟨remote.role, payload, dest⟩, fate)]) := by
  unfold Handler.forward
  rw [h.fromClient]
  simp only [Handler.always_bind, Handler.always_update, Handler.always_session]
  rw [if_neg (by simp [hfamily]), Handler.always_bind, Handler.always_attempt]
  intro es₁ r hrun
  have hposted := (Talk.sendTo_posted hremote hrun).2
  rw [List.nil_append]
  match r with
  | .error e => exact ⟨rfl, _, hposted⟩
  | .ok true => exact Handler.always_pure.2 ⟨rfl, _, hposted⟩
  | .ok false =>
    refine Handler.always_log.2 ⟨rfl, Fate.ofSent (.ok false), ?_⟩
    rw [Transcript.posted_append, hposted]
    rfl

/-- **A datagram that is not admitted leaves the port map alone, and one that is does not.** Whatever becomes
    of a datagram of the client:

    * if it comes from elsewhere, has no header that names an endpoint, or finds no room, the session is as
      before and nothing is posted;
    * otherwise its destination port is mapped to its source port, and no other port is touched. It is posted
      if it is of the family of the association, and otherwise not. -/
theorem port_map_follows_admitted {x : Except SessionError Unit} {w' : Work}
    (hr : s.relay = some relay) (hremote : remote.role.isRelaying = true)
    (hrun : Run ((Handler.forward ctx relay remote datagram source).exec ⟨s, ids⟩) es (x, w')) :
    ((∀ dest payload, ¬ relay.ports.Admits datagram source dest payload) →
      w'.session = s ∧ es.posted = []) ∧
    ∀ dest payload, relay.ports.Admits datagram source dest payload →
      (∃ relay', w'.session.relay = some relay' ∧ relay'.socket = relay.socket ∧
        ∀ port, relay'.ports.clientPort? port =
          if port = dest.port then some source.port else relay.ports.clientPort? port) ∧
      (dest.ip.isV4 ≠ s.client.localAddress.ip.isV4 → es.posted = []) ∧
      (dest.ip.isV4 = s.client.localAddress.ip.isV4 →
        ∃ fate, es.posted = [(⟨remote.role, payload, dest⟩, fate)]) := by
  refine ⟨fun hnone => ?_, fun dest payload hadmits => ?_⟩
  · have hdone := forward_of_not_admits hnone hr es x w' hrun
    cases x with
    | ok _ => exact hdone
    | error e => exact hdone.elim
  · by_cases hfamily : dest.ip.isV4 = s.client.localAddress.ip.isV4
    · obtain ⟨hsession, hposted⟩ : w'.session =
          { s with relay := some { relay with ports := relay.ports.follow source dest } } ∧
            ∃ fate, es.posted = [(⟨remote.role, payload, dest⟩, fate)] := by
        have hdone := forward_of_admits hadmits hfamily hremote es x w' hrun
        cases x <;> exact hdone
      rw [hsession]
      exact ⟨⟨_, rfl, rfl, fun _ => PortMap.clientPort?_follow⟩, fun hne => absurd hfamily hne,
        fun _ => hposted⟩
    · have hdone := forward_of_other_family hadmits hfamily es x w' hrun
      cases x with
      | ok _ =>
        obtain ⟨hsession, hposted⟩ := hdone
        rw [hsession]
        exact ⟨⟨_, rfl, rfl, fun _ => PortMap.clientPort?_follow⟩, fun _ => hposted,
          fun heq => absurd heq hfamily⟩
      | error e => exact hdone.elim

end

/-! ## A datagram of another family -/

/-- A datagram of one byte to port 53 of `::1`. -/
def Datagram.toLoopback : Bytes :=
  [0, 0, 0, 4, 0, 0, 0, 0, 0, 0, 0, 0, 0, 0, 0, 0, 0, 0, 0, 1, 0, 53, 97]

/-- Port 53 of `::1`. -/
def Endpoint.loopback : Endpoint :=
  ⟨.v6 ⟨[0, 0, 0, 0, 0, 0, 0, 1], rfl⟩, 53⟩

theorem admits_toLoopback {m : PortMap} {ledger : Ledger} (hledger : ledger.fits 53 = true)
    (h : ledger.Represents correspondent.address.ip m) :
    m.Admits Datagram.toLoopback (.ofCorrespondent 5001) .loopback [97] :=
  ⟨h.client.symm, by decide +kernel, h.fits_iff.1 hledger⟩

/-- The datagram is dropped. -/
theorem exists_run_toLoopback {ports : PortMap} (h : Ledger.Represents [(53, 5000)] correspondent.address.ip ports) :
    ∃ es w', Run ((Handler.forward ⟨{}, none, 9⟩ ⟨⟨.relay, 0⟩, ports⟩ ⟨.remote, 0⟩ Datagram.toLoopback
      (.ofCorrespondent 5001)).exec ⟨correspondence ports, ⟨1⟩⟩) es (.ok (), w') ∧ Transcript.posted es = [] := by
  obtain ⟨line, hrun⟩ : ∃ line, Run ((Handler.forward ⟨{}, none, 9⟩ ⟨⟨.relay, 0⟩, ports⟩ ⟨.remote, 0⟩
      Datagram.toLoopback (.ofCorrespondent 5001)).exec ⟨correspondence ports, ⟨1⟩⟩)
      [⟨.log .session line, ()⟩] _ :=
    Handler.run_forward_stays (admits_toLoopback rfl h).fromClient Bool.false_ne_true
  exact ⟨_, _, hrun, rfl⟩

/-- What `port_map_follows_admitted` says of the datagram, when port 53 is mapped to port 5000. -/
theorem port_map_follows_loopback :
    ∃ h s relay es w', Life ⟨{}, none, 9⟩ h s ∧ s.relay = some relay ∧
      relay.ports.clientPort? 53 = some 5000 ∧
      Run ((Handler.forward ⟨{}, none, 9⟩ relay ⟨.remote, 0⟩ Datagram.toLoopback
        (.ofCorrespondent 5001)).exec ⟨s, ⟨1⟩⟩) es (.ok (), w') ∧ Transcript.posted es = [] ∧
      ∃ relay', w'.session.relay = some relay' ∧ relay'.socket = relay.socket ∧
        ∀ port, relay'.ports.clientPort? port =
          if port = 53 then some 5001 else relay.ports.clientPort? port := by
  obtain ⟨h, ports, hl, hrep, -, -⟩ := exists_life_corresponding
  obtain ⟨es, w', hrun, hposted⟩ := exists_run_toLoopback hrep
  exact ⟨h, _, _, _, _, hl, rfl, hrep.ports 53, hrun, hposted,
    ((port_map_follows_admitted rfl rfl hrun).2 _ _ (admits_toLoopback rfl hrep)).1⟩

/-- A datagram that is dropped can redirect what is sent back to another datagram. -/
theorem dropped_datagram_redirects :
    ¬ ∀ ctx h s relay remote datagram source ids es w' relay', Life ctx h s → s.relay = some relay →
      s.remote = some (.datagram remote) →
      Run ((Handler.forward ctx relay remote datagram source).exec ⟨s, ids⟩) es (.ok (), w') →
      Transcript.posted es = [] → w'.session.relay = some relay' →
      ∀ port, relay'.ports.clientPort? port = relay.ports.clientPort? port := by
  intro hclaim
  obtain ⟨h, ports, hl, hrep, -, -⟩ := exists_life_corresponding
  obtain ⟨es, w', hrun, hposted⟩ := exists_run_toLoopback hrep
  have hadmits := admits_toLoopback rfl hrep
  have hsession : w'.session.relay =
      some ⟨⟨.relay, 0⟩, ports.follow (.ofCorrespondent 5001) .loopback⟩ := by
    have hdone := forward_of_other_family hadmits (by exact Bool.false_ne_true) es (.ok ()) w' hrun
    exact congrArg Session.relay hdone.1
  have hkept := hclaim _ _ _ _ _ _ _ _ _ _ _ hl rfl rfl hrun hposted hsession 53
  have hbefore : ports.clientPort? 53 = some 5000 := hrep.ports 53
  have hafter : (ports.follow (.ofCorrespondent 5001) .loopback).clientPort? 53 = some 5001 :=
    PortMap.clientPort?_follow
  exact absurd (hafter.symm.trans (hkept.trans hbefore)) (by decide)

end SocksProxy
