/-
  The port map of an association is what it has forwarded.

  Datagrams of the client and of the remote side are handed to a port map in any order. What it holds then is
  told by the datagrams that it has forwarded, and so is what it makes of the next one.

  * `PortMap.serve` answers calls one after the other and keeps a log;
  * `PortMap.forwarded` is the ledger of the datagrams that were forwarded, by that log;
  * `PortMap.Follows`: the map holds this ledger, within its capacity. It is kept by an answer
    (`PortMap.Follows.answer`) and so by any number of them (`PortMap.Follows.serve`);
  * **`PortMap.holds_what_was_forwarded`**.
-/
import SocksProxy.Proofs.Exchange

namespace SocksProxy

namespace PortMap

/-! ## Calls -/

/-- What a port map is asked. -/
inductive Call where
  | fromClient (datagram : Bytes) (source : Endpoint)
  | toClient (payload : Bytes) (remote : Endpoint)

/-- What it answers. -/
inductive Answer where
  | outbound (fate : Outbound)
  | inbound (packet : Option (Bytes × Endpoint))

/-- The answer to a call, and the port map behind it. -/
def answer (m : PortMap) : Call → Answer × PortMap
  | .fromClient datagram source => (.outbound (m.fromClient datagram source).1, (m.fromClient datagram source).2)
  | .toClient payload remote => (.inbound (m.toClient payload remote), m)

/-- Calls with their answers, in order. -/
abbrev Log := List (Call × Answer)

/-- Answers calls one after the other. -/
def serve (m : PortMap) : List Call → Log × PortMap
  | [] => ([], m)
  | call :: calls =>
    let (a, m) := m.answer call
    let (log, m) := m.serve calls
    ((call, a) :: log, m)

/-- The destination port and the source port of a datagram that was forwarded. -/
def forwarding? : Call × Answer → Option (UInt16 × UInt16)
  | (.fromClient _ source, .outbound (.forward dest _)) => some (dest.port, source.port)
  | _ => none

/-- The ports of the datagrams that were forwarded, the latest first. -/
def forwarded (log : Log) : Ledger :=
  (log.filterMap forwarding?).reverse

theorem forwarded_cons {x : Call × Answer} {log : Log} :
    forwarded (x :: log) = forwarded log ++ (forwarding? x).toList := by
  unfold forwarded
  cases h : forwarding? x with
  | none => rw [List.filterMap_cons_none h, Option.toList_none, List.append_nil]
  | some entry => rw [List.filterMap_cons_some h, List.reverse_cons, Option.toList_some]

/-! ## What is kept -/

/-- The port map holds the latest entry of each port in the ledger, and no more than it may. -/
structure Follows (client : Ip) (capacity : Nat) (ledger : Ledger) (m : PortMap) : Prop where
  client : m.client = client
  capacity : m.capacity = capacity
  fills : ledger.Fills m.ports
  bounded : m.size ≤ m.capacity

section
variable {client : Ip} {capacity : Nat} {ledger : Ledger} {m : PortMap} {source dest : Endpoint}
  {datagram payload : Bytes}

theorem follows_withCapacity : Follows client capacity [] (withCapacity client capacity) :=
  ⟨rfl, rfl, Ledger.fills_empty, Nat.zero_le _⟩

theorem Follows.clientPort? (h : Follows client capacity ledger m) (port : UInt16) :
    m.clientPort? port = ledger.lookup port :=
  h.fills.ports port

/-- A new port is mapped only if there is room. -/
theorem Follows.insert (h : Follows client capacity ledger m)
    (hadmits : m.Admits datagram source dest payload) :
    Follows client capacity ((dest.port, source.port) :: ledger)
      { m with ports := m.ports.insert dest.port source.port } where
  client := h.client
  capacity := h.capacity
  fills := h.fills.insert source.port
  bounded := by
    show (m.ports.insert dest.port source.port).size ≤ m.capacity
    rw [Std.HashMap.size_insert]
    split
    · exact h.bounded
    · next hnew =>
      exact hadmits.room.resolve_left fun hsome =>
        hnew (Std.HashMap.mem_iff_isSome_getElem?.2 hsome)

/-- What an answer does to the port map is told by the call and the answer. -/
theorem Follows.answer (h : Follows client capacity ledger m) (call : Call) :
    Follows client capacity ((forwarding? (call, (m.answer call).1)).toList ++ ledger) (m.answer call).2 := by
  cases call with
  | toClient payload remote => exact h
  | fromClient datagram source =>
    rw [PortMap.answer]
    by_cases hadmits : ∃ dest payload, m.Admits datagram source dest payload
    · obtain ⟨dest, payload, hadmits⟩ := hadmits
      rw [hadmits.fromClient]
      exact h.insert hadmits
    · obtain ⟨reason, hfate⟩ :=
        fromClient_of_not_admits fun dest payload hx => hadmits ⟨dest, payload, hx⟩
      rw [hfate]
      exact h

theorem Follows.serve (h : Follows client capacity ledger m) (calls : List Call) :
    Follows client capacity (forwarded (m.serve calls).1 ++ ledger) (m.serve calls).2 := by
  induction calls generalizing m ledger with
  | nil => exact h
  | cons call calls ih =>
    have hrest := ih (h.answer call)
    rw [← List.append_assoc, ← forwarded_cons] at hrest
    exact hrest

/-- What is mapped stays mapped. -/
theorem Follows.isSome_serve (h : Follows client capacity ledger m) (calls : List Call) {port : UInt16}
    (hport : (m.clientPort? port).isSome = true) :
    ((m.serve calls).2.clientPort? port).isSome = true := by
  rw [h.clientPort?, Ledger.lookup_isSome] at hport
  rw [(h.serve calls).clientPort?, Ledger.lookup_isSome, List.map_append]
  exact List.mem_append_right _ hport

end

/-! ## What is dropped -/

section
variable {m : PortMap} {source dest : Endpoint} {datagram payload : Bytes}

theorem snd_fromClient_of_drop {reason : DropReason}
    (h : (m.fromClient datagram source).1 = .drop reason) : (m.fromClient datagram source).2 = m := by
  by_cases hadmits : ∃ dest payload, m.Admits datagram source dest payload
  · obtain ⟨dest, payload, hadmits⟩ := hadmits
    rw [hadmits.fromClient] at h
    nomatch h
  · obtain ⟨reason, hfate⟩ :=
      fromClient_of_not_admits fun dest payload hx => hadmits ⟨dest, payload, hx⟩
    rw [hfate]

theorem fromClient_forward_iff :
    (m.fromClient datagram source).1 = .forward dest payload ↔ m.Admits datagram source dest payload := by
  constructor
  · intro hforward
    by_cases hadmits : ∃ dest payload, m.Admits datagram source dest payload
    · obtain ⟨dest', payload', hadmits⟩ := hadmits
      rw [hadmits.fromClient] at hforward
      cases hforward
      exact hadmits
    · obtain ⟨reason, hfate⟩ :=
        fromClient_of_not_admits fun dest payload hx => hadmits ⟨dest, payload, hx⟩
      rw [hfate] at hforward
      nomatch hforward
  · intro hadmits
    rw [hadmits.fromClient]

/-- The map is full for a datagram of the client that names an endpoint whose port is new to it. -/
theorem fromClient_full_iff :
    (m.fromClient datagram source).1 = .drop .portMapFull ↔
      source.ip = m.client ∧ m.capacity ≤ m.size ∧ ∃ dest payload,
        datagram = Datagram.encode (Address.ofEndpoint dest) payload ∧ m.clientPort? dest.port = none := by
  constructor
  · intro hfull
    by_cases hopened : source.ip = m.client → Datagram.opened? datagram = none
    · obtain ⟨reason, hreason, hfate⟩ := fromClient_of_not_opened hopened
      rw [hfate] at hfull
      exact absurd (Outbound.drop.inj hfull) hreason
    · obtain ⟨hclient, hsome⟩ := Classical.not_imp.1 hopened
      obtain ⟨⟨dest, payload⟩, hx⟩ := Option.ne_none_iff_exists'.1 hsome
      have hdatagram := Datagram.opened?_eq_some.1 hx
      rw [hdatagram, fromClient_encode hclient] at hfull
      split at hfull
      · nomatch hfull
      · next hroom =>
        obtain ⟨hnew, hsize⟩ := not_or.1 hroom
        exact ⟨hclient, Nat.le_of_not_lt hsize, dest, payload, hdatagram,
          Option.not_isSome_iff_eq_none.1 hnew⟩
  · rintro ⟨hclient, hsize, dest, payload, rfl, hnew⟩
    rw [fromClient_encode hclient, if_neg]
    rintro (hsome | hroom)
    · rw [hnew] at hsome
      nomatch hsome
    · exact Nat.not_lt_of_le hsize hroom

end

/-! ## The history -/

/-- **A port map holds what it has forwarded.** Whatever a port map is asked, of any capacity:

    * the mapped ports are the destination ports of the datagrams that it has forwarded, each mapped to the
      source port of the latest of them. There are no more than the capacity, and none of them is ever
      forgotten;
    * a datagram that is dropped leaves the map as it is. The reason is that the map is full exactly if the
      datagram comes from the client and names an endpoint, the port of which is not mapped, and as many
      ports are mapped as can be. A port that is mapped is mapped anew, full or not;
    * the remote side reaches the client through the mapped ports, and through no others, and leaves the map
      as it is. -/
theorem holds_what_was_forwarded (client : Ip) (capacity : Nat) (calls : List Call) :
    let m := ((withCapacity client capacity).serve calls).2
    let ledger := forwarded ((withCapacity client capacity).serve calls).1
    (∀ port, m.clientPort? port = ledger.lookup port) ∧
    m.size = (ledger.map Prod.fst).dedup.length ∧ m.size ≤ capacity ∧
    (∀ later port, (m.clientPort? port).isSome = true →
      ((m.serve later).2.clientPort? port).isSome = true) ∧
    (∀ datagram source reason, (m.fromClient datagram source).1 = .drop reason →
      (m.fromClient datagram source).2 = m) ∧
    (∀ datagram source, (m.fromClient datagram source).1 = .drop .portMapFull ↔
      source.ip = client ∧ m.size = capacity ∧ ∃ dest payload,
        datagram = Datagram.encode (Address.ofEndpoint dest) payload ∧ m.clientPort? dest.port = none) ∧
    (∀ datagram source dest payload, (m.fromClient datagram source).1 = .forward dest payload ↔
      source.ip = client ∧ datagram = Datagram.encode (Address.ofEndpoint dest) payload ∧
        ((m.clientPort? dest.port).isSome = true ∨ m.size < capacity)) ∧
    (∀ dest payload source, source.ip = client → (m.clientPort? dest.port).isSome = true →
      ∃ m', m.fromClient (Datagram.encode (Address.ofEndpoint dest) payload) source =
          (.forward dest payload, m') ∧
        m'.size = m.size ∧ m'.clientPort? dest.port = some source.port) ∧
    ∀ payload remote,
      ((m.toClient payload remote).isSome = true ↔ remote.port ∈ ledger.map Prod.fst) ∧
      (m.answer (.toClient payload remote)).2 = m := by
  intro m ledger
  have h : Follows client capacity (ledger ++ []) m := follows_withCapacity.serve calls
  rw [List.append_nil] at h
  have hbounded : m.size ≤ capacity := by
    rw [← h.capacity]
    exact h.bounded
  refine ⟨h.clientPort?, h.fills.size, hbounded, fun later port => h.isSome_serve later,
    fun datagram source reason => snd_fromClient_of_drop, fun datagram source => ?_,
    fun datagram source dest payload => ?_, fun dest payload source hclient hport => ?_,
    fun payload remote => ⟨?_, rfl⟩⟩
  · rw [fromClient_full_iff, h.client, h.capacity]
    exact and_congr_right fun _ => and_congr_left fun _ =>
      ⟨fun hfull => Nat.le_antisymm hbounded hfull, Nat.le_of_eq ∘ Eq.symm⟩
  · rw [fromClient_forward_iff, ← h.client, ← h.capacity]
    exact ⟨fun ⟨hclient, hdatagram, hroom⟩ => ⟨hclient, hdatagram, hroom⟩,
      fun ⟨hclient, hdatagram, hroom⟩ => ⟨hclient, hdatagram, hroom⟩⟩
  · have hadmits : m.Admits (Datagram.encode (Address.ofEndpoint dest) payload) source dest payload :=
      ⟨hclient.trans h.client.symm, rfl, .inl hport⟩
    refine ⟨_, hadmits.fromClient, ?_, ?_⟩
    · exact Std.HashMap.size_insert.trans (if_pos (Std.HashMap.mem_iff_isSome_getElem?.2 hport))
    · exact Std.HashMap.getElem?_insert_self
  · rw [PortMap.toClient, Option.isSome_map, h.clientPort?, Ledger.lookup_isSome]

/-- A datagram of one byte to a port of 192.0.2.9. -/
def knock (port : UInt16) : Bytes :=
  Datagram.encode (Address.ofEndpoint ⟨.v4 ⟨192, 0, 2, 9⟩, port⟩) [97]

/-- A map for one port has forwarded a datagram from port 5000 to port 53. So it has no room for port 80, and
    port 53 is still there for port 5001. -/
theorem full_map_holds_what_was_forwarded :
    ∃ m, ((withCapacity (.v4 ⟨192, 0, 2, 1⟩) 1).serve
        [.fromClient (knock 53) ⟨.v4 ⟨192, 0, 2, 1⟩, 5000⟩]).2 = m ∧
      m.clientPort? 53 = some 5000 ∧ m.size = 1 ∧
      (m.fromClient (knock 80) ⟨.v4 ⟨192, 0, 2, 1⟩, 5000⟩).1 = .drop .portMapFull ∧
      ∃ m', m.fromClient (knock 53) ⟨.v4 ⟨192, 0, 2, 1⟩, 5001⟩ =
          (.forward ⟨.v4 ⟨192, 0, 2, 9⟩, 53⟩ [97], m') ∧ m'.clientPort? 53 = some 5001 := by
  have hfirst : (withCapacity (.v4 ⟨192, 0, 2, 1⟩) 1).fromClient (knock 53) ⟨.v4 ⟨192, 0, 2, 1⟩, 5000⟩ =
      (.forward ⟨.v4 ⟨192, 0, 2, 9⟩, 53⟩ [97], _) :=
    Admits.fromClient ⟨rfl, rfl, .inr Nat.zero_lt_one⟩
  obtain ⟨hports, hsize, -, -, -, hfull, -, hrefresh, -⟩ := holds_what_was_forwarded (.v4 ⟨192, 0, 2, 1⟩) 1
    [.fromClient (knock 53) ⟨.v4 ⟨192, 0, 2, 1⟩, 5000⟩]
  have hledger : forwarded ((withCapacity (.v4 ⟨192, 0, 2, 1⟩) 1).serve
      [.fromClient (knock 53) ⟨.v4 ⟨192, 0, 2, 1⟩, 5000⟩]).1 = [(53, 5000)] := by
    simp only [serve, answer, hfirst]
    rfl
  rw [hledger] at hports hsize
  refine ⟨_, rfl, hports 53, hsize, (hfull _ _).2 ⟨rfl, hsize, _, _, rfl, hports 80⟩, ?_⟩
  obtain ⟨m', hm', -, hport⟩ := hrefresh ⟨.v4 ⟨192, 0, 2, 9⟩, 53⟩ [97] ⟨.v4 ⟨192, 0, 2, 1⟩, 5001⟩ rfl
    (by rw [hports 53]; rfl)
  exact ⟨m', hm', hport⟩

end PortMap

end SocksProxy
