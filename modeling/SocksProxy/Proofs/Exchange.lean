/-
  What passes at the two sockets of an association.

  Datagrams arrive at the socket that faces the client and at the one that faces the remote side, in any
  order. What is posted in return is said by the datagrams alone (`exchange`), with no mention of a port map:

  * `Ledger` lists the destination port and the source port of every datagram of the client that was
    admitted, the latest first;
  * `Ledger.admits` says which datagrams are; `Ledger.fits` keeps the number of destination ports bounded;
  * `Ledger.Represents`: the port map is a ledger with the latest entry of each port only
    (`Ledger.Represents.fromClient`).
-/
import Mathlib.Data.List.Dedup
import SocksProxy.Proofs.Headers
import SocksProxy.Proofs.Upholding

namespace SocksProxy

open Dialogue

/-! ## Packets -/

/-- A datagram at a socket, and where it came from or goes to. -/
structure Packet where
  role : Role
  data : Bytes
  far : Endpoint
  deriving DecidableEq, Repr

/-- What became of a datagram that was posted. -/
inductive Fate where
  | left
  /-- The socket could not take it. -/
  | busy
  | broken
  deriving DecidableEq, Repr

/-- What an answer says of a datagram, if it is the last one: a call that was interrupted is made again. -/
def Fate.of? : Except IoError Unit → Option Fate
  | .ok _ => some .left
  | .error e => if e.isInterrupted then none else if e.isWouldBlock then some .busy else some .broken

/-- What became of a datagram, as the socket operation tells it. -/
def Fate.ofSent : Except IoError Bool → Fate
  | .ok true => .left
  | .ok false => .busy
  | .error _ => .broken

/-- The datagram that a read has found at a socket of the role. -/
def Packet.found (role : Role) {max : Nat} : Except IoError (Option (Chunk max × Endpoint)) → List Packet
  | .ok (some found) => [⟨role, found.1.val, found.2⟩]
  | _ => []

theorem Packet.found_eq_nil {role : Role} {max : Nat} {r : Except IoError (Option (Chunk max × Endpoint))}
    (h : ∀ found, r ≠ .ok (some found)) : Packet.found role r = [] := by
  match r with
  | .error e => rfl
  | .ok none => rfl
  | .ok (some found) => exact absurd rfl (h found)

/-- Whether sockets of the role relay datagrams. -/
def Role.isRelaying : Role → Bool
  | .remote | .relay => true
  | .client | .query _ => false

namespace SessionEvent

/-- The datagram that has arrived. -/
def arrived? : SessionEvent → Option Packet
  | ⟨.receiveFrom s _, .ok found⟩ =>
    if s.role.isRelaying then some ⟨s.role, found.1.val, found.2⟩ else none
  | _ => none

/-- The datagram that was posted. -/
def posted? : SessionEvent → Option (Packet × Fate)
  | ⟨.sendTo s data dest, r⟩ =>
    if s.role.isRelaying then (Fate.of? r).map fun fate => (⟨s.role, data, dest⟩, fate) else none
  | _ => none

end SessionEvent

namespace Transcript

/-- The datagrams that have arrived. -/
def arrived (es : Transcript) : List Packet :=
  es.filterMap SessionEvent.arrived?

/-- The datagrams that were posted. -/
def posted (es : Transcript) : List (Packet × Fate) :=
  es.filterMap SessionEvent.posted?

/-- No datagram is moved that is to be relayed. -/
def Still (es : Transcript) : Prop :=
  ∀ e ∈ es, SessionEvent.arrived? e = none ∧ SessionEvent.posted? e = none

variable {es es' : Transcript}

@[simp] theorem arrived_append : arrived (es ++ es') = es.arrived ++ es'.arrived :=
  List.filterMap_append

@[simp] theorem posted_append : posted (es ++ es') = es.posted ++ es'.posted :=
  List.filterMap_append

theorem Still.arrived (h : Still es) : es.arrived = [] :=
  List.filterMap_eq_nil_iff.2 fun e he => (h e he).1

theorem Still.posted (h : Still es) : es.posted = [] :=
  List.filterMap_eq_nil_iff.2 fun e he => (h e he).2

theorem still_singleton {e : SessionEvent} (ha : SessionEvent.arrived? e = none)
    (hp : SessionEvent.posted? e = none) : Still [e] :=
  List.forall_mem_singleton.2 ⟨ha, hp⟩

theorem Plain.still (h : Plain es) : Still es := by
  intro e he
  have hplain := h e he
  obtain ⟨c, r⟩ := e
  cases c <;> first | exact ⟨rfl, rfl⟩ | nomatch hplain

/-- Calls on other datagram sockets move nothing that is to be relayed. -/
theorem still_of_verbs (h : All (fun v => ∀ s, v = .datagram s → s.role.isRelaying = false) es) :
    Still es := by
  intro e he
  have hv := h e he
  obtain ⟨c, r⟩ := e
  cases c with
  | receiveFrom s max =>
    have hs : s.role.isRelaying = false := hv s rfl
    refine ⟨?_, rfl⟩
    cases (r : Except IoError (Chunk max × Endpoint)) with
    | ok found => simp only [SessionEvent.arrived?, hs, Bool.false_eq_true, if_false]
    | error e => rfl
  | sendTo s data dest =>
    have hs : s.role.isRelaying = false := hv s rfl
    exact ⟨rfl, by simp only [SessionEvent.posted?, hs, Bool.false_eq_true, if_false]⟩
  | _ => exact ⟨rfl, rfl⟩

end Transcript

/-! ## Admission -/

namespace PortMap

variable {m : PortMap} {data payload : Bytes} {source dest : Endpoint}

/-- The datagram comes from the client and names `dest`, and the destination port is mapped or there is room
    for it. -/
structure Admits (m : PortMap) (data : Bytes) (source dest : Endpoint) (payload : Bytes) : Prop where
  client : source.ip = m.client
  header : data = Datagram.encode (Address.ofEndpoint dest) payload
  room : (m.clientPort? dest.port).isSome = true ∨ m.size < m.capacity

theorem room_iff {port : UInt16} : ((m.clientPort? port).isSome = true ∨ m.size < m.capacity) ↔
    (!m.ports.contains port && decide (m.capacity ≤ m.ports.size)) = false := by
  rw [clientPort?, size, Std.HashMap.contains_eq_isSome_getElem?]
  cases (m.ports[port]?).isSome <;> simp

/-- A datagram of the client that names an endpoint finds room in the port map, or the map is full. -/
theorem fromClient_encode (h : source.ip = m.client) :
    m.fromClient (Datagram.encode (Address.ofEndpoint dest) payload) source =
      if (m.clientPort? dest.port).isSome = true ∨ m.size < m.capacity then
        (.forward dest payload, { m with ports := m.ports.insert dest.port source.port })
      else (.drop .portMapFull, m) := by
  have hdrop : (Datagram.encode (Address.ofEndpoint dest) payload).drop
      (3 + (Address.ofEndpoint dest).wireLength) = payload := by
    simpa only [Datagram.opened?, Datagram.decodeHeader_encode, Address.endpoint?_ofEndpoint,
      Option.map_some, Option.some.injEq, Prod.mk.injEq, true_and] using Datagram.opened?_encode dest payload
  unfold PortMap.fromClient
  rw [if_neg (not_not.2 h)]
  simp only [Datagram.decodeHeader_encode, Address.endpoint?_ofEndpoint, hdrop]
  by_cases hroom : (m.clientPort? dest.port).isSome = true ∨ m.size < m.capacity
  · rw [if_pos hroom, room_iff.1 hroom]
    rfl
  · rw [if_neg hroom, eq_true_of_ne_false (mt room_iff.2 hroom)]
    rfl

/-- Any other datagram is dropped, whether there is room or not. -/
theorem fromClient_of_not_opened (h : source.ip = m.client → Datagram.opened? data = none) :
    ∃ reason, reason ≠ .portMapFull ∧ m.fromClient data source = (.drop reason, m) := by
  unfold PortMap.fromClient
  by_cases hclient : source.ip = m.client
  · have hopened := h hclient
    unfold Datagram.opened? at hopened
    rw [if_neg (not_not.2 hclient)]
    cases hd : Datagram.decodeHeader data with
    | error fault => exact ⟨.malformed fault, nofun, rfl⟩
    | ok found =>
      rw [hd] at hopened
      have hnone : found.1.endpoint? = none := Option.map_eq_none_iff.1 hopened
      simp only [hnone]
      exact ⟨.domainDestination, nofun, rfl⟩
  · rw [if_pos hclient]
    exact ⟨.foreignSource source, nofun, rfl⟩

/-- A datagram is forwarded if it is admitted, and then the client port behind its destination port is the
    one that it came from. -/
theorem Admits.fromClient (h : m.Admits data source dest payload) :
    m.fromClient data source =
      (.forward dest payload, { m with ports := m.ports.insert dest.port source.port }) := by
  obtain ⟨hclient, rfl, hroom⟩ := h
  rw [fromClient_encode hclient, if_pos hroom]

theorem fromClient_of_not_admits (h : ∀ dest payload, ¬ m.Admits data source dest payload) :
    ∃ reason, m.fromClient data source = (.drop reason, m) := by
  by_cases hopened : source.ip = m.client → Datagram.opened? data = none
  · obtain ⟨reason, -, hfate⟩ := fromClient_of_not_opened hopened
    exact ⟨reason, hfate⟩
  · obtain ⟨hclient, hsome⟩ := Classical.not_imp.1 hopened
    obtain ⟨⟨dest, payload⟩, hx⟩ := Option.ne_none_iff_exists'.1 hsome
    have hdata := Datagram.opened?_eq_some.1 hx
    have hfull : ¬ ((m.clientPort? dest.port).isSome = true ∨ m.size < m.capacity) :=
      fun hroom => h dest payload ⟨hclient, hdata, hroom⟩
    rw [hdata, fromClient_encode hclient, if_neg hfull]
    exact ⟨_, rfl⟩

end PortMap

/-! ## The ledger -/

/-- The destination port and the source port of datagrams, the latest first. -/
abbrev Ledger := List (UInt16 × UInt16)

namespace Ledger

variable {ledger : Ledger} {port : UInt16}

/-- How many destination ports there are. -/
def size (ledger : Ledger) : Nat :=
  (ledger.map Prod.fst).dedup.length

/-- A destination port fits if it is there already, or if there is room for one more. -/
def fits (ledger : Ledger) (port : UInt16) : Bool :=
  (ledger.lookup port).isSome || decide (ledger.size < PortMap.defaultCapacity)

/-- The endpoint and the payload of a datagram that comes from the client, names an endpoint, and whose
    destination port fits. -/
def admits (ledger : Ledger) (client : Ip) (data : Bytes) (source : Endpoint) :
    Option (Endpoint × Bytes) :=
  if source.ip = client then (Datagram.opened? data).filter fun x => ledger.fits x.1.port else none

theorem admits_eq_some {client : Ip} {data payload : Bytes} {source dest : Endpoint} :
    ledger.admits client data source = some (dest, payload) ↔
      source.ip = client ∧ data = Datagram.encode (Address.ofEndpoint dest) payload ∧
        ledger.fits dest.port = true := by
  unfold admits
  split
  · next h =>
    rw [Option.filter_eq_some_iff, Datagram.opened?_eq_some]
    exact (and_iff_right h).symm
  · next h => exact iff_of_false nofun fun hx => h hx.1

theorem lookup_isSome : (ledger.lookup port).isSome = true ↔ port ∈ ledger.map Prod.fst := by
  rw [List.lookup_isSome_iff, List.mem_map]
  exact exists_congr fun entry => and_congr_right fun _ => beq_iff_eq.trans eq_comm

theorem size_cons {port' : UInt16} :
    size ((port, port') :: ledger) =
      if (ledger.lookup port).isSome then ledger.size else ledger.size + 1 := by
  unfold size
  rw [List.map_cons]
  split
  · next h => rw [List.dedup_cons_of_mem (lookup_isSome.1 h)]
  · next h => rw [List.dedup_cons_of_notMem fun hm => h (lookup_isSome.2 hm), List.length_cons]

/-- A table holds the latest entry of each port. -/
structure Fills (ledger : Ledger) (table : Std.HashMap UInt16 UInt16) : Prop where
  ports : ∀ port, table[port]? = ledger.lookup port
  size : table.size = ledger.size

theorem fills_empty : Fills [] ∅ :=
  ⟨fun _ => Std.HashMap.getElem?_empty, rfl⟩

/-- A new entry takes the place of that of the same port. -/
theorem Fills.insert {table : Std.HashMap UInt16 UInt16} (h : ledger.Fills table) (port' : UInt16) :
    Fills ((port, port') :: ledger) (table.insert port port') where
  ports other := by
    rw [Std.HashMap.getElem?_insert, h.ports, List.lookup_cons]
    rcases eq_or_ne port other with rfl | hne
    · simp only [beq_self_eq_true, if_true]
    · rw [if_neg (mt beq_iff_eq.1 hne), beq_eq_false_iff_ne.2 hne.symm]
  size := by
    rw [Std.HashMap.size_insert, h.size, size_cons]
    simp only [Std.HashMap.mem_iff_isSome_getElem?, h.ports]

/-- A port map holds the latest entry of each port. -/
structure Represents (ledger : Ledger) (client : Ip) (m : PortMap) : Prop where
  client : m.client = client
  capacity : m.capacity = PortMap.defaultCapacity
  ports : ∀ port, m.ports[port]? = ledger.lookup port
  size : m.ports.size = ledger.size

namespace Represents

variable {client : Ip} {m : PortMap}

theorem new : Represents [] client (PortMap.new client) :=
  ⟨rfl, rfl, fun _ => Std.HashMap.getElem?_empty, rfl⟩

theorem fits_iff (h : ledger.Represents client m) :
    ledger.fits port = true ↔ (m.clientPort? port).isSome = true ∨ m.size < m.capacity := by
  rw [fits, Bool.or_eq_true, decide_eq_true_eq, PortMap.clientPort?, PortMap.size, h.ports, h.capacity,
    h.size]

theorem insert (h : ledger.Represents client m) (port' : UInt16) :
    Represents ((port, port') :: ledger) client { m with ports := m.ports.insert port port' } where
  client := h.client
  capacity := h.capacity
  ports := (Fills.insert ⟨h.ports, h.size⟩ port').ports
  size := (Fills.insert ⟨h.ports, h.size⟩ port').size

/-- A datagram of the client is forwarded if it is admitted; then the ledger has a new entry. -/
theorem fromClient (h : ledger.Represents client m) (data : Bytes) (source : Endpoint) :
    match ledger.admits client data source with
    | some (dest, payload) => m.fromClient data source =
        (.forward dest payload, { m with ports := m.ports.insert dest.port source.port })
    | none => ∃ reason, m.fromClient data source = (.drop reason, m) := by
  cases hadm : ledger.admits client data source with
  | some admitted =>
    obtain ⟨dest, payload⟩ := admitted
    obtain ⟨hclient, hheader, hfits⟩ := admits_eq_some.1 hadm
    exact PortMap.Admits.fromClient ⟨hclient.trans h.client.symm, hheader, h.fits_iff.1 hfits⟩
  | none =>
    refine PortMap.fromClient_of_not_admits fun dest payload hx => ?_
    have hsome : ledger.admits client data source = some (dest, payload) :=
      admits_eq_some.2 ⟨hx.client.trans h.client, hx.header, h.fits_iff.2 hx.room⟩
    rw [hadm] at hsome
    nomatch hsome

theorem toClient (h : ledger.Represents client m) (payload : Bytes) (source : Endpoint) :
    m.toClient payload source = (ledger.lookup source.port).map fun port =>
      (Datagram.encode (Address.ofEndpoint source) payload, ⟨client, port⟩) := by
  rw [PortMap.toClient, PortMap.clientPort?, h.ports, h.client]

end Represents

end Ledger

/-! ## The exchange -/

/-- What an association has admitted and what it has posted. -/
structure Desk where
  ledger : Ledger
  outbox : List Packet

namespace Desk

/-- What becomes of the next datagram. One of the client goes out, if it is admitted and of the family of the
    association; one of the remote side goes to the client port that has sent to its source port last. -/
def take (client : Ip) (isV4 : Bool) (desk : Desk) (p : Packet) : Desk :=
  if p.role = .relay then
    match desk.ledger.admits client p.data p.far with
    | some (dest, payload) =>
      ⟨(dest.port, p.far.port) :: desk.ledger,
        if dest.ip.isV4 = isV4 then desk.outbox ++ [⟨.remote, payload, dest⟩] else desk.outbox⟩
    | none => desk
  else
    match desk.ledger.lookup p.far.port with
    | some port => { desk with outbox := desk.outbox ++
        [⟨.relay, Datagram.encode (Address.ofEndpoint p.far) p.data, ⟨client, port⟩⟩] }
    | none => desk

end Desk

/-- What an association admits and posts, for the datagrams that arrive. -/
def exchange (client : Ip) (isV4 : Bool) (packets : List Packet) : Desk :=
  packets.foldl (Desk.take client isV4) ⟨[], []⟩

theorem exchange_append {client : Ip} {isV4 : Bool} {packets : List Packet} {p : Packet} :
    exchange client isV4 (packets ++ [p]) = (exchange client isV4 packets).take client isV4 p := by
  rw [exchange, List.foldl_append]
  rfl

/-! ## Moving datagrams -/

namespace Talk

variable {turns : Nat} {s : Socket} {es : Transcript}

/-- What a read says of the datagrams that have arrived. -/
theorem receiveFrom_arrived {max : Nat} {r : Except IoError (Option (Chunk max × Endpoint))}
    (hs : s.role.isRelaying = true) (h : Run (receiveFrom turns s max) es r) :
    es.posted = [] ∧ es.arrived = Packet.found s.role r := by
  have hcall (es : Transcript) (a : Except IoError (Chunk max × Endpoint))
      (h : Run (call (I := SessionNet) (.receiveFrom s max)) es a) : es = [⟨.receiveFrom s max, a⟩] :=
    run_call_iff.1 h
  obtain ⟨es₀, a, rfl, hes₀, -, rfl⟩ := retry_cases hcall h
  have hfront : Transcript.Still es₀ := by
    intro e he
    obtain ⟨error, rfl, -⟩ := hes₀ e he
    exact ⟨rfl, rfl⟩
  rw [Transcript.posted_append, Transcript.arrived_append, hfront.posted, hfront.arrived]
  refine ⟨rfl, ?_⟩
  cases a with
  | ok found => simp [Transcript.arrived, SessionEvent.arrived?, Packet.found, settled, hs]
  | error e =>
    cases hw : e.isWouldBlock <;>
      simp [Transcript.arrived, SessionEvent.arrived?, Packet.found, settled, hw]

theorem receiveFrom_still {max : Nat} {r : Except IoError (Option (Chunk max × Endpoint))}
    (hs : s.role.isRelaying = false) (h : Run (receiveFrom turns s max) es r) : es.Still := by
  refine Transcript.still_of_verbs fun e he => ?_
  obtain ⟨a, rfl⟩ := (receiveFrom_cases h).1 e he
  rintro _ ⟨⟩
  exact hs

/-- What sending says of the datagrams that were posted. -/
theorem sendTo_posted {data : Bytes} {dest : Endpoint} {r : Except IoError Bool}
    (hs : s.role.isRelaying = true) (h : Run (sendTo turns s data dest) es r) :
    es.arrived = [] ∧ es.posted = [(⟨s.role, data, dest⟩, Fate.ofSent r)] := by
  simp only [sendTo] at h
  obtain ⟨es₁, es₂, b, rfl, h₁, h₂⟩ := run_monad_bind_iff.1 h
  have hcall (es : Transcript) (a : Except IoError Unit)
      (h : Run (call (I := SessionNet) (.sendTo s data dest)) es a) : es = [⟨.sendTo s data dest, a⟩] :=
    run_call_iff.1 h
  obtain ⟨es₀, a, rfl, hes₀, ha, rfl⟩ := retry_cases hcall h₁
  have hfront : Transcript.Still es₀ := by
    intro e he
    obtain ⟨error, rfl, hi⟩ := hes₀ e he
    exact ⟨rfl, by simp [SessionEvent.posted?, Fate.of?, hi]⟩
  rw [List.append_assoc, Transcript.posted_append, Transcript.arrived_append, hfront.posted,
    hfront.arrived]
  cases a with
  | ok _ =>
    obtain ⟨rfl, rfl⟩ := run_pure_iff.1 h₂
    exact ⟨rfl, by simp [Transcript.posted, SessionEvent.posted?, Fate.of?, Fate.ofSent, hs]⟩
  | error e =>
    have hi := ha e rfl
    cases hw : e.isWouldBlock with
    | true =>
      simp only [settled, hw, if_true] at h₂
      obtain ⟨rfl, rfl⟩ := run_pure_iff.1 h₂
      exact ⟨rfl, by simp [Transcript.posted, SessionEvent.posted?, Fate.of?, Fate.ofSent, hs, hi, hw]⟩
    | false =>
      simp only [settled, hw, Bool.false_eq_true, if_false] at h₂
      obtain ⟨rfl, rfl⟩ := run_pure_iff.1 h₂
      exact ⟨rfl, by simp [Transcript.posted, SessionEvent.posted?, Fate.of?, Fate.ofSent, hs, hi, hw]⟩

theorem sendTo_still {data : Bytes} {dest : Endpoint} {r : Except IoError Bool}
    (hs : s.role.isRelaying = false) (h : Run (sendTo turns s data dest) es r) : es.Still := by
  obtain ⟨es₀, a, rfl, hes₀, -⟩ := sendTo_cases h
  refine Transcript.still_of_verbs (Transcript.All.append (fun e he => ?_)
    (Transcript.all_singleton ?_))
  · obtain ⟨error, rfl⟩ := hes₀ e he
    rintro _ ⟨⟩
    exact hs
  · rintro _ ⟨⟩
    exact hs

theorem openDatagram_still {addr : Endpoint} {r : Except IoError Unit}
    (h : Run (openDatagram s addr) es r) : es.Still := by
  obtain ⟨(a : Except IoError Unit), es', rfl, h'⟩ := run_ask_iff.1 h
  cases a with
  | error e =>
    obtain ⟨rfl, -⟩ := run_done_iff.1 h'
    exact Transcript.still_singleton rfl rfl
  | ok _ =>
    obtain ⟨(b : Except IoError Unit), es'', rfl, h''⟩ := run_ask_iff.1 h'
    obtain ⟨rfl, -⟩ := run_done_iff.1 h''
    exact List.forall_mem_cons.2 ⟨⟨rfl, rfl⟩, Transcript.still_singleton rfl rfl⟩

theorem openStream_still {target : Endpoint} {options : TcpOptions} {r : Except IoError Stream}
    (h : Run (openStream s target options) es r) : es.Still :=
  Transcript.still_of_verbs ((openStream_cases h).1.imp fun v hv t ht => by
    rcases hv with rfl | rfl | rfl <;> nomatch ht)

end Talk

/-- Upkeep moves no datagrams. -/
theorem Transcript.still_of_upkeep {es : Transcript} (h : All Verb.IsUpkeep es) : Still es :=
  still_of_verbs (h.imp fun v hv t ht => by
    rcases hv with rfl | ⟨s, rfl⟩ <;> nomatch ht)

theorem Talk.deregister_still {s : Socket} {es : Transcript} (h : Run (deregister s) es ()) : es.Still :=
  Transcript.still_of_upkeep ((deregister_all h).imp fun _ hv => hv.imp_right fun h => ⟨s, h⟩)

end SocksProxy
