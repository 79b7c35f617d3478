/-
  Which sockets are put on the poller and taken off, and which ones a session holds.

  * `Transcript.moves` is what happened to the registrations of sockets, in order, and `Transcript.record`
    what happened to that of one socket;
  * the `_moves` lemmas say it of what sessions say to the network;
  * `Session.holdings` are the sockets of a session, in the order in which they are closed
    (`Session.close_moves`). No two of them have the same role, if each has the role of its place
    (`Session.Housed.nodup`).
-/
import Mathlib.Data.List.Nodup
import SocksProxy.Proofs.Upholding

namespace SocksProxy

open Dialogue

/-! ## Registrations -/

/-- What happens to the registration of a socket: it is put on the poller, or taken off. -/
inductive Move where
  | on
  | off
  deriving DecidableEq, Repr

/-- The socket that the call puts on the poller or takes off. It does not matter whether the poller has
    anything to say against taking it off. -/
def SessionEvent.move? : SessionEvent → Option (Socket × Move)
  | ⟨.register s _, .ok ()⟩ => some (s, .on)
  | ⟨.deregister s, _⟩ => some (s, .off)
  | _ => none

namespace Transcript

/-- What happened to the registrations of all sockets. -/
def moves (es : Transcript) : List (Socket × Move) :=
  es.filterMap SessionEvent.move?

/-- What happened to the registration of a socket. -/
def record (es : Transcript) (k : Socket) : List Move :=
  (es.moves.filter fun m => m.1 = k).map Prod.snd

variable {es es' : Transcript} {k : Socket}

@[simp] theorem moves_append : moves (es ++ es') = es.moves ++ es'.moves :=
  List.filterMap_append

@[simp] theorem record_append : record (es ++ es') k = es.record k ++ es'.record k := by
  simp only [record, moves_append, List.filter_append, List.map_append]

/-- Calls that register nothing do not matter. -/
theorem record_behind (h : es'.moves = []) : record (es ++ es') k = es.record k := by
  rw [record, moves_append, h, List.append_nil, record]

theorem record_of_move {s : Socket} {m : Move} (h : es.moves = [(s, m)]) :
    es.record k = if s = k then [m] else [] := by
  rw [record, h]
  by_cases hs : s = k <;> simp [hs]

theorem record_of_moves_nil (h : es.moves = []) : es.record k = [] := by
  rw [record, h]
  rfl

/-- What happens to one socket does not matter to another. -/
theorem record_of_ne {s : Socket} {m : Move} (h : es.moves = [(s, m)]) (hs : s ≠ k) :
    es.record k = [] := by
  rw [record_of_move h, if_neg hs]

theorem moves_of_aside (h : es.All (· = .aside)) : es.moves = [] := by
  refine List.filterMap_eq_nil_iff.2 fun e he => ?_
  have hverb := h e he
  obtain ⟨c, r⟩ := e
  cases c <;> first | rfl | nomatch hverb

theorem Plain.moves (h : Plain es) : es.moves = [] := by
  refine List.filterMap_eq_nil_iff.2 fun e he => ?_
  have hplain := h e he
  obtain ⟨c, r⟩ := e
  cases c <;> first | rfl | nomatch hplain

/-- What happens to sockets that are all taken off, each of them once. -/
theorem record_of_off {ks : List Socket} (h : es.moves = ks.map (·, .off)) (hd : ks.Nodup) :
    es.record k = if k ∈ ks then [.off] else [] := by
  have hone : es.record k = List.replicate (ks.count k) .off := by
    rw [record, h, List.filter_map, List.map_map]
    refine List.eq_replicate_iff.2 ⟨?_, fun m hm => ?_⟩
    · rw [List.length_map, List.count, List.countP_eq_length_filter]
      rfl
    · obtain ⟨_, -, rfl⟩ := List.mem_map.1 hm
      rfl
  rw [hone]
  split
  · next hm => rw [List.count_eq_one_of_mem hd hm]; rfl
  · next hm => rw [List.count_eq_zero_of_not_mem hm]; rfl

end Transcript

/-! ### What is registered by what sessions say -/

namespace Talk

variable {turns : Nat} {s : Socket} {es : Transcript}

theorem tune_plain {switches : List TcpSwitch} {r : Except IoError Unit}
    (h : Run (tune s switches) es r) : es.Plain := by
  induction switches generalizing es with
  | nil =>
    obtain ⟨rfl, -⟩ := run_done_iff.1 h
    exact Transcript.plain_nil
  | cons switch rest ih =>
    obtain ⟨(a : Except IoError Unit), es', rfl, h'⟩ := run_ask_iff.1 h
    cases a with
    | ok _ => exact List.forall_mem_cons.2 ⟨rfl, ih h'⟩
    | error e =>
      obtain ⟨rfl, -⟩ := run_done_iff.1 h'
      exact Transcript.plain_singleton rfl

theorem deregister_moves (h : Run (deregister s) es ()) : es.moves = [(s, .off)] := by
  obtain ⟨(a : Except IoError Unit), es', rfl, h'⟩ := run_ask_iff.1 h
  cases a with
  | ok _ =>
    obtain ⟨rfl, -⟩ := run_done_iff.1 h'
    rfl
  | error e =>
    obtain rfl := Handler.run_log_iff.1 h'
    rfl

theorem deregisterAll_moves {sockets : List Socket} (h : Run (deregisterAll sockets) es ()) :
    es.moves = sockets.map (·, .off) := by
  induction sockets generalizing es with
  | nil =>
    obtain ⟨rfl, -⟩ := run_done_iff.1 h
    rfl
  | cons s rest ih =>
    obtain ⟨es₁, es₂, _, rfl, h₁, h₂⟩ := run_monad_bind_iff.1 h
    rw [Transcript.moves_append, deregister_moves h₁, ih h₂]
    rfl

theorem openDatagram_moves {addr : Endpoint} {r : Except IoError Unit}
    (h : Run (openDatagram s addr) es r) :
    (r = .ok () → es.moves = [(s, .on)]) ∧ ∀ e, r = .error e → es.moves = [] := by
  obtain ⟨(a : Except IoError Unit), es', rfl, h'⟩ := run_ask_iff.1 h
  cases a with
  | error e =>
    obtain ⟨rfl, rfl⟩ := run_done_iff.1 h'
    exact ⟨nofun, fun _ _ => rfl⟩
  | ok _ =>
    obtain ⟨(b : Except IoError Unit), es'', rfl, h''⟩ := run_ask_iff.1 h'
    obtain ⟨rfl, rfl⟩ := run_done_iff.1 h''
    cases r with
    | ok _ => exact ⟨fun _ => rfl, nofun⟩
    | error e => exact ⟨nofun, fun _ _ => rfl⟩

theorem streamClose_moves {stream : Stream} (h : Run stream.close es ()) :
    es.moves = [(stream.socket, .off)] := by
  obtain ⟨es₁, es₂, _, rfl, h₁, h₂⟩ := run_monad_bind_iff.1 h
  obtain ⟨es₃, es₄, _, rfl, h₃, h₄⟩ := run_monad_bind_iff.1 h₂
  obtain rfl := run_call_iff.1 h₃
  obtain ⟨rfl, -⟩ := run_pure_iff.1 h₄
  rw [Transcript.moves_append, deregister_moves h₁]
  rfl

/-- A stream that cannot be registered is closed all the same. -/
theorem openStream_moves {target : Endpoint} {options : TcpOptions} {r : Except IoError Stream}
    (h : Run (openStream s target options) es r) :
    (∀ stream, r = .ok stream → stream.socket = s ∧ es.moves = [(s, .on)]) ∧
      ∀ e, r = .error e → es.moves = [] ∨ es.moves = [(s, .off)] := by
  obtain ⟨(a : Except IoError Unit), es', rfl, h'⟩ := run_ask_iff.1 h
  have hconnect {es : Transcript} : Transcript.moves (⟨.connect s target, a⟩ :: es) = es.moves :=
    rfl
  cases a with
  | error e =>
    obtain ⟨rfl, rfl⟩ := run_done_iff.1 h'
    exact ⟨nofun, fun _ _ => .inl rfl⟩
  | ok _ =>
    obtain ⟨es₁, es₂, b, rfl, h₁, h₂⟩ := run_monad_bind_iff.1 h'
    rw [hconnect, Transcript.moves_append, (tune_plain h₁).moves, List.nil_append]
    cases b with
    | error e =>
      obtain ⟨rfl, rfl⟩ := run_pure_iff.1 h₂
      exact ⟨nofun, fun _ _ => .inl rfl⟩
    | ok _ =>
      obtain ⟨es₃, es₄, (c : Except IoError Unit), rfl, h₃, h₄⟩ := run_monad_bind_iff.1 h₂
      obtain rfl := run_call_iff.1 h₃
      cases c with
      | ok _ =>
        obtain ⟨rfl, rfl⟩ := run_pure_iff.1 h₄
        refine ⟨?_, nofun⟩
        rintro stream ⟨⟩
        exact ⟨rfl, rfl⟩
      | error e =>
        obtain ⟨es₅, es₆, _, rfl, h₅, h₆⟩ := run_monad_bind_iff.1 h₄
        obtain ⟨rfl, rfl⟩ := run_pure_iff.1 h₆
        refine ⟨nofun, fun _ _ => .inr ?_⟩
        rw [Transcript.moves_append, List.append_nil, streamClose_moves h₅]
        rfl

theorem sendTo_moves {data : Bytes} {dest : Endpoint} {r : Except IoError Bool}
    (h : Run (sendTo turns s data dest) es r) : es.moves = [] := by
  obtain ⟨es₀, a, rfl, hes₀, -⟩ := sendTo_cases h
  rw [Transcript.moves_append]
  refine List.append_eq_nil_iff.2 ⟨List.filterMap_eq_nil_iff.2 fun e he => ?_, rfl⟩
  obtain ⟨error, rfl⟩ := hes₀ e he
  rfl

theorem receiveFrom_moves {max : Nat} {r : Except IoError (Option (Chunk max × Endpoint))}
    (h : Run (receiveFrom turns s max) es r) : es.moves = [] := by
  refine List.filterMap_eq_nil_iff.2 fun e he => ?_
  obtain ⟨a, rfl⟩ := (receiveFrom_cases h).1 e he
  rfl

end Talk

/-! ## What a session holds -/

namespace Session

/-- The socket that faces the remote side, while there is one. -/
def remoteSocket? (s : Session) : Option Socket :=
  (s.remote.map Remote.outline).bind Prod.snd

/-- How many sockets the session has had in the role that faces the remote side. -/
def remotes (s : Session) : Nat :=
  match s.remote.map Remote.outline with
  | none => 0
  | some (started, _) => started.getD 1

/-- The sockets of a session, in the order in which they are closed. -/
def holdings (s : Session) : List Socket :=
  s.lookupSockets ++ (s.relay.map (·.socket)).toList ++ s.remoteSocket?.toList ++
    [s.client.stream.socket]

/-- Every socket of the session has the role of the place where it is kept. -/
structure Housed (s : Session) : Prop where
  client : s.client.stream.socket = ⟨.client, 0⟩
  relay : ∀ relay, s.relay = some relay → relay.socket = ⟨.relay, 0⟩
  remote : ∀ socket, s.remoteSocket? = some socket → socket.role = .remote
  lookups : ∀ (slot : Nat) (lookup : Lookup), s.lookups[slot]? = some (some lookup) →
    lookup.socket = ⟨.query slot, 0⟩

variable {s s' : Session} {k : Socket}

theorem mem_lookupSockets : k ∈ s.lookupSockets ↔
    ∃ (slot : Nat) (lookup : Lookup), s.lookups[slot]? = some (some lookup) ∧ lookup.socket = k := by
  constructor
  · intro hm
    obtain ⟨entry, he, hs⟩ := List.mem_filterMap.1 hm
    obtain ⟨lookup, rfl, rfl⟩ := Option.map_eq_some_iff.1 hs
    obtain ⟨slot, hslot⟩ := Vector.getElem?_of_mem (Vector.mem_toList_iff.1 he)
    exact ⟨slot, lookup, hslot, rfl⟩
  · rintro ⟨slot, lookup, hslot, rfl⟩
    exact List.mem_filterMap.2 ⟨some lookup, Vector.mem_toList_iff.2 (Vector.mem_of_getElem? hslot), rfl⟩

theorem mem_holdings : k ∈ s.holdings ↔ k ∈ s.lookupSockets ∨
    (∃ relay, s.relay = some relay ∧ relay.socket = k) ∨ s.remoteSocket? = some k ∨
    k = s.client.stream.socket := by
  simp [holdings]

theorem holdings_of_outline (h : s'.outline = s.outline) : s'.holdings = s.holdings := by
  simp only [outline, Outline.mk.injEq] at h
  obtain ⟨-, -, -, hclient, hrelay, hremote, hlookups⟩ := h
  simp only [holdings, lookupSockets, remoteSocket?, hclient, hrelay, hremote, hlookups]

theorem Housed.alike (hs : s.Housed) (h : s'.outline = s.outline) : s'.Housed := by
  simp only [outline, Outline.mk.injEq] at h
  obtain ⟨-, -, -, hclient, hrelay, hremote, hlookups⟩ := h
  exact {
    client := hclient.trans hs.client
    relay := by rw [hrelay]; exact hs.relay
    remote := by rw [remoteSocket?, hremote]; exact hs.remote
    lookups := by rw [hlookups]; exact hs.lookups }

theorem Housed.role_of_lookup (hs : s.Housed) (hk : k ∈ s.lookupSockets) :
    ∃ slot, k.role = .query slot := by
  obtain ⟨slot, lookup, hslot, rfl⟩ := mem_lookupSockets.1 hk
  exact ⟨slot, congrArg Socket.role (hs.lookups slot lookup hslot)⟩

theorem Housed.lookupRoles_nodup (hs : s.Housed) : (s.lookupSockets.map Socket.role).Nodup := by
  have hrole (i : Nat) (hi : i < s.lookups.toList.length) (role : Role)
      (h : ((s.lookups.toList[i]).map (·.socket)).map Socket.role = some role) : role = .query i := by
    obtain ⟨socket, hsocket, rfl⟩ := Option.map_eq_some_iff.1 h
    obtain ⟨lookup, hlookup, rfl⟩ := Option.map_eq_some_iff.1 hsocket
    rw [hs.lookups i lookup]
    rw [← hlookup, ← Vector.getElem?_toList]
    exact List.getElem?_eq_getElem hi
  rw [lookupSockets, List.map_filterMap, List.Nodup, List.pairwise_filterMap, List.pairwise_iff_getElem]
  intro i j hi hj hij a ha b hb hab
  rw [hrole i hi a ha, hrole j hj b hb] at hab
  exact Nat.ne_of_lt hij (Role.query.inj hab)

/-- No two sockets of a session have the same role. -/
theorem Housed.nodup (hs : s.Housed) : (s.holdings.map Socket.role).Nodup := by
  have hrelay : ∀ k ∈ (s.relay.map (·.socket)).toList, k.role = .relay := by
    intro k hk
    obtain ⟨relay, hrelay, rfl⟩ := Option.map_eq_some_iff.1 (Option.mem_toList.1 hk)
    rw [hs.relay relay hrelay]
  have hremote : ∀ k ∈ s.remoteSocket?.toList, k.role = .remote := fun k hk =>
    hs.remote k (Option.mem_toList.1 hk)
  have hsingle (o : Option Socket) : o.toList.Pairwise fun k k' => k.role ≠ k'.role := by
    cases o <;> simp
  rw [List.Nodup, List.pairwise_map]
  refine List.pairwise_append.2 ⟨List.pairwise_append.2 ⟨List.pairwise_append.2
    ⟨List.pairwise_map.1 hs.lookupRoles_nodup, hsingle _, ?_⟩, hsingle _, ?_⟩,
    List.pairwise_singleton .., ?_⟩
  · intro k hk k' hk'
    obtain ⟨slot, hrole⟩ := hs.role_of_lookup hk
    rw [hrole, hrelay k' hk']
    nofun
  · intro k hk k' hk'
    rw [hremote k' hk']
    rcases List.mem_append.1 hk with hk | hk
    · obtain ⟨slot, hrole⟩ := hs.role_of_lookup hk
      rw [hrole]
      nofun
    · rw [hrelay k hk]
      nofun
  · intro k hk k' hk'
    rw [List.mem_singleton.1 hk', hs.client]
    rcases List.mem_append.1 hk with hk | hk
    · rcases List.mem_append.1 hk with hk | hk
      · obtain ⟨slot, hrole⟩ := hs.role_of_lookup hk
        rw [hrole]
        nofun
      · rw [hrelay k hk]
        nofun
    · rw [hremote k hk]
      nofun

theorem Housed.holdings_nodup (hs : s.Housed) : s.holdings.Nodup :=
  List.Nodup.of_map _ hs.nodup

theorem closeRemote_moves {remote : Remote} {es : Transcript} (h : Run (closeRemote remote) es ()) :
    es.moves = remote.outline.2.toList.map (·, .off) := by
  cases remote with
  | datagram socket => exact Talk.deregister_moves h
  | stream out =>
    obtain ⟨es', rfl, hstream, hnone⟩ := closeRemote_parts h
    have hnotes : Transcript.moves
        (out.attempts.peer.toList.map fun peer => ⟨.notify (.remoteDisconnected peer), ()⟩) = [] := by
      cases out.attempts.peer <;> rfl
    rw [Transcript.moves_append, hnotes, List.nil_append]
    cases hs : out.stream with
    | none => rw [hnone hs]; simp [Remote.outline, hs, Transcript.moves]
    | some stream => rw [Talk.streamClose_moves (hstream stream hs)]; simp [Remote.outline, hs]

/-- A session is closed by taking off what it holds. -/
theorem close_moves {es : Transcript} (h : Run s.close es ()) :
    es.moves = s.holdings.map (·, .off) := by
  obtain ⟨es₁, es₂, es₃, es₄, rfl, h₁, hrelay, hnorelay, hremote, hnoremote, h₄⟩ := close_parts h
  have h₂ : Transcript.moves es₂ = (s.relay.map (·.socket)).toList.map (·, Move.off) := by
    cases hr : s.relay with
    | none => rw [hnorelay hr]; rfl
    | some relay => exact Talk.deregister_moves (hrelay relay hr)
  have h₃ : Transcript.moves es₃ = s.remoteSocket?.toList.map (·, Move.off) := by
    rw [remoteSocket?]
    cases hr : s.remote with
    | none => rw [hnoremote hr]; rfl
    | some remote => exact closeRemote_moves (hremote remote hr)
  have hlast : Transcript.moves [⟨.notify (.clientDisconnected s.client.peer), ()⟩,
    ⟨.log .session ⟨.debug, .session, "Session closed"⟩, ()⟩] = [] := rfl
  simp only [Transcript.moves_append, Talk.deregisterAll_moves h₁, h₂, h₃, Talk.streamClose_moves h₄,
    hlast, holdings, List.map_append, List.append_assoc, List.append_nil]
  rfl

end Session

end SocksProxy
