/-
  The sockets that are on the poller are those that sessions hold.

  * `Kept`: the sockets of a session are those that were put on the poller and not taken off; all others
    were never put on, or taken off again. `Custody` says besides that a socket that is yet to come was
    never put on;
  * `custody_upheld`: handlers keep it. A handler that fails leaves every socket where `Session.close`
    finds it, but for the relay when the system does not tell its address (`Transcript.Strands`);
  * `Life.custody` and `Ended.settled` say what follows for a session that goes on and for one that is
    over.
-/
import SocksProxy.Proofs.Registrations

namespace SocksProxy

open Dialogue

/-! ## Custody -/

namespace Transcript

/-- The socket was never put on the poller, or was taken off again, once. -/
def Released (es : Transcript) (k : Socket) : Prop :=
  es.record k = [] ∨ es.record k = [.off] ∨ es.record k = [.on, .off]

/-- The socket that is to face the client was put on the poller, and the system has not told its address.
    It stays there, and nobody holds it. -/
def Strands (es : Transcript) (k : Socket) : Prop :=
  k = ⟨.relay, 0⟩ ∧ es.record k = [.on] ∧
    ∃ e : IoError, ⟨.localAddress k, (.error e : Except IoError Endpoint)⟩ ∈ es

variable {es es' : Transcript} {k : Socket}

theorem Released.behind (h : es.Released k) (h' : es'.record k = []) : (es ++ es').Released k := by
  rw [Released, record_append, h', List.append_nil]
  exact h

theorem Strands.behind (h : es.Strands k) (h' : es'.record k = []) : (es ++ es').Strands k := by
  obtain ⟨hk, hrecord, e, he⟩ := h
  refine ⟨hk, ?_, e, List.mem_append_left _ he⟩
  rw [record_append, h', List.append_nil, hrecord]

end Transcript

/-- The sockets of a session are those that are on the poller. All others were taken off or never put on,
    unless they are stranded. -/
structure Kept (es : Transcript) (s : Session) : Prop where
  housed : s.Housed
  held : ∀ k ∈ s.holdings, es.record k = [.on]
  released : ∀ k, k ∉ s.holdings → es.Released k ∨ es.Strands k

/-- The socket is yet to come, if it ever does. -/
def Session.Expects (s : Session) (k : Socket) : Prop :=
  k = ⟨.relay, 0⟩ ∧ s.relay = none ∨
  (∃ n, k = ⟨.remote, n⟩ ∧ s.remotes ≤ n) ∨
  s.stage.rank = 0 ∧ ∃ slot : Fin Role.maxQueries, k = ⟨.query slot, 0⟩ ∧ s.lookups.get slot = none

/-- Besides, what is yet to come was never put on the poller. -/
structure Custody (es : Transcript) (s : Session) : Prop extends Kept es s where
  early : s.stage.rank ≤ 1 → s.relay = none ∧ s.remote = none
  fresh : ∀ k, s.Expects k → es.record k = []

/-- Behind a handler that has ended a session. -/
def CustodyOver (e : SessionError) (es : Transcript) (s : Session) : Prop :=
  Custody es s ∨ e.IsFinal ∧ Kept es s

section
variable {es es' : Transcript} {s s' : Session} {k q : Socket}

namespace Kept

/-- Calls that register nothing do not matter. -/
theorem behind (h : Kept es s) (h' : es'.moves = []) : Kept (es ++ es') s := by
  have hnone (k : Socket) : es'.record k = [] := Transcript.record_of_moves_nil h'
  exact {
    housed := h.housed
    held := fun k hk => by rw [Transcript.record_behind h', h.held k hk]
    released := fun k hk => (h.released k hk).imp (·.behind (hnone k)) (·.behind (hnone k)) }

theorem alike (h : Kept es s) (heq : s'.outline = s.outline) : Kept es s' where
  housed := h.housed.alike heq
  held := by rw [Session.holdings_of_outline heq]; exact h.held
  released := by rw [Session.holdings_of_outline heq]; exact h.released

/-- A socket that is new is put on the poller, and the session holds it. -/
theorem enrol (h : Kept es s) (hnew : es.record q = []) (hmoves : es'.moves = [(q, .on)])
    (housed : s'.Housed) (hmem : ∀ k, k ∈ s'.holdings ↔ k = q ∨ k ∈ s.holdings) :
    Kept (es ++ es') s' where
  housed := housed
  held k hk := by
    rw [Transcript.record_append, Transcript.record_of_move hmoves]
    by_cases hq : q = k
    · rw [if_pos hq, ← hq, hnew]
      rfl
    · rw [if_neg hq, List.append_nil]
      exact h.held k (((hmem k).1 hk).resolve_left (Ne.symm hq))
  released k hk := by
    obtain ⟨hq, hk⟩ := not_or.1 fun hor => hk ((hmem k).2 hor)
    have hnone : es'.record k = [] := by
      rw [Transcript.record_of_move hmoves, if_neg (Ne.symm hq)]
    exact (h.released k hk).imp (·.behind hnone) (·.behind hnone)

/-- Sockets are taken off the poller, and the session does not hold them any more. -/
theorem withdraw (front qs rest : List Socket) (h : Kept es s) (hs : s.holdings = front ++ (qs ++ rest))
    (hmoves : es'.moves = qs.map (·, .off)) (housed : s'.Housed) (hs' : s'.holdings = front ++ rest) :
    Kept (es ++ es') s' := by
  have hnodup : (front ++ (qs ++ rest)).Nodup := hs ▸ h.housed.holdings_nodup
  obtain ⟨-, hback, hfront⟩ := List.nodup_append.1 hnodup
  obtain ⟨hd, -, hrest⟩ := List.nodup_append.1 hback
  have hheld (k : Socket) (hk : k ∈ qs) : k ∈ s.holdings := by
    rw [hs]
    exact List.mem_append_right _ (List.mem_append_left _ hk)
  have hmem (k : Socket) : k ∈ s'.holdings ↔ k ∈ s.holdings ∧ k ∉ qs := by
    rw [hs, hs']
    grind
  refine ⟨housed, fun k hk => ?_, fun k hk => ?_⟩
  · obtain ⟨hold, hq⟩ := (hmem k).1 hk
    rw [Transcript.record_append, Transcript.record_of_off hmoves hd, if_neg hq, h.held k hold]
    rfl
  · by_cases hq : k ∈ qs
    · refine .inl (.inr (.inr ?_))
      rw [Transcript.record_append, Transcript.record_of_off hmoves hd, if_pos hq, h.held k (hheld k hq)]
      rfl
    · have hnone : es'.record k = [] := by rw [Transcript.record_of_off hmoves hd, if_neg hq]
      have hold : k ∉ s.holdings := fun hold => hk ((hmem k).2 ⟨hold, hq⟩)
      exact (h.released k hold).imp (·.behind hnone) (·.behind hnone)

/-- A socket that is new comes and goes. -/
theorem visit (h : Kept es s) (hnew : es.record q = []) (hq : es'.Released q)
    (hother : ∀ k, q ≠ k → es'.record k = []) : Kept (es ++ es') s := by
  have hheld : q ∉ s.holdings := fun hm => by
    rw [h.held q hm] at hnew
    cases hnew
  refine ⟨h.housed, fun k hk => ?_, fun k hk => ?_⟩
  · have hne : q ≠ k := fun heq => hheld (heq ▸ hk)
    rw [Transcript.record_append, hother k hne, List.append_nil]
    exact h.held k hk
  · by_cases hne : q = k
    · subst hne
      rw [Transcript.Released, Transcript.record_append, hnew, List.nil_append]
      exact .inl hq
    · exact (h.released k hk).imp (·.behind (hother k hne)) (·.behind (hother k hne))

end Kept

namespace Custody

theorem behind (h : Custody es s) (h' : es'.moves = []) : Custody (es ++ es') s where
  toKept := h.toKept.behind h'
  early := h.early
  fresh k hk := by rw [Transcript.record_behind h', h.fresh k hk]

theorem alike (h : Custody es s) (heq : s'.outline = s.outline) : Custody es s' := by
  have hout := heq
  simp only [Session.outline, Outline.mk.injEq] at hout
  obtain ⟨hrank, -, -, -, hrelay, hremote, hlookups⟩ := hout
  have hnone : s'.remote = none ↔ s.remote = none := by
    rw [← Option.map_eq_none_iff (f := Remote.outline), hremote, Option.map_eq_none_iff]
  exact { h.toKept.alike heq with
    early := by rw [hrank, hrelay, hnone]; exact h.early
    fresh := by
      simp only [Session.Expects, Session.remotes, hrank, hrelay, hremote, hlookups]
      exact h.fresh }

/-- What is yet to come is among what was, and nothing has happened to it. -/
theorem step (h : Custody es s) (hkept : Kept (es ++ es') s')
    (early : s'.stage.rank ≤ 1 → s'.relay = none ∧ s'.remote = none)
    (hfresh : ∀ k, s'.Expects k → s.Expects k ∧ es'.record k = []) : Custody (es ++ es') s' where
  toKept := hkept
  early := early
  fresh k hk := by
    obtain ⟨hs, hnone⟩ := hfresh k hk
    rw [Transcript.record_append, h.fresh k hs, hnone]
    rfl

end Custody

theorem custody_enduring : Enduring Custody where
  call h he := h.behind (Transcript.plain_singleton he).moves
  alike h heq := h.alike heq

theorem custodyOver_enduring (e : SessionError) : Enduring (CustodyOver e) where
  call h he := by
    have hmoves := (Transcript.plain_singleton he).moves
    exact h.imp (·.behind hmoves) fun h => ⟨h.1, h.2.behind hmoves⟩
  alike h heq := h.imp (·.alike heq) fun h => ⟨h.1, h.2.alike heq⟩

end

/-! ## Handlers -/

section
variable {es : Transcript} {s : Session} {relay : Relay} {remote : Socket}

/-- The port map of an association does not matter. -/
theorem Custody.withPorts (h : Custody es s) (hr : s.relay = some relay) (ports : PortMap) :
    Custody es { s with relay := some { relay with ports } } := by
  have hholdings : Session.holdings { s with relay := some { relay with ports } } = s.holdings := by
    rw [Session.holdings, Session.holdings, hr]
    rfl
  exact {
    housed := {
      client := h.housed.client
      relay := by rintro _ ⟨⟩; exact h.housed.relay relay hr
      remote := h.housed.remote
      lookups := h.housed.lookups }
    held := by rw [hholdings]; exact h.held
    released := by rw [hholdings]; exact h.released
    early := fun hrank => by
      rw [(h.early hrank).1] at hr
      cases hr
    fresh := by
      rintro k (⟨-, hn⟩ | hk)
      · cases hn
      · exact h.fresh k (.inr hk) }

end

/-! ## All handlers -/

section
variable {es es₁ es₂ es₃ : Transcript} {s : Session}

theorem Kept.advance (h : Kept es s) {stage : Stage} : Kept es { s with stage } where
  housed := ⟨h.housed.client, h.housed.relay, h.housed.remote, h.housed.lookups⟩
  held := h.held
  released := h.released

theorem Custody.advance (h : Custody es s) {stage : Stage} (hrank : s.stage.rank ≤ stage.rank) :
    Custody es { s with stage } where
  toKept := h.toKept.advance
  early hr := h.early (Nat.le_trans hrank hr)
  fresh := by
    rintro k (hk | hk | ⟨hr, hk⟩)
    · exact h.fresh k (.inl hk)
    · exact h.fresh k (.inr (.inl hk))
    · exact h.fresh k (.inr (.inr ⟨Nat.le_zero.1 (hr ▸ hrank), hk⟩))

section
variable {slot : Fin Role.maxQueries} {lookup : Lookup}

theorem Session.lookups_set (hslot : s.lookups.get slot = none) {i : Nat} {found : Lookup} :
    (s.lookups.set slot.val (some lookup) slot.isLt)[i]? = some (some found) ↔
      i = slot ∧ found = lookup ∨ s.lookups[i]? = some (some found) := by
  rw [Vector.getElem?_set]
  split
  · next heq =>
    subst heq
    have hfree : s.lookups[(slot : Nat)]? ≠ some (some found) := by
      rw [Vector.getElem?_eq_getElem slot.isLt, show s.lookups[(slot : Nat)] = none from hslot]
      simp
    rw [Option.some.injEq, Option.some.injEq, or_iff_left hfree]
    exact ⟨fun heq => ⟨rfl, heq.symm⟩, fun heq => heq.2.symm⟩
  · next hne => simp [Ne.symm hne]

theorem Session.mem_lookupSockets_set (hslot : s.lookups.get slot = none) {k : Socket} :
    k ∈ Session.lookupSockets { s with lookups := s.lookups.set slot.val (some lookup) slot.isLt } ↔
      k = lookup.socket ∨ k ∈ s.lookupSockets := by
  rw [Session.mem_lookupSockets, Session.mem_lookupSockets]
  constructor
  · rintro ⟨i, found, hi, rfl⟩
    rcases (Session.lookups_set hslot).1 hi with ⟨rfl, rfl⟩ | hi
    · exact .inl rfl
    · exact .inr ⟨i, found, hi, rfl⟩
  · rintro (rfl | ⟨i, found, hi, rfl⟩)
    · exact ⟨slot, lookup, (Session.lookups_set hslot).2 (.inl ⟨rfl, rfl⟩), rfl⟩
    · exact ⟨i, found, (Session.lookups_set hslot).2 (.inr hi), rfl⟩

end

/-- The query is out. -/
theorem Custody.query (h : Custody es s) (hrank : s.stage.rank = 0) {slot : Fin Role.maxQueries}
    (hslot : s.lookups.get slot = none) (hmoves : es₁.moves = [(⟨.query slot, 0⟩, .on)])
    (server : Endpoint) (id : UInt16) (name : DomainName) :
    Custody (es ++ es₁)
      { s with lookups := s.lookups.set slot.val (some ⟨⟨.query slot, 0⟩, server, id, name⟩) slot.isLt } := by
  refine h.step (h.toKept.enrol (h.fresh _ (.inr (.inr ⟨hrank, slot, rfl, hslot⟩))) hmoves ?_ fun k => ?_)
    h.early ?_
  · refine ⟨h.housed.client, h.housed.relay, h.housed.remote, fun i lookup hi => ?_⟩
    rcases (Session.lookups_set hslot).1 hi with ⟨rfl, rfl⟩ | hi
    · rfl
    · exact h.housed.lookups i lookup hi
  · rw [Session.mem_holdings, Session.mem_holdings, Session.mem_lookupSockets_set hslot, or_assoc]
    rfl
  · rintro k (⟨rfl, hr⟩ | ⟨n, rfl, hn⟩ | ⟨-, i, rfl, hi⟩)
    · exact ⟨.inl ⟨rfl, hr⟩, Transcript.record_of_ne hmoves nofun⟩
    · exact ⟨.inr (.inl ⟨n, rfl, hn⟩), Transcript.record_of_ne hmoves nofun⟩
    · replace hi : (s.lookups.set slot.val (some ⟨⟨.query slot, 0⟩, server, id, name⟩) slot.isLt)[(i : Nat)] =
          none := hi
      have hne : (slot : Nat) ≠ i := by
        intro heq
        rw [Vector.getElem_set, if_pos heq] at hi
        cases hi
      rw [Vector.getElem_set, if_neg hne] at hi
      exact ⟨.inr (.inr ⟨hrank, i, rfl, hi⟩),
        Transcript.record_of_ne hmoves fun heq => hne (Role.query.inj (Socket.mk.inj heq).1)⟩

/-- No query is out any more. -/
theorem Custody.closed (h : Custody es s) (hrank : s.stage.rank = 1)
    (hmoves : es₁.moves = s.lookupSockets.map (·, .off)) :
    Custody (es ++ es₁) { s with lookups := .replicate _ none } := by
  have hd : s.lookupSockets.Nodup := List.Nodup.of_map _ h.housed.lookupRoles_nodup
  have hother (k : Socket) (hk : ∀ slot, k.role ≠ .query slot) : es₁.record k = [] := by
    rw [Transcript.record_of_off hmoves hd, if_neg]
    intro hm
    obtain ⟨slot, hrole⟩ := h.housed.role_of_lookup hm
    exact hk slot hrole
  have hkept : Kept (es ++ es₁) { s with lookups := .replicate _ none } := by
    have hnone : Session.lookupSockets { s with lookups := .replicate _ none } = [] := rfl
    refine Kept.withdraw [] _ ((s.relay.map (·.socket)).toList ++
      (s.remoteSocket?.toList ++ [s.client.stream.socket])) h.toKept ?_ hmoves ?_ ?_
    · simp only [Session.holdings, List.append_assoc, List.nil_append]
    · refine ⟨h.housed.client, h.housed.relay, h.housed.remote, fun i lookup hi => ?_⟩
      have hno : Session.NoLookups { s with lookups := .replicate _ none } := rfl
      exact absurd hi (hno.getElem? i lookup)
    · simp only [Session.holdings, hnone, List.append_assoc, List.nil_append]
      rfl
  refine h.step hkept h.early ?_
  rintro k (⟨rfl, hr⟩ | ⟨n, rfl, hn⟩ | ⟨hzero, -⟩)
  · exact ⟨.inl ⟨rfl, hr⟩, hother _ (by simp)⟩
  · exact ⟨.inr (.inl ⟨n, rfl, hn⟩), hother _ (by simp)⟩
  · exact absurd (hzero.symm.trans hrank) (by decide)

/-- While candidates are tried, nothing else comes. -/
theorem Custody.expects_begin {a : Attempts} {target : Endpoint} {rest : List Endpoint} {early : Bytes}
    {stream? : Option Stream} {k : Socket}
    (hk : (s.withOutgoing ⟨a.begin target rest, stream?, early⟩).Expects k) :
    (s.withOutgoing ⟨a, none, early⟩).Expects k ∧ ⟨.remote, a.started⟩ ≠ k := by
  rcases hk with ⟨rfl, hr⟩ | ⟨n, rfl, hn⟩ | ⟨hrank, slot, rfl, hslot⟩
  · exact ⟨.inl ⟨rfl, hr⟩, nofun⟩
  · have hlt : a.started < n := hn
    exact ⟨.inr (.inl ⟨n, rfl, Nat.le_of_lt hlt⟩),
      fun heq => Nat.ne_of_lt hlt (Socket.mk.inj heq).2⟩
  · exact ⟨.inr (.inr ⟨hrank, slot, rfl, hslot⟩), nofun⟩

/-- The attempt has a socket. -/
theorem Custody.opened {a : Attempts} {target : Endpoint} {rest : List Endpoint} {early : Bytes}
    {stream : Stream} (h : Custody es (s.withOutgoing ⟨a, none, early⟩))
    (hstream : stream.socket = ⟨.remote, a.started⟩)
    (hmoves : es₁.moves = [(⟨.remote, a.started⟩, .on)]) :
    Custody (es ++ es₁) (s.withOutgoing ⟨a.begin target rest, some stream, early⟩) := by
  refine h.step (h.toKept.enrol (h.fresh _ (.inr (.inl ⟨_, rfl, Nat.le_refl _⟩))) hmoves ?_ fun k => ?_)
    (fun hrank => nomatch (h.early hrank).2) fun k hk => ?_
  · refine ⟨h.housed.client, h.housed.relay, fun socket hsocket => ?_, h.housed.lookups⟩
    obtain rfl : stream.socket = socket := Option.some.inj hsocket
    rw [hstream]
  · rw [Session.mem_holdings, Session.mem_holdings]
    show (k ∈ s.lookupSockets ∨ (∃ relay, s.relay = some relay ∧ relay.socket = k) ∨
        some stream.socket = some k ∨ k = s.client.stream.socket) ↔
      k = ⟨.remote, a.started⟩ ∨ k ∈ s.lookupSockets ∨
        (∃ relay, s.relay = some relay ∧ relay.socket = k) ∨ none = some k ∨
        k = s.client.stream.socket
    rw [hstream]
    grind
  · obtain ⟨hs, hne⟩ := Custody.expects_begin hk
    exact ⟨hs, Transcript.record_of_ne hmoves hne⟩

/-- The attempt has failed at once. -/
theorem Custody.missed {a : Attempts} {target : Endpoint} {rest : List Endpoint} {early : Bytes}
    (h : Custody es (s.withOutgoing ⟨a, none, early⟩))
    (hmoves : es₁.moves = [] ∨ es₁.moves = [(⟨.remote, a.started⟩, .off)]) :
    Custody (es ++ es₁) (s.withOutgoing ⟨a.begin target rest, none, early⟩) := by
  have hone : es₁.Released ⟨.remote, a.started⟩ := by
    rcases hmoves with hmoves | hmoves
    · exact .inl (Transcript.record_of_moves_nil hmoves)
    · exact .inr (.inl ((Transcript.record_of_move hmoves).trans (if_pos rfl)))
  have hother (k : Socket) (hk : ⟨.remote, a.started⟩ ≠ k) : es₁.record k = [] := by
    rcases hmoves with hmoves | hmoves
    · exact Transcript.record_of_moves_nil hmoves
    · exact Transcript.record_of_ne hmoves hk
  have hkept := h.toKept.visit (h.fresh _ (.inr (.inl ⟨_, rfl, Nat.le_refl _⟩))) hone hother
  refine h.step ⟨⟨hkept.housed.client, hkept.housed.relay, nofun, hkept.housed.lookups⟩, hkept.held,
    hkept.released⟩ (fun hrank => nomatch (h.early hrank).2) fun k hk => ?_
  obtain ⟨hs, hne⟩ := Custody.expects_begin hk
  exact ⟨hs, hother k hne⟩

/-- The attempt is given up. -/
theorem Custody.abandoned {out : Outgoing} {stream : Stream} (h : Custody es s)
    (hremote : s.remote = some (.stream out)) (hstream : out.stream = some stream)
    (hmoves : es₁.moves = [(stream.socket, .off)]) :
    Custody (es ++ es₁) (s.withOutgoing { out with stream := none }) := by
  have hsocket : s.remoteSocket? = some stream.socket := by
    simp [Session.remoteSocket?, hremote, Remote.outline, hstream]
  have hkept : Kept (es ++ es₁) (s.withOutgoing { out with stream := none }) := by
    refine Kept.withdraw (s.lookupSockets ++ (s.relay.map (·.socket)).toList) [stream.socket]
      [s.client.stream.socket] h.toKept ?_ hmoves ⟨h.housed.client, h.housed.relay, by simp [Session.remoteSocket?, Remote.outline],
        h.housed.lookups⟩ ?_
    · simp [Session.holdings, hsocket]
    · simp only [Session.holdings, Session.remoteSocket?, Session.withOutgoing_remote, Option.map_some,
        Remote.outline, Option.map_none, Option.bind_some, Option.toList_none, List.append_nil]
      rfl
  have hremotes : (s.withOutgoing { out with stream := none }).remotes = s.remotes := by
    rw [Session.remotes, Session.remotes, hremote]
    rfl
  -- What is held is not yet to come.
  have hfresh (k : Socket) (hk : s.Expects k) : s.Expects k ∧ es₁.record k = [] := by
    refine ⟨hk, Transcript.record_of_ne hmoves fun heq => ?_⟩
    have hheld := h.held _ (Session.mem_holdings.2 (.inr (.inr (.inl hsocket))))
    rw [heq, h.fresh k hk] at hheld
    cases hheld
  refine h.step hkept (fun hrank => ?_) fun k hk => hfresh k ?_
  · have hnone := (h.early hrank).2
    rw [hremote] at hnone
    cases hnone
  · rw [Session.Expects, hremotes] at hk
    exact hk

/-- Nothing was tried yet. -/
theorem Custody.sought (h : Custody es s) (hrank : s.stage.rank ≤ 1) (candidates : List Endpoint) :
    Custody es { s with
      stage := .connecting
      inbound := []
      remote := some (.stream ⟨Attempts.new candidates, none, s.inbound⟩) } := by
  obtain ⟨hrelay, hremote⟩ := h.early hrank
  have hnone : s.remoteSocket? = none := by rw [Session.remoteSocket?, hremote]; rfl
  have hholdings : Session.holdings { s with
      stage := .connecting
      inbound := []
      remote := some (.stream ⟨Attempts.new candidates, none, s.inbound⟩) } = s.holdings := by
    rw [Session.holdings, Session.holdings, hnone]
    rfl
  refine ⟨⟨⟨h.housed.client, h.housed.relay, by simp [Session.remoteSocket?, Remote.outline],
    h.housed.lookups⟩, ?_, ?_⟩, ?_, ?_⟩
  · rw [hholdings]
    exact h.held
  · rw [hholdings]
    exact h.released
  · intro hlow
    exact absurd (show 2 ≤ 1 from hlow) (by decide)
  · rintro k (hk | ⟨n, rfl, hn⟩ | ⟨hzero, -⟩)
    · exact h.fresh k (.inl hk)
    · refine h.fresh _ (.inr (.inl ⟨n, rfl, ?_⟩))
      rw [Session.remotes, hremote]
      exact hn
    · exact absurd (show 2 = 0 from hzero) (by decide)

/-- The system does not tell the address of the socket that is to face the client: the session has it no
    more. -/
theorem Custody.stranded (h : Custody es s) (hrank : s.stage.rank ≤ 1)
    (hmoves : es₁.moves = [(⟨.relay, 0⟩, .on)]) (e : IoError) :
    Kept (es ++ es₁ ++ [⟨.localAddress ⟨.relay, 0⟩, (.error e : Except IoError Endpoint)⟩]) s := by
  have hnew := h.fresh ⟨.relay, 0⟩ (.inl ⟨rfl, (h.early hrank).1⟩)
  have hrecord (k : Socket) :
      Transcript.record
          (es ++ es₁ ++ [⟨.localAddress ⟨.relay, 0⟩, (.error e : Except IoError Endpoint)⟩]) k =
        es.record k ++ if (⟨.relay, 0⟩ : Socket) = k then [.on] else [] := by
    rw [Transcript.record_behind rfl, Transcript.record_append, Transcript.record_of_move hmoves]
  have hheld : (⟨.relay, 0⟩ : Socket) ∉ s.holdings := fun hm => by
    rw [h.held _ hm] at hnew
    cases hnew
  refine ⟨h.housed, fun k hk => ?_, fun k hk => ?_⟩
  · have hne : (⟨.relay, 0⟩ : Socket) ≠ k := fun heq => hheld (heq ▸ hk)
    rw [hrecord, if_neg hne, List.append_nil]
    exact h.held k hk
  · by_cases heq : (⟨.relay, 0⟩ : Socket) = k
    · subst heq
      refine .inr ⟨rfl, ?_, e, List.mem_append_right _ List.mem_cons_self⟩
      rw [hrecord, if_pos rfl, hnew]
      rfl
    · have hnone : Transcript.record
          (es₁ ++ [⟨.localAddress ⟨.relay, 0⟩, (.error e : Except IoError Endpoint)⟩]) k = [] := by
        rw [Transcript.record_behind rfl, Transcript.record_of_ne hmoves heq]
      rw [List.append_assoc]
      exact (h.released k hk).imp (·.behind hnone) (·.behind hnone)

/-- The session has the socket that faces the client. -/
theorem Custody.relayed (h : Custody es s) (hrank : s.stage.rank ≤ 1)
    (hmoves : es₁.moves = [(⟨.relay, 0⟩, .on)]) (ports : PortMap) :
    Kept (es ++ es₁) { s with relay := some ⟨⟨.relay, 0⟩, ports⟩ } := by
  have hnone := (h.early hrank).1
  refine h.toKept.enrol (h.fresh _ (.inl ⟨rfl, hnone⟩)) hmoves ⟨h.housed.client, ?_, h.housed.remote,
    h.housed.lookups⟩ fun k => ?_
  · rintro _ ⟨⟩
    rfl
  · rw [Session.mem_holdings, Session.mem_holdings, hnone]
    show (k ∈ s.lookupSockets ∨ (∃ relay : Relay, some ⟨⟨.relay, 0⟩, ports⟩ = some relay ∧ relay.socket = k) ∨
        s.remoteSocket? = some k ∨ k = s.client.stream.socket) ↔ _
    simp only [Option.some.injEq, exists_eq_left', reduceCtorEq, false_and, exists_false, false_or]
    grind

/-- The session has both sockets of an association. -/
theorem Custody.associated (h : Custody es s) (hrank : s.stage.rank ≤ 1)
    (hmoves : es₁.moves = [(⟨.relay, 0⟩, .on)]) (hmoves₂ : es₂.moves = [(⟨.remote, 0⟩, .on)])
    (ports : PortMap) (bound : Endpoint) :
    Custody (es ++ es₁ ++ [⟨.localAddress ⟨.relay, 0⟩, (.ok bound : Except IoError Endpoint)⟩] ++ es₂)
      { s with
        stage := .associated
        remote := some (.datagram ⟨.remote, 0⟩)
        relay := some ⟨⟨.relay, 0⟩, ports⟩
        inbound := [] } := by
  have hremote : s.remotes = 0 := by rw [Session.remotes, (h.early hrank).2]; rfl
  have hnew (n : Nat) : Transcript.record (es ++ es₁ ++
      [⟨.localAddress ⟨.relay, 0⟩, (.ok bound : Except IoError Endpoint)⟩]) ⟨.remote, n⟩ = [] := by
    have hne : (⟨.relay, 0⟩ : Socket) ≠ ⟨.remote, n⟩ := nofun
    rw [Transcript.record_behind rfl, Transcript.record_append, Transcript.record_of_ne hmoves hne,
      h.fresh _ (.inr (.inl ⟨n, rfl, hremote ▸ Nat.zero_le n⟩))]
    rfl
  have hhalf : Kept (es ++ es₁ ++ [⟨.localAddress ⟨.relay, 0⟩, (.ok bound : Except IoError Endpoint)⟩])
      { s with relay := some ⟨⟨.relay, 0⟩, ports⟩ } :=
    (h.relayed hrank hmoves ports).behind rfl
  refine ⟨hhalf.enrol (hnew 0) hmoves₂ ⟨h.housed.client, hhalf.housed.relay, ?_, h.housed.lookups⟩
    fun k => ?_, ?_, ?_⟩
  · rintro _ ⟨⟩
    rfl
  · have hnone : s.remoteSocket? = none := by rw [Session.remoteSocket?, (h.early hrank).2]; rfl
    rw [Session.mem_holdings, Session.mem_holdings]
    show (k ∈ s.lookupSockets ∨ (∃ relay : Relay, some ⟨⟨.relay, 0⟩, ports⟩ = some relay ∧ relay.socket = k) ∨
        some ⟨.remote, 0⟩ = some k ∨ k = s.client.stream.socket) ↔
      k = ⟨.remote, 0⟩ ∨ k ∈ s.lookupSockets ∨
        (∃ relay : Relay, some ⟨⟨.relay, 0⟩, ports⟩ = some relay ∧ relay.socket = k) ∨
        s.remoteSocket? = some k ∨ k = s.client.stream.socket
    rw [hnone]
    grind
  · intro hlow
    exact absurd (show 4 ≤ 1 from hlow) (by decide)
  · rintro k (⟨-, hr⟩ | ⟨n, rfl, hn⟩ | ⟨hzero, -⟩)
    · cases hr
    · have hlt : 0 < n := hn
      rw [Transcript.record_append, hnew n, Transcript.record_of_ne hmoves₂
        fun heq => Nat.ne_of_lt hlt (Socket.mk.inj heq).2]
      rfl
    · exact absurd (show 4 = 0 from hzero) (by decide)


end

theorem custody_upheld (ctx : Context) : Upheld ctx Custody CustodyOver where
  enduring := custody_enduring
  fails _ _ _ h := .inl h
  lasts := custodyOver_enduring
  cut h := h.resolve_right fun hf => hf.1 _ _ rfl
  advances h hrank := h.advance hrank
  missesQuery h _ h₁ := h.behind ((Talk.openDatagram_moves h₁).2 _ rfl)
  withdraws {_ s es₁ es₂ es₃ _ _ _ _ _ slot} h hrank hfree h₁ h₂ h₃ hfinal := by
    have hon := (Talk.openDatagram_moves h₁).1 rfl
    have hquiet := Talk.sendTo_moves h₂
    have hoff := Talk.deregister_moves h₃
    have hrecord (k : Socket) : Transcript.record (es₁ ++ es₂ ++ es₃) k =
        if ⟨.query slot, 0⟩ = k then [Move.on, Move.off] else [] := by
      rw [Transcript.record_append, Transcript.record_append, Transcript.record_of_move hon,
        Transcript.record_of_moves_nil hquiet, Transcript.record_of_move hoff]
      split <;> rfl
    rw [List.append_assoc, List.append_assoc, ← List.append_assoc es₁]
    refine .inr ⟨hfinal, h.toKept.visit (h.fresh _ (.inr (.inr ⟨hrank, slot, rfl, hfree⟩))) ?_
      fun k hk => (hrecord k).trans (if_neg hk)⟩
    exact .inr (.inr ((hrecord _).trans (if_pos rfl)))
  queries h hrank hfree h₁ h₂ :=
    (h.query hrank hfree ((Talk.openDatagram_moves h₁).1 rfl) _ _ _).behind (Talk.sendTo_moves h₂)
  waits h _ h₁ := h.behind (Talk.receiveFrom_moves h₁)
  closesLookups h hrank h₁ := h.closed hrank (Talk.deregisterAll_moves h₁)
  connects h hrank := h.sought hrank _
  opens h h₁ := by
    obtain ⟨hsocket, hmoves⟩ := (Talk.openStream_moves h₁).1 _ rfl
    exact h.opened hsocket hmoves
  misses h h₁ := h.missed ((Talk.openStream_moves h₁).2 _ rfl)
  abandons h hremote hstream h₁ := h.abandoned hremote hstream (Talk.streamClose_moves h₁)
  missesRelay h _ h₁ := .inl (h.behind ((Talk.openDatagram_moves h₁).2 _ rfl))
  unboundRelay h hrank h₁ :=
    .inr ⟨nofun, h.stranded hrank ((Talk.openDatagram_moves h₁).1 rfl) _⟩
  halfAssociates {_ s _ _ _ _ _ _} h hrank h₁ h₂ := by
    have hrelay := h.relayed hrank ((Talk.openDatagram_moves h₁).1 rfl) (PortMap.new s.client.peer.ip)
    exact .inr ⟨nofun, (hrelay.behind rfl).behind ((Talk.openDatagram_moves h₂).2 _ rfl)⟩
  associates h hrank h₁ h₂ :=
    h.associated hrank ((Talk.openDatagram_moves h₁).1 rfl) ((Talk.openDatagram_moves h₂).1 rfl) _ _
  awaitsClient h _ h₁ _ := h.behind (Talk.receiveFrom_moves h₁)
  forwards h hrelay hremote h₁ ids :=
    Handler.brings_forward custody_enduring (fun _ _ _ => .inl)
      (fun _ _ _ _ _ _ _ h hr => h.behind (Talk.sendTo_moves hr))
      (fun _ _ ports h hrelay => h.withPorts hrelay ports)
      ⟨_, ids⟩ _ ⟨h.behind (Talk.receiveFrom_moves h₁), hrelay, hremote⟩
  awaitsRemote h _ h₁ _ := h.behind (Talk.receiveFrom_moves h₁)
  delivers h hrelay hremote h₁ ids :=
    Handler.brings_deliver custody_enduring (fun _ _ _ => .inl)
      (fun _ _ _ _ _ _ _ h hr => h.behind (Talk.sendTo_moves hr))
      ⟨_, ids⟩ _ ⟨h.behind (Talk.receiveFrom_moves h₁), hrelay, hremote⟩

/-! ## Whole lives -/

section
variable {ctx : Context} {h : History} {s : Session}

theorem start_moves {settings : Settings} {peer : Endpoint} {es : Transcript} {s : Session}
    (h : Run (Session.start settings peer) es (.ok s)) : es.moves = [(⟨.client, 0⟩, .on)] := by
  obtain ⟨-, es₁, rfl, h₁⟩ := start_cases h
  rw [Transcript.moves_append, Transcript.moves_of_aside h₁]
  rfl

/-- A client that cannot get a session was not put on the poller. -/
theorem start_fails_moves {settings : Settings} {peer : Endpoint} {es : Transcript} {e : IoError}
    (h : Run (Session.start settings peer) es (.error e)) : es.moves = [] := by
  simp only [Session.start] at h
  obtain ⟨es₁, es₂, a, rfl, h₁, h₂⟩ := run_monad_bind_iff.1 h
  rw [Transcript.moves_append, (Talk.tune_plain h₁).moves, List.nil_append]
  cases a with
  | error _ =>
    obtain ⟨rfl, -⟩ := run_pure_iff.1 h₂
    rfl
  | ok _ =>
    obtain ⟨es₃, es₄, (b : Except IoError Endpoint), rfl, h₃, h₄⟩ := run_monad_bind_iff.1 h₂
    obtain rfl := run_call_iff.1 h₃
    cases b with
    | error _ =>
      obtain ⟨rfl, -⟩ := run_pure_iff.1 h₄
      rfl
    | ok _ =>
      obtain ⟨es₅, es₆, (c : Except IoError Unit), rfl, h₅, h₆⟩ := run_monad_bind_iff.1 h₄
      obtain rfl := run_call_iff.1 h₅
      cases c with
      | error _ =>
        obtain ⟨rfl, -⟩ := run_pure_iff.1 h₆
        rfl
      | ok _ => cases (run_pure_iff.1 h₆).2

theorem custody_of_start {settings : Settings} {peer : Endpoint} {es : Transcript} {s : Session}
    (h : Run (Session.start settings peer) es (.ok s)) : Custody es s := by
  have hmoves := start_moves h
  obtain ⟨⟨localAddress, rfl⟩, -⟩ := start_cases h
  have hno : (Session.fresh peer localAddress).NoLookups := rfl
  have hholdings : (Session.fresh peer localAddress).holdings = [⟨.client, 0⟩] := rfl
  have hother (k : Socket) (hk : ⟨.client, 0⟩ ≠ k) : es.record k = [] := Transcript.record_of_ne hmoves hk
  refine ⟨⟨⟨rfl, nofun, nofun, fun slot lookup hl => absurd hl (hno.getElem? slot lookup)⟩, ?_, ?_⟩,
    fun _ => ⟨rfl, rfl⟩, ?_⟩
  · rw [hholdings]
    intro k hk
    rw [List.mem_singleton.1 hk]
    exact (Transcript.record_of_move hmoves).trans (if_pos rfl)
  · rw [hholdings]
    intro k hk
    exact .inl (.inl (hother k fun heq => hk (heq ▸ List.mem_singleton_self _)))
  · rintro k (⟨rfl, -⟩ | ⟨n, rfl, -⟩ | ⟨-, slot, rfl, -⟩) <;> exact hother _ nofun

theorem Life.custody (hl : Life ctx h s) : Custody h.calls s :=
  (custody_upheld ctx).life (fun _ _ _ => custody_of_start) hl

/-- A session that goes on holds what is registered on its behalf. -/
theorem Custody.mem_holdings_iff {es : Transcript} {k : Socket} (h : Custody es s) :
    k ∈ s.holdings ↔ es.record k = [.on] := by
  refine ⟨h.held k, fun hrecord => ?_⟩
  by_contra hk
  rcases h.released k hk with (hr | hr | hr) | ⟨rfl, -, -⟩
  · rw [hr] at hrecord; nomatch hrecord
  · rw [hr] at hrecord; nomatch hrecord
  · rw [hr] at hrecord; nomatch hrecord
  · have hnone : s.relay = none := by
      cases hrelay : s.relay with
      | none => rfl
      | some relay =>
        exact absurd (Session.mem_holdings.2 (.inr (.inl ⟨relay, hrelay, h.housed.relay relay hrelay⟩))) hk
    rw [h.fresh _ (.inl ⟨rfl, hnone⟩)] at hrecord
    nomatch hrecord

/-- Sockets that a session held are settled when they were taken off, and so are those that it did not
    hold. -/
theorem Kept.settles {es es' : Transcript} {ks : List Socket} (h : Kept es s)
    (hmoves : es'.moves = ks.map (·, .off)) (hd : ks.Nodup) (hks : ∀ k ∈ ks, k ∈ s.holdings) {k : Socket}
    (hk : k ∈ s.holdings → k ∈ ks) : (es ++ es').Released k ∨ (es ++ es').Strands k := by
  have hoff : es'.record k = if k ∈ ks then [.off] else [] := Transcript.record_of_off hmoves hd
  by_cases hm : k ∈ ks
  · refine .inl (.inr (.inr ?_))
    rw [Transcript.record_append, h.held k (hks k hm), hoff, if_pos hm]
    rfl
  · have hnone : es'.record k = [] := hoff.trans (if_neg hm)
    exact (h.released k (mt hk hm)).imp (·.behind hnone) (·.behind hnone)

/-- When a session is over, every socket that was put on the poller on its behalf was taken off, once, but
    for a relay whose address the system has not told. -/
theorem Ended.settled (he : Ended ctx h s) (k : Socket) : h.calls.Released k ∨ h.calls.Strands k := by
  obtain ⟨es₁, es₂, e, heq, hover, hclose⟩ := (custody_upheld ctx).ended (fun _ _ _ => custody_of_start) he
  have hkept : Kept es₁ s := hover.elim (·.toKept) (·.2)
  rw [heq]
  exact hkept.settles (Session.close_moves hclose) hkept.housed.holdings_nodup (fun _ hk => hk) fun hk => hk

end

end SocksProxy
