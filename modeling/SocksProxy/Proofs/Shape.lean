/-
  What a session holds in each stage.

  * `Session.Shaped` holds of a new session, and every step keeps it (`Step.shaped`, `Steps.shaped`).
-/
import SocksProxy.Proofs.Step

namespace SocksProxy

open Dialogue

namespace Session

/-- No query is out. -/
def NoLookups (s : Session) : Prop :=
  s.lookups = .replicate _ none

/-- What a session holds in its stage: a remote side, sockets of an association, queries, a request
    that waits, and bytes that were read. -/
def Holds (s : Session) : Prop :=
  match s.stage with
  | .accepted | .authRequested | .authenticated =>
    s.NoLookups ∧ s.remote = none ∧ s.relay = none ∧ s.pending = none
  | .resolving => s.remote = none ∧ s.relay = none ∧ s.pending.isSome = true
  | .connecting => s.NoLookups ∧ s.inbound = [] ∧ s.relay = none ∧
    ∃ out, s.remote = some (.stream out) ∧
      ∀ stream, out.stream = some stream → stream.socket.role = .remote ∧ stream.outbound = .empty
  | .connected => s.NoLookups ∧ s.inbound = [] ∧ s.relay = none ∧
    ∃ attempts stream, s.remote = some (.stream ⟨attempts, some stream, []⟩) ∧
      stream.socket.role = .remote
  | .associated => s.NoLookups ∧ s.inbound = [] ∧ s.relay.isSome = true ∧
    ∃ socket, s.remote = some (.datagram socket)

/-- The session has the parts that its stage asks for, and no others. -/
structure Shaped (s : Session) : Prop where
  client : s.client.stream.socket = ⟨.client, 0⟩
  queries : ∀ (slot : Nat) (lookup : Lookup), s.lookups[slot]? = some (some lookup) →
    lookup.socket.role ≠ .client
  holds : s.Holds

variable {s : Session}

theorem holds_handshake (h : s.stage.isHandshake = true) :
    s.Holds ↔ s.NoLookups ∧ s.remote = none ∧ s.relay = none ∧ s.pending = none := by
  unfold Holds
  cases hs : s.stage <;> simp [hs, Stage.isHandshake] at h ⊢

theorem holds_resolving (h : s.stage = .resolving) :
    s.Holds ↔ s.remote = none ∧ s.relay = none ∧ s.pending.isSome = true := by
  simp only [Holds, h]

theorem holds_connecting (h : s.stage = .connecting) :
    s.Holds ↔ s.NoLookups ∧ s.inbound = [] ∧ s.relay = none ∧
      ∃ out, s.remote = some (.stream out) ∧
        ∀ stream, out.stream = some stream →
          stream.socket.role = .remote ∧ stream.outbound = .empty := by
  simp only [Holds, h]

theorem holds_connected (h : s.stage = .connected) :
    s.Holds ↔ s.NoLookups ∧ s.inbound = [] ∧ s.relay = none ∧
      ∃ attempts stream, s.remote = some (.stream ⟨attempts, some stream, []⟩) ∧
        stream.socket.role = .remote := by
  simp only [Holds, h]

theorem holds_associated (h : s.stage = .associated) :
    s.Holds ↔ s.NoLookups ∧ s.inbound = [] ∧ s.relay.isSome = true ∧
      ∃ socket, s.remote = some (.datagram socket) := by
  simp only [Holds, h]

theorem NoLookups.getElem? (h : s.NoLookups) (slot : Nat) (lookup : Lookup) :
    s.lookups[slot]? ≠ some (some lookup) := by
  intro hl
  rw [h, Vector.getElem?_replicate] at hl
  split at hl <;> nomatch hl

theorem Shaped.withClientStream (h : s.Shaped) {stream : Stream}
    (hs : stream.socket = s.client.stream.socket) : (s.withClientStream stream).Shaped :=
  ⟨hs.trans h.client, h.queries, h.holds⟩

theorem Shaped.withRemoteStream (h : s.Shaped) {stream stream' : Stream}
    (hc : s.stage = .connected) (hr : s.remoteStream? = some stream)
    (hs : stream'.socket = stream.socket) : (s.withRemoteStream stream').Shaped := by
  obtain ⟨hl, hi, hrel, attempts, stream₀, hrem, hrole⟩ := (holds_connected hc).1 h.holds
  have heq : stream₀ = stream := by
    simpa [Session.remoteStream?, Session.outgoing?, hrem] using hr
  subst heq
  rw [withRemoteStream_of_remote hrem]
  exact ⟨h.client, h.queries, (holds_connected (s := s.withOutgoing _) hc).2
    ⟨hl, hi, hrel, attempts, stream', rfl, (congrArg Socket.role hs).trans hrole⟩⟩

end Session

theorem Session.Shaped.connected {s : Session} (h : s.Shaped) (hc : s.stage = .connected) :
    ∃ stream, s.remoteStream? = some stream ∧ stream.socket.role = .remote := by
  obtain ⟨-, -, -, attempts, stream, hrem, hrole⟩ := (Session.holds_connected hc).1 h.holds
  exact ⟨stream, Session.remoteStream?_eq_some.2 ⟨_, hrem, rfl⟩, hrole⟩

theorem Session.Shaped.connected_role {s : Session} {stream : Stream} (h : s.Shaped)
    (hc : s.stage = .connected) (hr : s.remoteStream? = some stream) :
    stream.socket.role = .remote := by
  obtain ⟨stream', hr', hrole⟩ := h.connected hc
  rw [hr] at hr'
  cases hr'
  exact hrole

/-- The stream of an attempt has nothing scheduled. -/
theorem Session.Shaped.connecting {s : Session} {out : Outgoing} {stream : Stream} (h : s.Shaped)
    (hc : s.stage = .connecting) (hr : s.remote = some (.stream out))
    (ho : out.stream = some stream) : stream.socket.role = .remote ∧ stream.outbound = .empty := by
  obtain ⟨-, -, -, out', hr', hout⟩ := (Session.holds_connecting hc).1 h.holds
  rw [hr] at hr'
  cases hr'
  exact hout stream ho

/-- Work on the stream of the client sends nothing elsewhere. -/
theorem Session.Shaped.mute_client {α : Type} {s : Session} {stream : Stream} {data : Bytes}
    {es : Transcript} {r : Except IoError α} (h : s.Shaped) (role : Role)
    (hw : s.client.stream.Worked data es r stream) (hr : role ≠ .client) :
    Transcript.Mute role es :=
  hw.mute (by rw [h.client]; exact hr.symm)

/-! ## Requests -/

/-- A request leaves the streams as they are, and nothing is waited for any more. -/
theorem Requested.frame {s s₁ : Session} {intent : Intent} (h : Requested s intent s₁)
    (hs : s.Shaped) : s₁.client = s.client ∧ s₁.NoLookups ∧ s₁.remote = none ∧ s₁.relay = none := by
  cases h with
  | literal hst =>
    obtain ⟨hl, hrem, hrel, -⟩ := (Session.holds_handshake (by rw [hst]; rfl)).1 hs.holds
    exact ⟨rfl, hl, hrem, hrel⟩
  | resolved hst hp hl =>
    obtain ⟨hrem, hrel, -⟩ := (Session.holds_resolving hst).1 hs.holds
    exact ⟨rfl, hl, hrem, hrel⟩

/-! ## Steps -/

theorem verdict_eq_ok {α : Type} {r : Except IoError α} (h : verdict r = .ok ()) :
    ∃ a, r = .ok a := by
  cases r with
  | ok a => exact ⟨a, rfl⟩
  | error e => nomatch h

/-- An accepted message leads on in the handshake. -/
theorem Accepts.isHandshake {settings : Settings} {s : Session} {n : Nat} {data : Bytes}
    {next : Stage} (h : Accepts settings s n data next) :
    s.stage.isHandshake = true ∧ next.isHandshake = true := by
  cases h with
  | @greeting _ _ method hst => cases method <;> exact ⟨by rw [hst]; rfl, rfl⟩
  | credentials hst => exact ⟨by rw [hst]; rfl, rfl⟩

variable {ctx : Context} {origin : Stage} {s s' : Session} {es : Transcript}
  {r : Except SessionError Unit}

theorem Step.shaped (h : Step ctx origin s es r s') (hr : r = .ok ()) (hs : s.Shaped) :
    s'.Shaped := by
  cases h with
  | aside | clientPolled | queried | remotePolled | discarded => exact hs
  | ended | cut | unanswered | farewell | unbound | unstarted | unassociated => nomatch hr
  | clientFlushed h => exact hs.withClientStream h.worked.socket
  | clientResumed h => exact hs.withClientStream (Stream.resume_cases h).1.socket
  | @heard _ b _ hst =>
    exact ⟨hs.client, hs.queries,
      (Session.holds_handshake (s := { s with inbound := s.inbound ++ b }) hst).2
        ((Session.holds_handshake hst).1 hs.holds)⟩
  | answered ha _ hd =>
    obtain ⟨hst, hnext⟩ := ha.isHandshake
    exact ⟨hd.worked.socket.trans hs.client, hs.queries,
      (Session.holds_handshake hnext).2 ((Session.holds_handshake hst).1 hs.holds)⟩
  | @lookupStarted _ _ _ slot lookup _ hst _ _ hrole =>
    obtain ⟨hl, hrem, hrel, -⟩ := (Session.holds_handshake (by rw [hst]; rfl)).1 hs.holds
    refine ⟨hs.client, fun i found hf => ?_, (Session.holds_resolving rfl).2 ⟨hrem, hrel, rfl⟩⟩
    simp only [Vector.getElem?_set] at hf
    split at hf
    · cases hf
      rw [hrole]
      nofun
    · exact absurd hf (hl.getElem? i found)
  | lookupsClosed hst =>
    have hl : Session.NoLookups { s with lookups := .replicate _ none } := rfl
    exact ⟨hs.client, fun i found hf => absurd hf (hl.getElem? i found),
      (Session.holds_resolving (s := { s with lookups := .replicate _ none }) hst).2
        ((Session.holds_resolving hst).1 hs.holds)⟩
  | connectStarted hreq =>
    obtain ⟨hclient, hl, -, hrel⟩ := hreq.frame hs
    exact ⟨(congrArg (·.stream.socket) hclient).trans hs.client,
      fun i found hf => absurd hf (hl.getElem? i found),
      (Session.holds_connecting rfl).2 ⟨hl, rfl, hrel, _, rfl, nofun⟩⟩
  | attemptStarted hst hrem hrun =>
    obtain ⟨hl, hi, hrel, -⟩ := (Session.holds_connecting hst).1 hs.holds
    obtain ⟨rfl, -⟩ := (Talk.openStream_cases hrun).2 _ rfl
    exact ⟨hs.client, hs.queries, (Session.holds_connecting (s := s.withOutgoing _) hst).2
      ⟨hl, hi, hrel, _, rfl, by rintro _ ⟨⟩; exact ⟨rfl, rfl⟩⟩⟩
  | attemptFailed hst | abandoned hst =>
    obtain ⟨hl, hi, hrel, -⟩ := (Session.holds_connecting hst).1 hs.holds
    exact ⟨hs.client, hs.queries, (Session.holds_connecting (s := s.withOutgoing _) hst).2
      ⟨hl, hi, hrel, _, rfl, nofun⟩⟩
  | @established _ _ _ _ _ out stream stream' _ _ _ _ hst hrem hout _ _ hstart _ hann =>
    obtain ⟨hl, hi, hrel, out', hrem', hrole⟩ := (Session.holds_connecting hst).1 hs.holds
    have heq : out' = out := by
      rw [hrem] at hrem'
      cases hrem'
      rfl
    subst heq
    refine ⟨hann.worked.socket.trans hs.client, hs.queries, (Session.holds_connected rfl).2
      ⟨hl, hi, hrel, _, _, rfl, ?_⟩⟩
    rw [hstart.worked.socket]
    exact (hrole stream hout).1
  | relayedUp _ hst hrem _ _ hd => exact hs.withRemoteStream hst hrem hd.worked.socket
  | relayedDown _ _ _ _ hd => exact hs.withClientStream hd.worked.socket
  | clientDrained hst hrem hf hres =>
    exact (hs.withClientStream hf.worked.socket).withRemoteStream hst hrem
      (Stream.resume_cases hres).1.socket
  | remoteFlushed hst hrem hf => exact hs.withRemoteStream hst hrem hf.worked.socket
  | remoteDrained hst hrem hf hres =>
    exact (hs.withClientStream (Stream.resume_cases hres).1.socket).withRemoteStream hst hrem
      hf.worked.socket
  | associated hreq _ hd =>
    obtain ⟨hclient, hl, -, hrel⟩ := hreq.frame hs
    refine ⟨?_, fun i found hf => absurd hf (hl.getElem? i found),
      (Session.holds_associated rfl).2 ⟨hl, rfl, rfl, _, rfl⟩⟩
    exact hd.worked.socket.trans ((congrArg (·.stream.socket) hclient).trans hs.client)
  | @datagrams _ relay hst hrelay =>
    obtain ⟨hl, hi, hrel, hrem⟩ := (Session.holds_associated hst).1 hs.holds
    exact ⟨hs.client, hs.queries, (Session.holds_associated (s := { s with relay }) hst).2
      ⟨hl, hi, hrelay.trans hrel, hrem⟩⟩

theorem Steps.shaped (h : Steps ctx origin s es r s') (hr : r = .ok ()) (hs : s.Shaped) :
    s'.Shaped := by
  induction h with
  | nil => exact hs
  | snoc _ h ih => exact h.shaped hr (ih rfl)

end SocksProxy
