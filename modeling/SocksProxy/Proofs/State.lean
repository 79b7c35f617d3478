/-
  Sessions with one of their streams exchanged.

  Handlers change a stream and leave everything else as it was. The `@[simp]` lemmas say so field by
  field.
-/
import SocksProxy.Session.Basic

namespace SocksProxy.Session

/-- The session with another stream of the client. -/
def withClientStream (s : Session) (stream : Stream) : Session :=
  { s with client := { s.client with stream } }

/-- The session with another stream of the remote side, if it has one. -/
def withRemoteStream (s : Session) (stream : Stream) : Session :=
  match s.outgoing? with
  | some out => s.withOutgoing { out with stream := some stream }
  | none => s

variable {s : Session} {stream stream' : Stream} {out : Outgoing}

theorem remoteStream?_eq_some :
    s.remoteStream? = some stream ↔
      ∃ out, s.remote = some (.stream out) ∧ out.stream = some stream := by
  unfold remoteStream? outgoing?
  split
  · next out h => simp [h]
  · next h => simpa using fun out ho => absurd ho (h out)

theorem withRemoteStream_of_remote (h : s.remote = some (.stream out)) :
    s.withRemoteStream stream = s.withOutgoing { out with stream := some stream } := by
  simp only [withRemoteStream, outgoing?, h]

/-! ## The client -/

@[simp] theorem withClientStream_stage : (s.withClientStream stream).stage = s.stage := rfl

@[simp] theorem withClientStream_stream :
    (s.withClientStream stream).client.stream = stream := rfl

@[simp] theorem withClientStream_remote : (s.withClientStream stream).remote = s.remote := rfl

@[simp] theorem withClientStream_relay : (s.withClientStream stream).relay = s.relay := rfl

@[simp] theorem withClientStream_lookups : (s.withClientStream stream).lookups = s.lookups := rfl

@[simp] theorem withClientStream_inbound : (s.withClientStream stream).inbound = s.inbound := rfl

@[simp] theorem withClientStream_pending : (s.withClientStream stream).pending = s.pending := rfl

@[simp] theorem withClientStream_remoteStream? :
    (s.withClientStream stream).remoteStream? = s.remoteStream? := rfl

/-! ## The remote side -/

@[simp] theorem withOutgoing_stage : (s.withOutgoing out).stage = s.stage := rfl

@[simp] theorem withOutgoing_client : (s.withOutgoing out).client = s.client := rfl

@[simp] theorem withOutgoing_remote : (s.withOutgoing out).remote = some (.stream out) := rfl

@[simp] theorem withOutgoing_relay : (s.withOutgoing out).relay = s.relay := rfl

@[simp] theorem withOutgoing_lookups : (s.withOutgoing out).lookups = s.lookups := rfl

@[simp] theorem withOutgoing_inbound : (s.withOutgoing out).inbound = s.inbound := rfl

@[simp] theorem withOutgoing_pending : (s.withOutgoing out).pending = s.pending := rfl

@[simp] theorem withOutgoing_remoteStream? : (s.withOutgoing out).remoteStream? = out.stream := rfl

@[simp] theorem withRemoteStream_stage : (s.withRemoteStream stream).stage = s.stage := by
  unfold withRemoteStream; split <;> rfl

@[simp] theorem withRemoteStream_client : (s.withRemoteStream stream).client = s.client := by
  unfold withRemoteStream; split <;> rfl

@[simp] theorem withRemoteStream_relay : (s.withRemoteStream stream).relay = s.relay := by
  unfold withRemoteStream; split <;> rfl

@[simp] theorem withRemoteStream_lookups : (s.withRemoteStream stream).lookups = s.lookups := by
  unfold withRemoteStream; split <;> rfl

@[simp] theorem withRemoteStream_inbound : (s.withRemoteStream stream).inbound = s.inbound := by
  unfold withRemoteStream; split <;> rfl

@[simp] theorem withRemoteStream_pending : (s.withRemoteStream stream).pending = s.pending := by
  unfold withRemoteStream; split <;> rfl

@[simp] theorem withRemoteStream_withRemoteStream :
    (s.withRemoteStream stream).withRemoteStream stream' = s.withRemoteStream stream' := by
  cases h : s.outgoing? with
  | some out => simp only [withRemoteStream, h]; rfl
  | none => simp only [withRemoteStream, h]

theorem withRemoteStream_withClientStream :
    (s.withRemoteStream stream).withClientStream stream' =
      (s.withClientStream stream').withRemoteStream stream := by
  have h' : (s.withClientStream stream').outgoing? = s.outgoing? := rfl
  cases h : s.outgoing? with
  | some out => simp only [withRemoteStream, h', h]; rfl
  | none => simp only [withRemoteStream, h', h]

theorem withRemoteStream_remoteStream? (stream' : Stream) (h : s.remoteStream? = some stream) :
    (s.withRemoteStream stream').remoteStream? = some stream' := by
  obtain ⟨out, hout, -⟩ := remoteStream?_eq_some.1 h
  rw [withRemoteStream_of_remote hout]
  rfl

/-- The attempts of a tunnel. -/
def attempts? (s : Session) : Option Attempts :=
  s.outgoing?.map (·.attempts)

@[simp] theorem withClientStream_attempts? : (s.withClientStream stream).attempts? = s.attempts? := rfl

@[simp] theorem withRemoteStream_attempts? : (s.withRemoteStream stream).attempts? = s.attempts? := by
  cases h : s.outgoing? with
  | some out =>
    simp only [withRemoteStream, attempts?, h]
    rfl
  | none => simp only [withRemoteStream, attempts?, h]

/-! ## Excuses -/

/-- The client need not be listened to: it has something to take first, or the remote side does. -/
def ClientExcused (s : Session) : Prop :=
  s.client.stream.hasPending = true ∨ s.stage = .connecting ∨
    (s.stage = .connected ∧ ∃ stream, s.remoteStream? = some stream ∧ stream.hasPending = true)

/-- The remote side need not be listened to: it has something to take first, or the client does. -/
def RemoteExcused (s : Session) : Prop :=
  s.stage ≠ .connected ∨ s.client.stream.hasPending = true ∨
    ∃ stream, s.remoteStream? = some stream ∧ stream.hasPending = true

end SocksProxy.Session
