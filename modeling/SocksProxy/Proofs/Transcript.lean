/-
  What a transcript says about the streams of a session.

  * `Transcript.taken` and `Transcript.read` are the bytes that streams took and gave;
  * `Transcript.failed` is what a stream was to take when it failed;
  * `Transcript.interest` is the interest that the poller holds for a socket.

  Most stretches of a transcript have calls of one kind only (`Transcript.All`), and the calls of one
  kind do not matter to what is said about another.
-/
import SocksProxy.Proofs.Logic

namespace SocksProxy

/-! ## Kinds of calls -/

/-- What a call does. -/
inductive Verb where
  /-- It does not matter to any stream. -/
  | aside
  | send (s : Socket)
  | receive (s : Socket)
  /-- It changes how the poller watches a socket. -/
  | register (s : Socket)
  | connect (s : Socket)
  | datagram (s : Socket)

/-- What a call does. -/
def SessionCall.verb : SessionCall → Verb
  | send s _ => .send s
  | receive s _ => .receive s
  | register s _ | reregister s _ | deregister s => .register s
  | connect s _ => .connect s
  | bindDatagram s _ | sendTo s _ _ | receiveFrom s _ => .datagram s
  | tune _ _ | localAddress _ | peerAddress _ | pendingError _ | shutdown _ | log _ _
  | notify _ => .aside

namespace Verb

/-- Whether it sends on a stream of the role. -/
def sends (role : Role) : Verb → Bool
  | send s => s.role = role
  | _ => false

/-- Whether it reads from a stream of the role. -/
def receives (role : Role) : Verb → Bool
  | receive s => s.role = role
  | _ => false

/-- Whether it changes how the poller watches the socket. -/
def registers (s : Socket) : Verb → Bool
  | register t => t = s
  | _ => false

end Verb

/-! ## Single calls -/

namespace SessionEvent

/-- The bytes that a stream of the role took. -/
def taken (role : Role) : SessionEvent → Bytes
  | ⟨.send s data, .ok n⟩ => if s.role = role then data.take n.val else []
  | _ => []

/-- What a stream of the role was to take when it failed: it broke, or took nothing. -/
def failed (role : Role) : SessionEvent → Option Bytes
  | ⟨.send s data, .ok n⟩ => if s.role = role ∧ n.val = 0 then some data else none
  | ⟨.send s data, .error e⟩ =>
    if s.role = role ∧ !e.isWouldBlock ∧ !e.isInterrupted then some data else none
  | _ => none

/-- The bytes that a stream of the role gave. -/
def read (role : Role) : SessionEvent → Bytes
  | ⟨.receive s _, .ok b⟩ => if s.role = role then b.val else []
  | _ => []

/-- Whether a read found that the peer has closed a stream of the role. -/
def isEnd (role : Role) : SessionEvent → Bool
  | ⟨.receive s _, .ok b⟩ => s.role = role ∧ b.val = []
  | _ => false

/-- Whether a read of the socket would have blocked. -/
def isDry (s : Socket) : SessionEvent → Bool
  | ⟨.receive t _, .error e⟩ => t = s ∧ e.isWouldBlock
  | _ => false

/-- Whether the poller was told to report what there is to read from the socket. -/
def isRearm (s : Socket) : SessionEvent → Bool
  | ⟨.register t i, .ok ()⟩ | ⟨.reregister t i, .ok ()⟩ => t = s ∧ i = .read
  | _ => false

/-- The interest that the poller holds for a socket after the call. -/
def interest (s : Socket) (before : Option Interest) : SessionEvent → Option Interest
  | ⟨.register t i, .ok ()⟩ | ⟨.reregister t i, .ok ()⟩ => if t = s then some i else before
  | ⟨.deregister t, .ok ()⟩ => if t = s then none else before
  | _ => before

variable {role : Role} {s : Socket} {e : SessionEvent}

theorem taken_of_verb (h : e.1.verb.sends role = false) : e.taken role = [] := by
  unfold taken
  split
  · simp_all [SessionCall.verb, Verb.sends]
  · rfl

theorem failed_of_verb (h : e.1.verb.sends role = false) : e.failed role = none := by
  unfold failed
  split <;> simp_all [SessionCall.verb, Verb.sends]

theorem read_of_verb (h : e.1.verb.receives role = false) : e.read role = [] := by
  unfold read
  split
  · simp_all [SessionCall.verb, Verb.receives]
  · rfl

theorem isEnd_of_verb (h : e.1.verb.receives role = false) : e.isEnd role = false := by
  unfold isEnd
  split <;> simp_all [SessionCall.verb, Verb.receives]

theorem interest_of_verb {i : Option Interest} (h : e.1.verb.registers s = false) :
    e.interest s i = i := by
  unfold interest
  split <;> simp_all [SessionCall.verb, Verb.registers]

end SessionEvent

/-! ## Whole transcripts -/

namespace Transcript

/-- Every call is of one of the kinds. -/
def All (p : Verb → Prop) (es : Transcript) : Prop :=
  ∀ e ∈ es, p e.1.verb

theorem all_nil {p : Verb → Prop} : All p [] :=
  List.forall_mem_nil _

theorem all_singleton {p : Verb → Prop} {e : SessionEvent} (h : p e.1.verb) : All p [e] := by
  intro e' he
  rw [List.mem_singleton.1 he]
  exact h

theorem All.cons {p : Verb → Prop} {e : SessionEvent} {es : Transcript} (h : p e.1.verb)
    (h' : All p es) : All p (e :: es) := by
  intro e' he
  rcases List.mem_cons.1 he with rfl | he
  · exact h
  · exact h' e' he

theorem All.append {p : Verb → Prop} {es es' : Transcript} (h : All p es) (h' : All p es') :
    All p (es ++ es') := by
  intro e he
  rcases List.mem_append.1 he with he | he
  · exact h e he
  · exact h' e he

theorem All.imp {p q : Verb → Prop} {es : Transcript} (h : All p es) (hpq : ∀ v, p v → q v) :
    All q es :=
  fun e he => hpq _ (h e he)

/-- The bytes that streams of the role took. -/
def taken (role : Role) (es : Transcript) : Bytes :=
  es.flatMap (SessionEvent.taken role)

/-- What a stream of the role was to take when it failed. -/
def failed (role : Role) (es : Transcript) : Option Bytes :=
  es.findSome? (SessionEvent.failed role)

/-- The bytes that streams of the role gave. -/
def read (role : Role) (es : Transcript) : Bytes :=
  es.flatMap (SessionEvent.read role)

/-- Whether a read found that the peer has closed a stream of the role. -/
def sawEnd (role : Role) (es : Transcript) : Bool :=
  es.any (SessionEvent.isEnd role)

/-- Whether a read of the socket would have blocked. -/
def dry (s : Socket) (es : Transcript) : Bool :=
  es.any (SessionEvent.isDry s)

/-- Whether the poller was told to report what there is to read from the socket. -/
def rearmed (s : Socket) (es : Transcript) : Bool :=
  es.any (SessionEvent.isRearm s)

/-- The interest that the poller holds for a socket after the calls. -/
def interest (s : Socket) (before : Option Interest) (es : Transcript) : Option Interest :=
  es.foldl (SessionEvent.interest s) before

variable {role : Role} {s : Socket} {es es' : Transcript} {i : Option Interest}

@[simp] theorem taken_nil : taken role [] = [] := rfl

theorem taken_cons {e : SessionEvent} : taken role (e :: es) = e.taken role ++ taken role es := rfl

@[simp] theorem taken_append : taken role (es ++ es') = taken role es ++ taken role es' :=
  List.flatMap_append

@[simp] theorem failed_nil : failed role [] = none := rfl

theorem failed_cons {e : SessionEvent} :
    failed role (e :: es) = (e.failed role).or (failed role es) := by
  unfold failed
  rw [List.findSome?_cons]
  cases e.failed role <;> rfl

@[simp] theorem failed_append :
    failed role (es ++ es') = (failed role es).or (failed role es') :=
  List.findSome?_append

@[simp] theorem read_nil : read role [] = [] := rfl

theorem read_cons {e : SessionEvent} : read role (e :: es) = e.read role ++ read role es := rfl

@[simp] theorem read_append : read role (es ++ es') = read role es ++ read role es' :=
  List.flatMap_append

@[simp] theorem sawEnd_nil : sawEnd role [] = false := rfl

theorem sawEnd_cons {e : SessionEvent} :
    sawEnd role (e :: es) = (e.isEnd role || sawEnd role es) := rfl

@[simp] theorem sawEnd_append : sawEnd role (es ++ es') = (sawEnd role es || sawEnd role es') :=
  List.any_append

@[simp] theorem dry_append : dry s (es ++ es') = (dry s es || dry s es') :=
  List.any_append

@[simp] theorem rearmed_append : rearmed s (es ++ es') = (rearmed s es || rearmed s es') :=
  List.any_append

@[simp] theorem interest_nil : interest s i [] = i := rfl

theorem interest_cons {e : SessionEvent} :
    interest s i (e :: es) = interest s (e.interest s i) es := rfl

@[simp] theorem interest_append : interest s i (es ++ es') = interest s (interest s i es) es' :=
  List.foldl_append

/-! ## Roles that a stretch leaves alone -/

/-- Nothing is sent on a stream of the role. -/
def Mute (role : Role) (es : Transcript) : Prop :=
  All (fun v => v.sends role = false) es

/-- Nothing is read from a stream of the role. -/
def Deaf (role : Role) (es : Transcript) : Prop :=
  All (fun v => v.receives role = false) es

theorem mute_nil : Mute role [] := all_nil

theorem deaf_nil : Deaf role [] := all_nil

theorem Mute.append (h : Mute role es) (h' : Mute role es') : Mute role (es ++ es') :=
  All.append h h'

theorem Deaf.append (h : Deaf role es) (h' : Deaf role es') : Deaf role (es ++ es') :=
  All.append h h'

theorem Mute.taken (h : Mute role es) : taken role es = [] :=
  List.flatMap_eq_nil_iff.2 fun e he => SessionEvent.taken_of_verb (h e he)

theorem Mute.failed (h : Mute role es) : failed role es = none :=
  List.findSome?_eq_none_iff.2 fun e he => SessionEvent.failed_of_verb (h e he)

theorem Deaf.read (h : Deaf role es) : read role es = [] :=
  List.flatMap_eq_nil_iff.2 fun e he => SessionEvent.read_of_verb (h e he)

theorem Deaf.sawEnd (h : Deaf role es) : sawEnd role es = false :=
  List.any_eq_false.2 fun e he => by simp [SessionEvent.isEnd_of_verb (h e he)]

theorem mute_of_aside (h : All (· = .aside) es) : Mute role es :=
  h.imp fun v hv => by rw [hv]; rfl

theorem deaf_of_aside (h : All (· = .aside) es) : Deaf role es :=
  h.imp fun v hv => by rw [hv]; rfl

theorem interest_of_all (h : All (fun v => v.registers s = false) es) : interest s i es = i := by
  induction es with
  | nil => rfl
  | cons e es ih =>
    rw [interest_cons, SessionEvent.interest_of_verb (h e List.mem_cons_self)]
    exact ih fun e' he => h e' (List.mem_cons_of_mem e he)

/-! ## What streams are asked to take -/

/-- A place in a sequence is in its first part or in its second. -/
theorem append_split {e : SessionEvent} {es₁ es₂ : Transcript} (h : es ++ es' = es₁ ++ e :: es₂) :
    (∃ rest, es = es₁ ++ e :: rest) ∨ ∃ front, es₁ = es ++ front ∧ es' = front ++ e :: es₂ := by
  rcases List.append_eq_append_iff.1 h with ⟨front, rfl, h'⟩ | ⟨rest, rfl, h'⟩
  · exact .inr ⟨front, rfl, h'⟩
  · cases rest with
    | nil => exact .inr ⟨[], by simp, h'.symm⟩
    | cons x rest =>
      obtain ⟨rfl, -⟩ := List.cons.inj h'
      exact .inl ⟨rest, rfl⟩

/-- Whenever a stream of the role is asked to take bytes, they are all that was not taken yet of the
    bytes `all`. -/
def Asked (role : Role) (all : Bytes) (es : Transcript) : Prop :=
  ∀ es₁ e es₂, es = es₁ ++ e :: es₂ → ∀ socket data, e.1 = .send socket data →
    socket.role = role → taken role es₁ ++ data = all

theorem Mute.asked {all : Bytes} (h : Mute role es) : Asked role all es := by
  rintro es₁ e es₂ rfl socket data he hr
  have hv := h e (List.mem_append_right es₁ List.mem_cons_self)
  simp [he, SessionCall.verb, Verb.sends, hr] at hv

theorem Asked.append {all rest : Bytes} (h : Asked role all es) (h' : Asked role rest es')
    (ht : taken role es ++ rest = all) : Asked role all (es ++ es') := by
  intro es₁ e es₂ heq socket data he hr
  rcases append_split heq with ⟨tail, hes⟩ | ⟨front, rfl, hes⟩
  · exact h es₁ e tail hes socket data he hr
  · rw [taken_append, List.append_assoc, h' front e es₂ hes socket data he hr, ht]

/-- The bytes are asked to be taken, and then what was not taken of them. -/
theorem Asked.cons {s : Socket} {data rest : Bytes} {a : SessionCall.Answer (.send s data)}
    (h : Asked s.role rest es)
    (ht : SessionEvent.taken s.role ⟨.send s data, a⟩ ++ rest = data) :
    Asked s.role data (⟨.send s data, a⟩ :: es) := by
  intro es₁ e es₂ heq socket data' he hr
  cases es₁ with
  | nil =>
    obtain ⟨rfl, -⟩ := List.cons.inj heq
    cases he
    rfl
  | cons x es₁ =>
    obtain ⟨rfl, hes⟩ := List.cons.inj heq
    rw [taken_cons, List.append_assoc, h es₁ e es₂ hes socket data' he hr, ht]

end Transcript

end SocksProxy
