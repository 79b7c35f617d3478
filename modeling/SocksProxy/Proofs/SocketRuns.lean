/-
  The runs of the operations that open and close sockets, and of those on datagram sockets.

  They neither send nor read on a stream. `openStream_cases` says how a new stream is watched, and
  `peerOf_some` that an attempt has succeeded only when its socket has a peer.
-/
import SocksProxy.Proofs.StreamRuns
import SocksProxy.Session.Connect

namespace SocksProxy

open Dialogue

namespace Verb

/-- Opening, closing and watching a stream, and what does not matter to any. -/
def IsSetup (s : Socket) (v : Verb) : Prop :=
  v = .aside ∨ v = .connect s ∨ v = .register s

/-- Work on datagram sockets, and what does not matter to any stream. -/
def IsOffStream : Verb → Prop
  | aside | datagram _ => True
  | register s => s.role ≠ .client
  | _ => False

variable {v : Verb} {role : Role} {s t : Socket}

theorem IsSetup.receives (h : v.IsSetup s) : v.receives role = false := by
  rcases h with rfl | rfl | rfl <;> rfl

theorem IsSetup.sends (h : v.IsSetup s) : v.sends role = false := by
  rcases h with rfl | rfl | rfl <;> rfl

theorem IsSetup.registers (h : v.IsSetup s) (hs : s ≠ t) : v.registers t = false := by
  rcases h with rfl | rfl | rfl
  · rfl
  · rfl
  · simp [Verb.registers, hs]

theorem IsOffStream.receives (h : v.IsOffStream) : v.receives role = false := by
  cases v <;> first | rfl | exact h.elim

theorem IsOffStream.sends (h : v.IsOffStream) : v.sends role = false := by
  cases v <;> first | rfl | exact h.elim

theorem IsOffStream.registers (h : v.IsOffStream) (hs : s.role = .client) :
    v.registers s = false := by
  cases v with
  | register t =>
    have hne : t ≠ s := fun he => h (he ▸ hs)
    simp [Verb.registers, hne]
  | aside | datagram => rfl
  | send | receive | connect => exact h.elim

end Verb

namespace Transcript

variable {es : Transcript} {role : Role} {s : Socket}

theorem mute_of_setup (h : All (Verb.IsSetup s) es) : Mute role es :=
  h.imp fun _ hv => hv.sends

theorem deaf_of_setup (h : All (Verb.IsSetup s) es) : Deaf role es :=
  h.imp fun _ hv => hv.receives

theorem mute_of_offStream (h : All Verb.IsOffStream es) : Mute role es :=
  h.imp fun _ hv => hv.sends

theorem deaf_of_offStream (h : All Verb.IsOffStream es) : Deaf role es :=
  h.imp fun _ hv => hv.receives

end Transcript

namespace Talk

variable {turns : Nat} {s : Socket} {es : Transcript}

/-! ## Streams -/

theorem tune_all {switches : List TcpSwitch} {r : Except IoError Unit}
    (h : Run (tune s switches) es r) : Transcript.All (· = .aside) es := by
  induction switches generalizing es with
  | nil =>
    obtain ⟨rfl, -⟩ := run_done_iff.1 h
    exact Transcript.all_nil
  | cons switch rest ih =>
    obtain ⟨(a : Except IoError Unit), es', rfl, h'⟩ := run_ask_iff.1 h
    cases a with
    | ok _ => exact (ih h').cons rfl
    | error e =>
      obtain ⟨rfl, -⟩ := run_done_iff.1 h'
      exact Transcript.all_singleton rfl

theorem deregister_all {u : Unit} (h : Run (deregister s) es u) :
    Transcript.All (fun v => v = .aside ∨ v = .register s) es := by
  obtain ⟨(a : Except IoError Unit), es', rfl, h'⟩ := run_ask_iff.1 h
  cases a with
  | ok _ =>
    obtain ⟨rfl, -⟩ := run_done_iff.1 h'
    exact Transcript.all_singleton (.inr rfl)
  | error e =>
    obtain rfl := Handler.run_log_iff.1 h'
    exact (Transcript.all_singleton (.inl rfl)).cons (.inr rfl)

theorem close_all {stream : Stream} {u : Unit} (h : Run stream.close es u) :
    Transcript.All (fun v => v = .aside ∨ v = .register stream.socket) es := by
  simp only [Stream.close] at h
  obtain ⟨es₁, es₂, _, rfl, h₁, h₂⟩ := run_monad_bind_iff.1 h
  obtain ⟨es₃, es₄, _, rfl, h₃, h₄⟩ := run_monad_bind_iff.1 h₂
  obtain rfl := run_call_iff.1 h₃
  obtain ⟨rfl, -⟩ := run_pure_iff.1 h₄
  exact (deregister_all h₁).append (Transcript.all_singleton (.inl rfl))

/-- A stream that was opened is new and registered for writing. -/
theorem openStream_cases {target : Endpoint} {options : TcpOptions} {r : Except IoError Stream}
    (h : Run (openStream s target options) es r) :
    Transcript.All (Verb.IsSetup s) es ∧ ∀ stream, r = .ok stream →
      stream = Stream.new s .write ∧ ∀ i, Transcript.interest s i es = some .write := by
  obtain ⟨(a : Except IoError Unit), es', rfl, h'⟩ := run_ask_iff.1 h
  cases a with
  | error e =>
    obtain ⟨rfl, rfl⟩ := run_done_iff.1 h'
    exact ⟨Transcript.all_singleton (.inr (.inl rfl)), nofun⟩
  | ok _ =>
    obtain ⟨es₁, es₂, b, rfl, h₁, h₂⟩ := run_monad_bind_iff.1 h'
    have htune := tune_all h₁
    have hfront : Transcript.All (Verb.IsSetup s)
        (⟨.connect s target, (.ok () : Except IoError Unit)⟩ :: es₁) :=
      (htune.imp fun v hv => .inl hv).cons (.inr (.inl rfl))
    rw [← List.cons_append]
    cases b with
    | error e =>
      obtain ⟨rfl, rfl⟩ := run_pure_iff.1 h₂
      exact ⟨hfront.append Transcript.all_nil, nofun⟩
    | ok _ =>
      obtain ⟨es₃, es₄, c, rfl, h₃, h₄⟩ := run_monad_bind_iff.1 h₂
      obtain rfl := run_call_iff.1 h₃
      cases c with
      | ok _ =>
        obtain ⟨rfl, rfl⟩ := run_pure_iff.1 h₄
        refine ⟨hfront.append (Transcript.all_singleton (.inr (.inr rfl))), ?_⟩
        rintro stream ⟨⟩
        refine ⟨rfl, fun i => ?_⟩
        rw [Transcript.interest_append, List.append_nil, Transcript.interest_cons]
        simp [SessionEvent.interest, Stream.new]
      | error e =>
        obtain ⟨es₅, es₆, _, rfl, h₅, h₆⟩ := run_monad_bind_iff.1 h₄
        obtain ⟨rfl, rfl⟩ := run_pure_iff.1 h₆
        have hclose : Transcript.All (Verb.IsSetup s) es₅ :=
          (close_all h₅).imp fun v hv => hv.imp_right .inr
        exact ⟨hfront.append ((hclose.append Transcript.all_nil).cons (.inr (.inr rfl))), nofun⟩

theorem peerOf_all {stream : Stream} {r : Except IoError (Option Endpoint)}
    (h : Run (peerOf stream) es r) : Transcript.All (· = .aside) es := by
  obtain ⟨(a : Except IoError (Option IoError)), es', rfl, h'⟩ := run_ask_iff.1 h
  rcases a with e | _ | e
  · obtain ⟨rfl, -⟩ := run_done_iff.1 h'
    exact Transcript.all_singleton rfl
  · obtain ⟨(b : Except IoError Endpoint), es', rfl, h''⟩ := run_ask_iff.1 h'
    cases b <;>
    · obtain ⟨rfl, -⟩ := run_done_iff.1 h''
      exact Transcript.All.cons rfl (Transcript.all_singleton rfl)
  · obtain ⟨rfl, -⟩ := run_done_iff.1 h'
    exact Transcript.all_singleton rfl

/-- An attempt has succeeded only when its socket has a peer. -/
theorem peerOf_some {stream : Stream} {peer : Endpoint}
    (h : Run (peerOf stream) es (.ok (some peer))) :
    ⟨.peerAddress stream.socket, (.ok peer : Except IoError Endpoint)⟩ ∈ es := by
  obtain ⟨(a : Except IoError (Option IoError)), es', rfl, h'⟩ := run_ask_iff.1 h
  rcases a with e | _ | e
  · nomatch (run_done_iff.1 h').2
  · obtain ⟨(b : Except IoError Endpoint), es', rfl, h''⟩ := run_ask_iff.1 h'
    cases b with
    | ok p =>
      obtain ⟨rfl, heq⟩ := run_done_iff.1 h''
      cases heq
      exact List.mem_cons_of_mem _ List.mem_cons_self
    | error e =>
      have heq := (run_done_iff.1 h'').2
      split at heq <;> nomatch heq
  · nomatch (run_done_iff.1 h').2

/-! ## Datagram sockets -/

theorem retry_all {α : Type} {p : Talk (Except IoError α)} {q : Verb → Prop}
    {r : Except IoError (Option α)}
    (hp : ∀ (es : Transcript) (r : Except IoError α), Run p es r → Transcript.All q es)
    (h : Run (retry p turns) es r) : Transcript.All q es := by
  induction turns generalizing es with
  | zero => exact absurd h not_run_stuck
  | succ turns ih =>
    simp only [retry] at h
    obtain ⟨es₁, es₂, a, rfl, h₁, h₂⟩ := run_monad_bind_iff.1 h
    refine (hp _ _ h₁).append ?_
    cases a with
    | ok a =>
      obtain ⟨rfl, -⟩ := run_pure_iff.1 h₂
      exact Transcript.all_nil
    | error e =>
      simp only at h₂
      by_cases hw : e.isWouldBlock = true
      · simp only [hw, if_true] at h₂
        obtain ⟨rfl, -⟩ := run_pure_iff.1 h₂
        exact Transcript.all_nil
      · by_cases hi : e.isInterrupted = true
        · simp only [hw, hi, if_true] at h₂
          exact ih h₂
        · simp only [hw, hi] at h₂
          obtain ⟨rfl, -⟩ := run_pure_iff.1 h₂
          exact Transcript.all_nil

/-- What comes of a call that is made again while it is interrupted, going by its last answer. -/
def settled {α : Type} : Except IoError α → Except IoError (Option α)
  | .ok b => .ok (some b)
  | .error e => if e.isWouldBlock then .ok none else .error e

/-- A call is made again while it is interrupted, and only then. -/
theorem retry_cases {α : Type} {p : Talk (Except IoError α)} {event : Except IoError α → SessionEvent}
    {r : Except IoError (Option α)} (hp : ∀ (es : Transcript) a, Run p es a → es = [event a])
    (h : Run (retry p turns) es r) :
    ∃ es₀ a, es = es₀ ++ [event a] ∧
      (∀ e ∈ es₀, ∃ error, e = event (.error error) ∧ error.isInterrupted = true) ∧
      (∀ error, a = .error error → error.isInterrupted = false) ∧ r = settled a := by
  induction turns generalizing es with
  | zero => exact absurd h not_run_stuck
  | succ turns ih =>
    simp only [retry] at h
    obtain ⟨es₁, es₂, a, rfl, h₁, h₂⟩ := run_monad_bind_iff.1 h
    obtain rfl := hp _ _ h₁
    cases a with
    | ok b =>
      obtain ⟨rfl, rfl⟩ := run_pure_iff.1 h₂
      exact ⟨[], .ok b, rfl, List.forall_mem_nil _, by simp, rfl⟩
    | error e =>
      simp only at h₂
      by_cases hw : e.isWouldBlock = true
      · simp only [hw, if_true] at h₂
        obtain ⟨rfl, rfl⟩ := run_pure_iff.1 h₂
        refine ⟨[], .error e, rfl, List.forall_mem_nil _, ?_, by simp [settled, hw]⟩
        rintro _ ⟨⟩
        simp only [IoError.isWouldBlock, beq_iff_eq] at hw
        simp [IoError.isInterrupted, hw]
      · by_cases hi : e.isInterrupted = true
        · simp only [hw, hi, if_true] at h₂
          obtain ⟨es₀, a, rfl, hes₀, ha, rfl⟩ := ih h₂
          exact ⟨event (.error e) :: es₀, a, rfl, List.forall_mem_cons.2 ⟨⟨e, rfl, hi⟩, hes₀⟩, ha, rfl⟩
        · simp only [hw, hi] at h₂
          obtain ⟨rfl, rfl⟩ := run_pure_iff.1 h₂
          refine ⟨[], .error e, rfl, List.forall_mem_nil _, ?_, by simp [settled, hw]⟩
          rintro _ ⟨⟩
          exact Bool.eq_false_iff.2 hi

/-- What is received was there, in the last call. -/
theorem receiveFrom_cases {max : Nat} {r : Except IoError (Option (Chunk max × Endpoint))}
    (h : Run (receiveFrom turns s max) es r) :
    (∀ e ∈ es, ∃ a, e = ⟨.receiveFrom s max, a⟩) ∧
      ∀ found, r = .ok (some found) →
        (⟨.receiveFrom s max, (.ok found : Except IoError _)⟩ : SessionEvent) ∈ es := by
  have hcall (es : Transcript) (a : Except IoError (Chunk max × Endpoint))
      (h : Run (call (I := SessionNet) (.receiveFrom s max)) es a) : es = [⟨.receiveFrom s max, a⟩] :=
    run_call_iff.1 h
  obtain ⟨es₀, a, rfl, hes₀, -, rfl⟩ := retry_cases hcall h
  refine ⟨List.forall_mem_append.2 ⟨fun e he => ?_, ?_⟩, fun found hfound => ?_⟩
  · obtain ⟨error, rfl, -⟩ := hes₀ e he
    exact ⟨_, rfl⟩
  · exact List.forall_mem_singleton.2 ⟨a, rfl⟩
  · cases a with
    | ok found' =>
      cases hfound
      exact List.mem_append_right _ List.mem_cons_self
    | error e =>
      rw [settled] at hfound
      split at hfound <;> cases hfound

/-- A datagram leaves with the last call, or not at all. -/
theorem sendTo_cases {data : Bytes} {dest : Endpoint} {r : Except IoError Bool}
    (h : Run (sendTo turns s data dest) es r) :
    ∃ es₀ a, es = es₀ ++ [⟨.sendTo s data dest, a⟩] ∧
      (∀ e ∈ es₀, ∃ error : IoError, e = ⟨.sendTo s data dest, (.error error : Except IoError _)⟩) ∧
      (r = .ok true ↔ a = .ok ()) := by
  simp only [sendTo] at h
  obtain ⟨es₁, es₂, b, rfl, h₁, h₂⟩ := run_monad_bind_iff.1 h
  have hcall (es : Transcript) (a : Except IoError Unit)
      (h : Run (call (I := SessionNet) (.sendTo s data dest)) es a) : es = [⟨.sendTo s data dest, a⟩] :=
    run_call_iff.1 h
  obtain ⟨es₀, a, rfl, hes₀, -, rfl⟩ := retry_cases hcall h₁
  refine ⟨es₀, a, ?_, fun e he => (hes₀ e he).imp fun _ h => h.1, ?_⟩
  · cases a with
    | ok _ =>
      obtain ⟨rfl, -⟩ := run_pure_iff.1 h₂
      exact List.append_nil _
    | error e =>
      by_cases hw : e.isWouldBlock = true <;> simp only [settled, hw] at h₂ <;>
      · obtain ⟨rfl, -⟩ := run_pure_iff.1 h₂
        exact List.append_nil _
  · cases a with
    | ok _ =>
      obtain ⟨-, rfl⟩ := run_pure_iff.1 h₂
      exact iff_of_true rfl rfl
    | error e =>
      refine iff_of_false (fun hr => ?_) nofun
      subst hr
      by_cases hw : e.isWouldBlock = true <;> simp only [settled, hw] at h₂
      · nomatch (run_pure_iff.1 h₂).2
      · nomatch (run_pure_iff.1 h₂).2

theorem receiveFrom_all {max : Nat} {r : Except IoError (Option (Chunk max × Endpoint))}
    (h : Run (receiveFrom turns s max) es r) : Transcript.All Verb.IsOffStream es := by
  refine retry_all (fun es₁ r₁ h₁ => ?_) h
  obtain rfl := run_call_iff.1 h₁
  exact Transcript.all_singleton trivial

theorem sendTo_all {data : Bytes} {dest : Endpoint} {r : Except IoError Bool}
    (h : Run (sendTo turns s data dest) es r) : Transcript.All Verb.IsOffStream es := by
  simp only [sendTo] at h
  obtain ⟨es₁, es₂, a, rfl, h₁, h₂⟩ := run_monad_bind_iff.1 h
  have hall : Transcript.All Verb.IsOffStream es₁ := by
    refine retry_all (fun es₃ r₃ h₃ => ?_) h₁
    obtain rfl := run_call_iff.1 h₃
    exact Transcript.all_singleton trivial
  cases a <;>
  · obtain ⟨rfl, -⟩ := run_pure_iff.1 h₂
    exact hall.append Transcript.all_nil

theorem openDatagram_all {addr : Endpoint} {r : Except IoError Unit} (hs : s.role ≠ .client)
    (h : Run (openDatagram s addr) es r) : Transcript.All Verb.IsOffStream es := by
  obtain ⟨(a : Except IoError Unit), es', rfl, h'⟩ := run_ask_iff.1 h
  cases a with
  | error e =>
    obtain ⟨rfl, -⟩ := run_done_iff.1 h'
    exact Transcript.all_singleton trivial
  | ok _ =>
    obtain ⟨(b : Except IoError Unit), es'', rfl, h''⟩ := run_ask_iff.1 h'
    obtain ⟨rfl, -⟩ := run_done_iff.1 h''
    exact Transcript.All.cons trivial (Transcript.all_singleton hs)

theorem deregister_offStream {u : Unit} (hs : s.role ≠ .client) (h : Run (deregister s) es u) :
    Transcript.All Verb.IsOffStream es :=
  (deregister_all h).imp fun v hv => by
    rcases hv with rfl | rfl
    · trivial
    · exact hs

theorem deregisterAll_offStream {sockets : List Socket} {u : Unit}
    (hs : ∀ s ∈ sockets, s.role ≠ .client) (h : Run (deregisterAll sockets) es u) :
    Transcript.All Verb.IsOffStream es := by
  induction sockets generalizing es with
  | nil =>
    obtain ⟨rfl, -⟩ := run_done_iff.1 h
    exact Transcript.all_nil
  | cons s rest ih =>
    obtain ⟨es₁, es₂, _, rfl, h₁, h₂⟩ := run_monad_bind_iff.1 h
    exact (deregister_offStream (hs s List.mem_cons_self) h₁).append
      (ih (fun t ht => hs t (List.mem_cons_of_mem s ht)) h₂)

end Talk

end SocksProxy
