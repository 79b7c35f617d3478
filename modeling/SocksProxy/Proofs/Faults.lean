/-
  Sockets that do not serve.

  * `SessionEvent.fails`: a call on a socket of a role has failed for good, or has found that the peer
    is gone;
  * `Transcript.Fails`: one of the calls has. An operation on a stream that fails says so
    (`Stream.receive_fails`, `flush_fails`, `resume_fails`), and so does a datagram socket that cannot
    be opened (`Talk.openDatagram_fails`).
-/
import SocksProxy.Proofs.SocketRuns

namespace SocksProxy

open Dialogue

/-! ## Failures -/

/-- The call shows that a socket of the role does not serve: it could not be bound, watched for what
    there is to read, asked for its address, read or written to, or its peer is gone. Attempts to
    connect do not count. -/
def SessionEvent.fails (role : Role) : SessionEvent → Bool
  | ⟨.bindDatagram s _, .error _⟩ | ⟨.register s .read, .error _⟩ | ⟨.reregister s _, .error _⟩
  | ⟨.localAddress s, .error _⟩ => s.role = role
  | ⟨.receive s _, .error e⟩ => s.role = role ∧ !e.isWouldBlock ∧ !e.isInterrupted
  | ⟨.receive s _, .ok b⟩ => s.role = role ∧ b.val = []
  | e => (e.failed role).isSome

namespace Transcript

/-- A socket of the role does not serve. -/
def Fails (role : Role) (es : Transcript) : Prop :=
  ∃ e ∈ es, e.fails role = true

instance {role : Role} {es : Transcript} : Decidable (Fails role es) :=
  inferInstanceAs (Decidable (∃ e ∈ es, e.fails role = true))

variable {role : Role} {es es' : Transcript}

theorem Fails.left (h : Fails role es) : Fails role (es ++ es') := by
  obtain ⟨e, he, hf⟩ := h
  exact ⟨e, List.mem_append_left _ he, hf⟩

theorem Fails.right (h : Fails role es') : Fails role (es ++ es') := by
  obtain ⟨e, he, hf⟩ := h
  exact ⟨e, List.mem_append_right _ he, hf⟩

theorem fails_singleton {e : SessionEvent} (h : e.fails role = true) : Fails role [e] :=
  ⟨e, List.mem_singleton_self e, h⟩

/-- A stream that was to take bytes when it failed does not serve. -/
theorem fails_of_failed {data : Bytes} (h : failed role es = some data) : Fails role es := by
  obtain ⟨e, he, hf⟩ := List.exists_of_findSome?_eq_some h
  refine ⟨e, he, ?_⟩
  unfold SessionEvent.fails
  split <;> simp_all [SessionEvent.failed]

end Transcript

namespace Talk

variable {turns : Nat} {s : Socket} {es : Transcript} {e : IoError}

/-- A call that is made again while it is interrupted fails with an error that is no interruption. -/
theorem retry_fails {α : Type} {p : Talk (Except IoError α)} {event : Except IoError α → SessionEvent}
    (hp : ∀ (es : Transcript) a, Run p es a → es = [event a]) (h : Run (retry p turns) es (.error e)) :
    event (.error e) ∈ es ∧ e.isWouldBlock = false ∧ e.isInterrupted = false := by
  induction turns generalizing es with
  | zero => exact absurd h not_run_stuck
  | succ turns ih =>
    simp only [retry] at h
    obtain ⟨es₁, es₂, a, rfl, h₁, h₂⟩ := run_monad_bind_iff.1 h
    obtain rfl := hp _ _ h₁
    cases a with
    | ok b => cases (run_pure_iff.1 h₂).2
    | error e' =>
      simp only at h₂
      by_cases hw : e'.isWouldBlock = true
      · simp only [hw, if_true] at h₂
        cases (run_pure_iff.1 h₂).2
      · by_cases hi : e'.isInterrupted = true
        · simp only [hw, hi, if_true] at h₂
          obtain ⟨hmem, hrest⟩ := ih h₂
          exact ⟨List.mem_append_right _ hmem, hrest⟩
        · simp only [hw, hi] at h₂
          cases (run_pure_iff.1 h₂).2
          exact ⟨List.mem_append_left _ (List.mem_singleton_self _), by simpa using hw,
            by simpa using hi⟩

theorem openDatagram_fails {addr : Endpoint} (h : Run (openDatagram s addr) es (.error e)) :
    es.Fails s.role := by
  obtain ⟨(a : Except IoError Unit), es', rfl, h'⟩ := run_ask_iff.1 h
  cases a with
  | error e' => exact ⟨_, List.mem_cons_self, decide_eq_true rfl⟩
  | ok _ =>
    obtain rfl := run_call_iff.1 h'
    exact ⟨_, List.mem_cons_of_mem _ List.mem_cons_self, decide_eq_true rfl⟩

end Talk

/-! ## Streams -/

namespace Stream

variable {turns : Nat} {s s' : Stream} {es : Transcript} {e : IoError}

theorem receive_fails {r : Except IoError Received} (h : Run (s.receive turns) es r)
    (hr : r = .ok .closed ∨ ∃ e, r = .error e) : es.Fails s.socket.role := by
  rcases hr with rfl | ⟨e, rfl⟩
  · obtain ⟨es₀, a, rfl, -, hr⟩ := receive_cases h
    refine Transcript.Fails.right (Transcript.fails_singleton ?_)
    rcases a with e | ⟨_ | ⟨x, rest⟩, hb⟩
    · simp only [found] at hr
      split at hr <;> cases hr
    · exact decide_eq_true ⟨rfl, rfl⟩
    · simp [found] at hr
  · simp only [receive] at h
    obtain ⟨es₁, es₂, x, rfl, h₁, h₂⟩ := run_monad_bind_iff.1 h
    have hcall (es : Transcript) (a : Except IoError (Chunk bufferSize))
        (h : Run (call (I := SessionNet) (.receive s.socket bufferSize)) es a) :
        es = [⟨.receive s.socket bufferSize, a⟩] :=
      run_call_iff.1 h
    rcases x with e' | _ | ⟨_ | ⟨b, bs⟩, hb⟩
    · obtain ⟨hmem, hw, hi⟩ := Talk.retry_fails hcall h₁
      exact Transcript.Fails.left ⟨_, hmem, by simp [SessionEvent.fails, hw, hi]⟩
    · cases (run_pure_iff.1 h₂).2
    · cases (run_pure_iff.1 h₂).2
    · cases (run_pure_iff.1 h₂).2

theorem fails_of_offers {socket : Socket} {data : Bytes} {ws : List Writer.Event}
    (h : Schedule.Offers data ws (.error e)) :
    Transcript.Fails socket.role (ws.map (SessionEvent.onStream socket)) := by
  obtain ⟨rest, -, ⟨he, -⟩ | ⟨-, hf⟩⟩ := (offered_of_offers socket h).result
  · cases he
  · exact Transcript.fails_of_failed hf

theorem flush_fails (h : Run (s.flush turns) es (.error e, s')) : es.Fails s.socket.role := by
  obtain ⟨ws, outbound, rfl, rfl, hrun⟩ := flush_run h
  cases Schedule.flush_run hrun with
  | failed hoffers => exact fails_of_offers hoffers

theorem resume_fails (h : Run s.resume es (.error e, s')) : es.Fails s.socket.role := by
  obtain ⟨(a : Except IoError Unit), es', rfl, h'⟩ := run_ask_iff.1 h
  cases a with
  | ok _ => nomatch (run_done_iff.1 h').2
  | error e' =>
    obtain ⟨rfl, -⟩ := run_done_iff.1 h'
    exact Transcript.fails_singleton (decide_eq_true rfl)

theorem Starts.fails (h : s.Starts turns es (.error e) s') : es.Fails s.socket.role := by
  cases h with
  | refused h => exact flush_fails h
  | resumed h₁ h₂ =>
    rw [← (flush_cases h₁).1.socket]
    exact Transcript.Fails.right (resume_fails h₂)

end Stream

end SocksProxy
