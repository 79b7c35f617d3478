/-
  What a flush leaves to be written.

  A flush offers everything that is scheduled. If the writer fails, the schedule stays as it was, also if the
  writer has taken the front of it before. So the next flush begins with bytes that the writer has already.

  * `Schedule.repeated` are those bytes;
  * `Schedule.Leaves.accounted`: they are what the account of a flush is out by;
  * **`Schedule.flush_accounted`**, and `Schedule.broken_flush_repeats`, where they are two of four.
-/
import SocksProxy.Proofs.Schedules

namespace SocksProxy

namespace Schedule

open Dialogue

/-- What the writer has taken although it is still scheduled: what it took of a flush that has failed. -/
def repeated (ws : List Writer.Event) : Except IoError Flush → Bytes
  | .ok _ => []
  | .error _ => Writer.takenBy ws

section
variable {s s' : Schedule} {ws : List Writer.Event} {r : Except IoError Flush}

theorem Leaves.accounted (h : s.Leaves s.pending ws r s') :
    Writer.takenBy ws ++ s'.pending = repeated ws r ++ s.pending := by
  cases h with
  | offered ho =>
    obtain ⟨rest, hrest, hleft⟩ := ho.conserved
    rw [hleft _ rfl, hrest]
    rfl
  | failed => rfl

theorem Leaves.taken_begins (h : s.Leaves s.pending ws r s') : Writer.takenBy ws <+: s.pending := by
  cases h with
  | offered ho | failed ho =>
    obtain ⟨rest, hrest, -⟩ := ho.conserved
    exact ⟨rest, hrest⟩

theorem Leaves.drained_iff {f : Flush} (h : s.Leaves s.pending ws (.ok f) s') :
    f = .drained ↔ s'.pending = [] := by
  cases h with
  | offered => exact outcome_eq_drained

end

/-- **What a flush leaves.** What the writer takes of a flush is the front of what is scheduled. Together with
    what is scheduled then, it is what was scheduled before, and what the writer has taken of a flush that
    fails comes on top of that. So nothing goes out twice if and only if the flush succeeds, or the writer
    fails before it takes anything.

    The next flush that succeeds goes on where the writer stopped, behind the bytes that go out again. Every
    flush has a result if the writer does not interrupt it for ever. -/
theorem flush_accounted {turns : Nat} {s s' : Schedule} {ws : List Writer.Event} {r : Except IoError Flush}
    (h : Run (s.flush turns) ws (r, s')) :
    Writer.takenBy ws <+: s.pending ∧
    Writer.takenBy ws ++ s'.pending = repeated ws r ++ s.pending ∧
    (Writer.takenBy ws ++ s'.pending = s.pending ↔ (∃ f, r = .ok f) ∨ Writer.takenBy ws = []) ∧
    (∀ f, r = .ok f → (f = .drained ↔ s'.pending = [])) ∧
    (∀ turns' ws' f s'', Run (s'.flush turns') ws' (.ok f, s'') →
      Writer.takenBy ws ++ Writer.takenBy ws' ++ s''.pending = repeated ws r ++ s.pending) ∧
    ∀ turns' w, w.outcomes.length < turns' →
      ((s.flush turns').run Script.ScriptedWriter.answer w).1.isSome = true := by
  have hleaves := flush_run h
  have haccount := hleaves.accounted
  refine ⟨hleaves.taken_begins, haccount, ?_, ?_, ?_, fun turns' w hturns => flush_ends hturns⟩
  · rw [haccount, List.append_left_eq_self]
    cases r with
    | ok f => exact iff_of_true rfl (.inl ⟨f, rfl⟩)
    | error e => exact ⟨.inr, fun hx => hx.resolve_left nofun⟩
  · rintro f rfl
    exact hleaves.drained_iff
  · intro turns' ws' f s'' h'
    have hnext : Writer.takenBy ws' ++ s''.pending = s'.pending := (flush_run h').accounted
    rw [List.append_assoc, hnext, haccount]

/-- The writer takes two bytes of four and breaks. -/
theorem run_broken_flush : Run ((Schedule.mk [1, 2, 3, 4]).flush 9)
    [⟨[1, 2, 3, 4], .ok 2⟩, ⟨[3, 4], .error (.plain .brokenPipe)⟩]
    (.error (.plain .brokenPipe), ⟨[1, 2, 3, 4]⟩) :=
  .ask (.ask .done)

/-- Behind the two bytes all four go out when the schedule is flushed again. -/
theorem broken_flush_accounted :
    ∃ ws r s', Run ((Schedule.mk [1, 2, 3, 4]).flush 9) ws (r, s') ∧ Writer.takenBy ws = [1, 2] ∧
      ∀ turns' ws' f s'', Run (s'.flush turns') ws' (.ok f, s'') →
        Writer.takenBy ws ++ Writer.takenBy ws' ++ s''.pending = [1, 2, 1, 2, 3, 4] := by
  obtain ⟨-, -, -, -, hnext, -⟩ := flush_accounted run_broken_flush
  exact ⟨_, _, _, run_broken_flush, rfl, hnext⟩

/-- A flush that fails leaves bytes to be written that have gone out. -/
theorem broken_flush_repeats :
    ¬ ∀ turns (s s' : Schedule) ws r, Run (s.flush turns) ws (r, s') →
      Writer.takenBy ws ++ s'.pending = s.pending := by
  intro hclaim
  have haccount : ([1, 2, 1, 2, 3, 4] : Bytes) = [1, 2, 3, 4] := hclaim _ _ _ _ _ run_broken_flush
  exact absurd haccount (by decide)

end Schedule

end SocksProxy
