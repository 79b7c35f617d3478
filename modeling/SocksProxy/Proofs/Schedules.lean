/-
  Scheduled writes keep the stream of bytes.

  Bytes are pushed into a schedule or sent through it; they leave it when the writer takes them or when
  they are taken out. They leave in the order in which they came, each of them once.

  * `Schedule.Performs` lists what an operation can do, `Schedule.perform_run` says that there is nothing
    else;
  * `Schedule.Performs.conserved`: what leaves with an operation, and what is scheduled then, is what was
    scheduled before and what was given;
  * `Schedule.Ledger` is a sequence of operations that have succeeded, with everything that has left;
  * **`Schedule.stream_kept`**.
-/
import SocksProxy.Proofs.Offers
import SocksProxy.Script.Writes

namespace SocksProxy

namespace Schedule

open Dialogue

/-! ## Operations -/

/-- An operation on a schedule. -/
inductive Op where
  | push (data : Bytes)
  | send (data : Bytes)
  | flush
  | take

/-- What an operation gives to the schedule. -/
def Op.input : Op → Bytes
  | push data | send data => data
  | flush | take => []

/-- What an operation answers. -/
inductive Answer where
  | pushed
  | wrote (r : Except IoError Flush)
  | took (data : Bytes)

/-- Performs an operation. -/
def perform (turns : Nat) (s : Schedule) : Op → Dialogue Writer (Answer × Schedule)
  | .push data => return (.pushed, s.push data)
  | .send data => do
    let (r, s) ← s.send turns data
    return (.wrote r, s)
  | .flush => do
    let (r, s) ← s.flush turns
    return (.wrote r, s)
  | .take => return (.took s.take.1, s.take.2)

/-- What an operation does to a schedule, with the answers of the writer. -/
inductive Performs (s : Schedule) : Op → List Writer.Event → Answer → Schedule → Prop where
  | pushed {data : Bytes} : Performs s (.push data) [] .pushed ⟨s.pending ++ data⟩
  /-- What is sent behind scheduled bytes is not offered. -/
  | queued {data : Bytes} : s.pending ≠ [] →
      Performs s (.send data) [] (.wrote (.ok .pending)) ⟨s.pending ++ data⟩
  | sent {data rest : Bytes} {ws : List Writer.Event} : s.pending = [] →
      Offers data ws (.ok rest) → Performs s (.send data) ws (.wrote (.ok (outcome ⟨rest⟩))) ⟨rest⟩
  | unsent {data : Bytes} {e : IoError} {ws : List Writer.Event} : s.pending = [] →
      Offers data ws (.error e) → Performs s (.send data) ws (.wrote (.error e)) s
  | flushed {rest : Bytes} {ws : List Writer.Event} :
      Offers s.pending ws (.ok rest) → Performs s .flush ws (.wrote (.ok (outcome ⟨rest⟩))) ⟨rest⟩
  | unflushed {e : IoError} {ws : List Writer.Event} :
      Offers s.pending ws (.error e) → Performs s .flush ws (.wrote (.error e)) s
  | took : Performs s .take [] (.took s.pending) .empty

section
variable {turns : Nat} {s s' : Schedule} {op : Op} {ws : List Writer.Event} {a : Answer}

theorem perform_run (h : Run (s.perform turns op) ws (a, s')) : Performs s op ws a s' := by
  cases op with
  | push data =>
    obtain ⟨rfl, heq⟩ := run_pure_iff.1 h
    cases heq
    exact .pushed
  | send data =>
    obtain ⟨ws₁, ws₂, ⟨r, s₁⟩, rfl, h₁, h₂⟩ := run_monad_bind_iff.1 h
    obtain ⟨rfl, heq⟩ := run_pure_iff.1 h₂
    cases heq
    rw [List.append_nil]
    rcases send_run h₁ with ⟨hempty, ho | ho⟩ | ⟨hpending, rfl, rfl, rfl⟩
    · exact .sent hempty ho
    · exact .unsent hempty ho
    · exact .queued hpending
  | flush =>
    obtain ⟨ws₁, ws₂, ⟨r, s₁⟩, rfl, h₁, h₂⟩ := run_monad_bind_iff.1 h
    obtain ⟨rfl, heq⟩ := run_pure_iff.1 h₂
    cases heq
    rw [List.append_nil]
    rcases flush_run h₁ with ho | ho
    · exact .flushed ho
    · exact .unflushed ho
  | take =>
    obtain ⟨rfl, heq⟩ := run_pure_iff.1 h
    cases heq
    exact .took

end

/-! ## What leaves a schedule -/

/-- Bytes that have left a schedule: the writer has taken them, or they were taken out. -/
inductive Move where
  | written (data : Bytes)
  | taken (data : Bytes)

/-- The bytes that have left. -/
def Move.bytes : Move → Bytes
  | written data | taken data => data

/-- Those of them that the writer has taken. -/
def Move.toWriter : Move → Bytes
  | written data => data
  | taken _ => []

/-- What leaves with an operation: what the writer takes meanwhile, and what is taken out. -/
def Answer.moves (ws : List Writer.Event) : Answer → List Move
  | took data => [.written (Writer.takenBy ws), .taken data]
  | pushed | wrote _ => [.written (Writer.takenBy ws)]

/-- Whether the operation has failed. -/
def Answer.Failed (a : Answer) : Prop :=
  ∃ e, a = .wrote (.error e)

/-- What was given to the schedule. -/
def given (ops : List Op) : Bytes :=
  ops.flatMap Op.input

/-- What has left, in the order in which it left. -/
def left (moves : List Move) : Bytes :=
  moves.flatMap Move.bytes

/-- What the writer has taken, in the order in which it was taken. -/
def written (moves : List Move) : Bytes :=
  moves.flatMap Move.toWriter

/-- What was given without what was taken out of it, the moves being laid side by side along what was
    given. -/
def untaken : List Move → Bytes → Bytes
  | [], input => input
  | .written data :: moves, input => input.take data.length ++ untaken moves (input.drop data.length)
  | .taken data :: moves, input => untaken moves (input.drop data.length)

section
variable {moves moves' : List Move} {ops ops' : List Op} {rest : Bytes}

@[simp] theorem given_append : given (ops ++ ops') = given ops ++ given ops' :=
  List.flatMap_append

@[simp] theorem given_singleton {op : Op} : given [op] = op.input :=
  List.flatMap_singleton ..

@[simp] theorem left_append : left (moves ++ moves') = left moves ++ left moves' :=
  List.flatMap_append

/-- When what has left is the front of what was given, what was not taken out is what the writer has
    taken, and the rest. -/
theorem untaken_left : untaken moves (left moves ++ rest) = written moves ++ rest := by
  induction moves with
  | nil => rfl
  | cons move moves ih =>
    have hcons : left (move :: moves) ++ rest = move.bytes ++ (left moves ++ rest) :=
      List.append_assoc ..
    cases move with
    | written data =>
      rw [hcons, Move.bytes, untaken, List.take_left, List.drop_left, ih, ← List.append_assoc]
      rfl
    | taken data =>
      rw [hcons, Move.bytes, untaken, List.drop_left, ih]
      rfl

theorem written_begins_untaken {input : Bytes} (h : left moves <+: input) :
    written moves <+: untaken moves input := by
  obtain ⟨rest, rfl⟩ := h
  rw [untaken_left]
  exact List.prefix_append _ _

end

section
variable {s s' : Schedule} {op : Op} {ws : List Writer.Event} {a : Answer}

/-- What leaves with an operation is the front of what was scheduled and given, and the rest of it is
    scheduled if the operation succeeds. -/
theorem Performs.conserved (h : Performs s op ws a s') :
    ∃ rest, left (a.moves ws) ++ rest = s.pending ++ op.input ∧ (¬ a.Failed → s'.pending = rest) := by
  have hwrote {r : Except IoError Flush} : left (Answer.moves ws (.wrote r)) = Writer.takenBy ws :=
    List.flatMap_singleton ..
  cases h with
  | pushed | queued => exact ⟨_, rfl, fun _ => rfl⟩
  | sent hempty h =>
    obtain ⟨rest, hrest, hleft⟩ := h.conserved
    refine ⟨rest, ?_, fun _ => hleft _ rfl⟩
    rw [hwrote, hrest, hempty]
    rfl
  | unsent hempty h =>
    obtain ⟨rest, hrest, -⟩ := h.conserved
    refine ⟨rest, ?_, fun hok => absurd ⟨_, rfl⟩ hok⟩
    rw [hwrote, hrest, hempty]
    rfl
  | flushed h =>
    obtain ⟨rest, hrest, hleft⟩ := h.conserved
    refine ⟨rest, ?_, fun _ => hleft _ rfl⟩
    rw [hwrote, hrest]
    exact (List.append_nil _).symm
  | unflushed h =>
    obtain ⟨rest, hrest, -⟩ := h.conserved
    refine ⟨rest, ?_, fun hok => absurd ⟨_, rfl⟩ hok⟩
    rw [hwrote, hrest]
    exact (List.append_nil _).symm
  | took =>
    refine ⟨[], ?_, fun _ => rfl⟩
    simp [left, Answer.moves, Move.bytes, Op.input]

/-- A send or a flush says whether anything is scheduled behind it. -/
theorem Performs.drained_iff {f : Flush} (h : Performs s op ws (.wrote (.ok f)) s') :
    f = .drained ↔ s'.pending = [] := by
  cases h with
  | queued hpending => exact iff_of_false nofun fun h => hpending (List.append_eq_nil_iff.1 h).1
  | sent | flushed => exact outcome_eq_drained

/-- A send behind scheduled bytes writes nothing. -/
theorem Performs.silent {data : Bytes} (h : Performs s (.send data) ws a s') (hp : s.pending ≠ []) :
    ws = [] := by
  cases h with
  | queued => rfl
  | sent hempty | unsent hempty => exact absurd hempty hp

end

/-! ## Sequences of operations -/

/-- Operations that have succeeded one after the other on a schedule that was empty at first, with what
    has left the schedule meanwhile. -/
inductive Ledger : List Op → List Move → Schedule → Prop where
  | start : Ledger [] [] .empty
  | next {ops : List Op} {moves : List Move} {s s' : Schedule} {turns : Nat} {op : Op}
      {ws : List Writer.Event} {a : Answer} :
      Ledger ops moves s → Run (s.perform turns op) ws (a, s') → ¬ a.Failed →
      Ledger (ops ++ [op]) (moves ++ a.moves ws) s'

section
variable {ops : List Op} {moves : List Move} {s s' : Schedule}

theorem Ledger.conserved (h : Ledger ops moves s) : left moves ++ s.pending = given ops := by
  induction h with
  | start => rfl
  | @next ops moves s s' turns op ws a _ hrun hok ih =>
    obtain ⟨rest, hrest, hpending⟩ := (perform_run hrun).conserved
    calc left (moves ++ a.moves ws) ++ s'.pending
        = left moves ++ (left (a.moves ws) ++ rest) := by
          rw [left_append, List.append_assoc, hpending hok]
      _ = left moves ++ s.pending ++ op.input := by rw [hrest, List.append_assoc]
      _ = given (ops ++ [op]) := by rw [ih, given_append, given_singleton]

/-- With one more operation, also one that fails, what has left is still the front of what was given. -/
theorem Ledger.left_begins {op : Op} {ws : List Writer.Event} {a : Answer} (h : Ledger ops moves s)
    (hp : Performs s op ws a s') : left (moves ++ a.moves ws) <+: given (ops ++ [op]) := by
  obtain ⟨rest, hrest, -⟩ := hp.conserved
  refine ⟨rest, ?_⟩
  rw [left_append, List.append_assoc, hrest, ← List.append_assoc, h.conserved, given_append,
    given_singleton]

end

/-! ## Results -/

section
variable {α β : Type} {turns : Nat}

/-- The dialogue comes to a result with the writer. -/
def Ends (p : Dialogue Writer α) (w : Script.ScriptedWriter) : Prop :=
  (p.run Script.ScriptedWriter.answer w).1.isSome = true

theorem ends_pure {a : α} {w : Script.ScriptedWriter} : Ends (pure a) w :=
  rfl

theorem Ends.bind {p : Dialogue Writer α} {f : α → Dialogue Writer β} {w : Script.ScriptedWriter}
    (hp : Ends p w) (hf : ∀ a w, Ends (f a) w) : Ends (p >>= f) w := by
  induction p generalizing w with
  | done a => exact hf a w
  | ask c next ih => exact ih _ hp
  | stuck => nomatch hp

/-- A writer can keep an offer from ending only by what it was told to do. -/
theorem offer_ends {data : Bytes} {w : Script.ScriptedWriter} (h : w.outcomes.length < turns) :
    Ends (offer turns data) w := by
  induction turns generalizing data w with
  | zero => cases h
  | succ turns ih =>
    cases data with
    | nil => exact ends_pure
    | cons b data =>
      -- Behind a call that does not end the offer there is one thing less that the writer was told.
      have hbehind {left : Bytes} {outcome : Script.WriteOutcome}
          {outcomes : List Script.WriteOutcome} {writes : List Script.Write}
          (h : (outcome :: outcomes).length < turns + 1) : Ends (offer turns left) ⟨outcomes, writes⟩ :=
        ih (Nat.lt_of_succ_lt_succ h)
      obtain ⟨outcomes, writes⟩ := w
      rcases outcomes with _ | ⟨n | e, outcomes⟩
      · show Ends (if (b :: data).length = 0 then _ else offer turns ((b :: data).drop (b :: data).length)) _
        rw [if_neg nofun, List.drop_length]
        cases turns <;> exact ends_pure
      · show Ends (if min n (b :: data).length = 0 then _ else _) _
        split
        · exact ends_pure
        · exact hbehind h
      · show Ends (if e.isWouldBlock then _ else if e.isInterrupted then _ else _) _
        split
        · exact ends_pure
        · split
          · exact hbehind h
          · exact ends_pure

theorem flush_ends {s : Schedule} {w : Script.ScriptedWriter} (h : w.outcomes.length < turns) :
    Ends (s.flush turns) w :=
  (offer_ends h).bind fun x _ => by cases x <;> exact ends_pure

theorem perform_ends {s : Schedule} {op : Op} {w : Script.ScriptedWriter}
    (h : w.outcomes.length < turns) : Ends (s.perform turns op) w := by
  cases op with
  | push | take => exact ends_pure
  | send data =>
    refine Ends.bind ?_ fun _ _ => ends_pure
    rw [send]
    split
    · refine (offer_ends h).bind fun x _ => ?_
      cases x <;> exact ends_pure
    · exact ends_pure
  | flush => exact (flush_ends h).bind fun _ _ => ends_pure

end

/-! ## The stream of bytes -/

/-- **Scheduled writes keep the stream of bytes.** Behind operations that have succeeded, what has left
    the schedule and what is scheduled are together what was given to it, in order.

    Whatever the writer does with one more operation, a send or a flush says that nothing is scheduled
    exactly if so it is, a send behind scheduled bytes writes nothing, and what the writer has taken until
    then is the front of what was given and not taken out, also if the operation fails. The operation has
    a result if the writer does not interrupt it for ever. -/
theorem stream_kept {ops : List Op} {moves : List Move} {s : Schedule} (h : Ledger ops moves s) :
    left moves ++ s.pending = given ops ∧
    (∀ turns op ws a s', Run (s.perform turns op) ws (a, s') →
      (∀ f, a = .wrote (.ok f) → (f = .drained ↔ s'.pending = [])) ∧
      (∀ data, op = .send data → s.pending ≠ [] → ws = []) ∧
      written (moves ++ a.moves ws) <+: untaken (moves ++ a.moves ws) (given (ops ++ [op]))) ∧
    ∀ turns op w, w.outcomes.length < turns →
      ((s.perform turns op).run Script.ScriptedWriter.answer w).1.isSome = true := by
  refine ⟨h.conserved, fun turns op ws a s' hrun => ?_, fun turns op w hturns => perform_ends hturns⟩
  have hp := perform_run hrun
  refine ⟨?_, ?_, written_begins_untaken (h.left_begins hp)⟩
  · rintro f rfl
    exact hp.drained_iff
  · rintro data rfl hpending
    exact hp.silent hpending

/-- Two bytes are pushed and one of them is flushed, a third is sent behind the other, both are taken out,
    and then the writer takes one byte of two and breaks. -/
theorem stream_kept_until_broken :
    ∃ moves ws a s', Ledger [.push [1, 2], .flush, .send [3], .take] moves empty ∧
      Run (empty.perform 9 (.send [4, 5])) ws (a, s') ∧ a.Failed ∧ left moves = [1, 2, 3] ∧
      written (moves ++ a.moves ws) = [1, 4] ∧
      untaken (moves ++ a.moves ws) [1, 2, 3, 4, 5] = [1, 4, 5] ∧ ([1, 4] : Bytes) <+: [1, 4, 5] := by
  have hpush : Run (empty.perform 9 (.push [1, 2])) [] (.pushed, ⟨[1, 2]⟩) := .done
  have hflush : Run ((Schedule.mk [1, 2]).perform 9 .flush)
      [⟨[1, 2], .ok 1⟩, ⟨[2], .error (.plain .wouldBlock)⟩] (.wrote (.ok .pending), ⟨[2]⟩) :=
    .ask (.ask .done)
  have hsend : Run ((Schedule.mk [2]).perform 9 (.send [3])) [] (.wrote (.ok .pending), ⟨[2, 3]⟩) :=
    .done
  have htake : Run ((Schedule.mk [2, 3]).perform 9 .take) [] (.took [2, 3], empty) := .done
  have hbroken : Run (empty.perform 9 (.send [4, 5]))
      [⟨[4, 5], .ok 1⟩, ⟨[5], .error (.plain .brokenPipe)⟩]
      (.wrote (.error (.plain .brokenPipe)), empty) := .ask (.ask .done)
  have hledger : Ledger [.push [1, 2], .flush, .send [3], .take]
      [.written [], .written [1], .written [], .written [], .taken [2, 3]] empty :=
    .next (.next (.next (.next .start hpush nofun) hflush nofun) hsend nofun) htake nofun
  obtain ⟨hkept, hnext, -⟩ := stream_kept hledger
  obtain ⟨-, -, hfront⟩ := hnext _ _ _ _ _ hbroken
  exact ⟨_, _, _, _, hledger, hbroken, ⟨_, rfl⟩, (List.append_nil _).symm.trans hkept, rfl, rfl, hfront⟩

end Schedule

end SocksProxy
