/-
  What becomes of an offer.

  Bytes are offered until the writer has taken them, would block or fails. How many turns that may take is
  of no matter once there is a result.

  * `Schedule.Offers` lists how an offer can go on, `Schedule.offer_run` says that there is nothing else;
  * `run_via_send`: an offer to a stream is an offer to a writer;
  * `Schedule.Offers.conserved`: what was taken and what is left make up what was offered;
  * `Schedule.Leaves`: how an offer leaves a schedule, which is all that `Schedule.send_run` and
    `Schedule.flush_run` have to say of a send and of a flush.
-/
import SocksProxy.Proofs.Logic

namespace SocksProxy

open Dialogue

/-! ## Calls of a writer -/

namespace Writer

/-- The bytes that the writer takes with a call. -/
def taken : Writer.Event → Bytes
  | ⟨data, .ok n⟩ => data.take n.val
  | ⟨_, .error _⟩ => []

/-- The bytes that the writer takes with the calls. -/
def takenBy (ws : List Writer.Event) : Bytes :=
  ws.flatMap taken

@[simp] theorem takenBy_nil : takenBy [] = [] := rfl

@[simp] theorem takenBy_cons {w : Writer.Event} {ws : List Writer.Event} :
    takenBy (w :: ws) = taken w ++ takenBy ws :=
  List.flatMap_cons

end Writer

/-- A call of a writer, as a call of a session. -/
def SessionEvent.onStream (socket : Socket) (w : Writer.Event) : SessionEvent :=
  ⟨.send socket w.1, w.2⟩

/-- What is written to a stream is written to a writer. -/
theorem run_via_send {α : Type} {socket : Socket} {p : Dialogue Writer α} {es : Transcript} {a : α}
    (h : Run (p.via (Stream.sendRoute socket)) es a) :
    ∃ ws : List Writer.Event, Run p ws a ∧ es = ws.map (SessionEvent.onStream socket) := by
  induction p generalizing es with
  | done b =>
    obtain ⟨rfl, rfl⟩ := run_done_iff.1 h
    exact ⟨[], .done, rfl⟩
  | ask c next ih =>
    obtain ⟨r, es₁, rfl, h₁⟩ := run_ask_iff.1 h
    obtain ⟨ws, h₂, rfl⟩ := ih _ h₁
    exact ⟨⟨c, r⟩ :: ws, .ask h₂, rfl⟩
  | stuck => nomatch h

/-! ## Offers -/

namespace Schedule

/-- How an offer of bytes goes on, with the answers of the writer, and what is left of it. -/
inductive Offers : Bytes → List Writer.Event → Except IoError Bytes → Prop where
  | done : Offers [] [] (.ok [])
  | took {data : Bytes} {n : Fin (data.length + 1)} {ws : List Writer.Event}
      {r : Except IoError Bytes} :
      n.val ≠ 0 → Offers (data.drop n.val) ws r → Offers data (⟨data, .ok n⟩ :: ws) r
  | full {data : Bytes} {e : IoError} :
      data ≠ [] → e.isWouldBlock = true → Offers data [⟨data, .error e⟩] (.ok data)
  | interrupted {data : Bytes} {e : IoError} {ws : List Writer.Event} {r : Except IoError Bytes} :
      e.isWouldBlock = false → e.isInterrupted = true → Offers data ws r →
      Offers data (⟨data, .error e⟩ :: ws) r
  /-- A writer that takes nothing has failed. -/
  | refused {data : Bytes} {n : Fin (data.length + 1)} :
      n.val = 0 → Offers data [⟨data, .ok n⟩] (.error (.plain .writeZero))
  | failed {data : Bytes} {e : IoError} :
      e.isWouldBlock = false → e.isInterrupted = false →
      Offers data [⟨data, .error e⟩] (.error e)

variable {turns : Nat} {data : Bytes} {ws : List Writer.Event} {r : Except IoError Bytes}

theorem offer_run (h : Run (offer turns data) ws r) : Offers data ws r := by
  induction turns generalizing data ws with
  | zero =>
    cases data with
    | nil =>
      obtain ⟨rfl, rfl⟩ := run_pure_iff.1 h
      exact .done
    | cons => exact absurd h not_run_stuck
  | succ turns ih =>
    cases data with
    | nil =>
      obtain ⟨rfl, rfl⟩ := run_pure_iff.1 h
      exact .done
    | cons b data =>
      obtain ⟨(a : Except IoError (Fin ((b :: data).length + 1))), ws', rfl, h'⟩ := run_ask_iff.1 h
      clear h
      rcases a with e | n
      · cases hw : e.isWouldBlock with
        | true =>
          simp only [hw, if_true] at h'
          obtain ⟨rfl, rfl⟩ := run_pure_iff.1 h'
          exact .full nofun hw
        | false =>
          cases hi : e.isInterrupted with
          | true =>
            simp only [hw, hi, if_true, Bool.false_eq_true, if_false] at h'
            exact .interrupted hw hi (ih h')
          | false =>
            simp only [hw, hi, Bool.false_eq_true, if_false] at h'
            obtain ⟨rfl, rfl⟩ := run_pure_iff.1 h'
            exact .failed hw hi
      · by_cases hn : n.val = 0
        · simp only [hn, if_true] at h'
          obtain ⟨rfl, rfl⟩ := run_pure_iff.1 h'
          exact .refused hn
        · simp only [hn, if_false] at h'
          exact .took hn (ih h')

/-- The writer takes the front of what it is offered. When it does not fail the rest is left. -/
theorem Offers.conserved (h : Offers data ws r) :
    ∃ rest, Writer.takenBy ws ++ rest = data ∧ ∀ left, r = .ok left → left = rest := by
  induction h with
  | done => exact ⟨[], rfl, by rintro _ ⟨⟩; rfl⟩
  | @took data n ws r _ _ ih =>
    obtain ⟨rest, hrest, hr⟩ := ih
    refine ⟨rest, ?_, hr⟩
    calc data.take n.val ++ Writer.takenBy ws ++ rest
        = data.take n.val ++ data.drop n.val := by rw [List.append_assoc, hrest]
      _ = data := List.take_append_drop ..
  | full => exact ⟨_, rfl, by rintro _ ⟨⟩; rfl⟩
  | interrupted _ _ _ ih => exact ih
  | @refused data n hn => exact ⟨data, by simp [Writer.taken, hn], nofun⟩
  | failed => exact ⟨_, rfl, nofun⟩

/-! ## Sending and flushing -/

theorem isEmpty_iff {s : Schedule} : s.isEmpty = true ↔ s.pending = [] :=
  List.isEmpty_iff

theorem outcome_eq_drained {s : Schedule} : s.outcome = .drained ↔ s.pending = [] := by
  rw [outcome, ← isEmpty_iff]
  split
  · next h => exact iff_of_true rfl h
  · next h => exact iff_of_false nofun h

/-- How an offer of bytes leaves a schedule: with what was not taken of them, or as it was when the offer
    has failed. -/
inductive Leaves (s : Schedule) (data : Bytes) (ws : List Writer.Event) :
    Except IoError Flush → Schedule → Prop where
  | offered {rest : Bytes} :
      Offers data ws (.ok rest) → Leaves s data ws (.ok (outcome ⟨rest⟩)) ⟨rest⟩
  | failed {e : IoError} : Offers data ws (.error e) → Leaves s data ws (.error e) s

section
variable {s s' : Schedule} {r : Except IoError Flush}

theorem leaves_of_run
    (h : Run (do
      match ← offer turns data with
      | .ok rest => return (.ok (outcome ⟨rest⟩), ⟨rest⟩)
      | .error e => return (.error e, s)) ws (r, s')) : s.Leaves data ws r s' := by
  obtain ⟨ws₁, ws₂, x, rfl, h₁, h₂⟩ := run_monad_bind_iff.1 h
  have hoffers := offer_run h₁
  cases x with
  | error e =>
    obtain ⟨rfl, heq⟩ := run_pure_iff.1 h₂
    cases heq
    rw [List.append_nil]
    exact .failed hoffers
  | ok rest =>
    obtain ⟨rfl, heq⟩ := run_pure_iff.1 h₂
    cases heq
    rw [List.append_nil]
    exact .offered hoffers

/-- What is scheduled is offered. -/
theorem flush_run (h : Run (s.flush turns) ws (r, s')) : s.Leaves s.pending ws r s' :=
  leaves_of_run h

/-- What is sent is offered, unless it is scheduled behind scheduled bytes. -/
theorem send_run (h : Run (s.send turns data) ws (r, s')) :
    s.pending = [] ∧ s.Leaves data ws r s' ∨
      s.pending ≠ [] ∧ ws = [] ∧ r = .ok .pending ∧ s' = s.push data := by
  rw [send] at h
  split at h
  · next hempty => exact .inl ⟨isEmpty_iff.1 hempty, leaves_of_run h⟩
  · next hpending =>
    obtain ⟨rfl, heq⟩ := run_pure_iff.1 h
    cases heq
    exact .inr ⟨fun hempty => hpending (isEmpty_iff.2 hempty), rfl, rfl, rfl⟩

end

end Schedule

end SocksProxy
