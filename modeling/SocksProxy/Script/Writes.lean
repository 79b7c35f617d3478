/-
  A scripted writer: what becomes of each write, in order.

  When the script is used up, every byte is taken.
-/
import SocksProxy.Net.Schedule

namespace SocksProxy.Script

/-- What becomes of one write. -/
inductive WriteOutcome where
  /-- At most this many bytes are taken. -/
  | takes (n : Nat)
  | fails (error : IoError)
  deriving DecidableEq, Repr

/-- The answer to an offer of `data`, and the rest of the script. -/
def answerWrite (data : Bytes) :
    List WriteOutcome → Except IoError (Fin (data.length + 1)) × List WriteOutcome
  | [] => (.ok ⟨data.length, Nat.lt_succ_self _⟩, [])
  | .takes n :: rest => (.ok ⟨min n data.length, by omega⟩, rest)
  | .fails e :: rest => (.error e, rest)

/-- A write as it was made: what was offered, and what was taken. -/
structure Write where
  offered : Bytes
  taken : Except IoError Nat

/-- A writer with what it will do and, latest first, what it did. -/
structure ScriptedWriter where
  outcomes : List WriteOutcome
  writes : List Write

/-- The answers of a scripted writer. -/
def ScriptedWriter.answer (data : Writer.Call) (w : ScriptedWriter) :
    Writer.Answer data × ScriptedWriter :=
  let (r, rest) := answerWrite data w.outcomes
  let taken := match r with
    | .ok n => .ok n.val
    | .error e => .error e
  (r, ⟨rest, ⟨data, taken⟩ :: w.writes⟩)

end SocksProxy.Script
