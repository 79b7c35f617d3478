/-
  Reading the small parts of TOML text: blanks, line ends, comments and runs of digits.

  `Scan α` reads an `α` from the front of a text, or fails.
-/
import SocksProxy.Text.Digits

namespace SocksProxy.Toml

/-- Reads a value from the front of a text and leaves the rest, or fails. -/
abbrev Scan := StateT (List Char) Option

namespace Scan

/-- Fails. -/
def fail {α : Type} : Scan α := fun _ => none

/-- The next character, if there is one. -/
def peek : Scan (Option Char) := fun s => some (s.head?, s)

/-- Reads the given characters. -/
def expect (cs : List Char) : Scan Unit := fun s =>
  if cs.isPrefixOf s then some ((), s.drop cs.length) else none

/-- Reads the given characters if they come next, and tells whether they do. -/
def accept (cs : List Char) : Scan Bool := fun s =>
  if cs.isPrefixOf s then some (true, s.drop cs.length) else some (false, s)

/-- Reads characters while `p` holds. -/
def takeWhile (p : Char → Bool) : Scan (List Char) := fun s => some (s.takeWhile p, s.dropWhile p)

/-- Reads with `p`, or with `q` from the same place when `p` fails. -/
def orElse {α : Type} (p q : Scan α) : Scan α := fun s =>
  match p s with
  | some r => some r
  | none => q s

/-- Reads with `p`, or nothing when `p` fails. -/
def maybe {α : Type} (p : Scan α) : Scan (Option α) := fun s =>
  match p s with
  | some (a, s) => some (some a, s)
  | none => some (none, s)

/-- Fails unless `b` holds. -/
def check (b : Bool) : Scan Unit := fun s => if b then some ((), s) else none

/-! ## Blanks, line ends and comments -/

/-- Reads blanks and tabs. -/
def blanks : Scan Unit := do
  let _ ← takeWhile fun c => c == ' ' || c == '\t'

/-- Reads a line end. -/
def newline : Scan Unit := fun
  | '\n' :: s => some ((), s)
  | '\r' :: '\n' :: s => some ((), s)
  | _ => none

/-- Whether a text on one line may hold the character. -/
def isLineChar (c : Char) : Bool :=
  c == '\t' || (' ' ≤ c && c != '\x7f')

/-- Reads a comment up to the end of its line. -/
def comment : Scan Unit := do
  expect ['#']
  let _ ← takeWhile isLineChar

/-- Reads a line end, unless the text ends here. -/
def lineEnd : Scan Unit := fun
  | [] => some ((), [])
  | s => newline s

/-- Reads what may follow on a line: blanks and a comment. -/
def restOfLine : Scan Unit := do
  blanks
  if (← peek) = some '#' then comment
  lineEnd

/-- Reads blanks, line ends and comments, at most `n` of them. -/
def gap : Nat → Scan Unit
  | 0 => pure ()
  | n + 1 => do
    blanks
    match ← peek with
    | some '#' => comment; newline; gap n
    | some '\n' | some '\r' => newline; gap n
    | _ => pure ()

/-! ## Digits -/

/-- Reads `width` digits as a number. -/
def fixedDigits (width : Nat) : Scan Nat := fun s =>
  let ds := s.take width
  if ds.length == width && ds.all (fun c => '0' ≤ c && c ≤ '9') then
    some (ds.foldl (fun n c => n * 10 + (c.toNat - '0'.toNat)) 0, s.drop width)
  else none

/-- Reads digits in base `base`, where an underscore may stand between two of them. -/
def digitsFrom (base : Nat) : List Char → Option (List Char × List Char)
  | '_' :: c :: s =>
    if (Text.digitValue? base c).isSome then (digitsFrom base s).map fun (ds, r) => (c :: ds, r)
    else none
  | c :: s =>
    if c = '_' then none
    else if (Text.digitValue? base c).isSome then
      (digitsFrom base s).map fun (ds, r) => (c :: ds, r)
    else some ([], c :: s)
  | [] => some ([], [])

/-- Reads at least one digit, with underscores between digits. -/
def digits (base : Nat) : Scan (List Char) := fun
  | c :: s =>
    if (Text.digitValue? base c).isSome then
      (digitsFrom base s).map fun (ds, r) => (c :: ds, r)
    else none
  | [] => none

end Scan

/-- The number that digits stand for. -/
def valueOf (base : Nat) (ds : List Char) : Nat :=
  Text.ofDigits base (ds.filterMap (Text.digitValue? base))

end SocksProxy.Toml
