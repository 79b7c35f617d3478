/-
  Numbers in a given base: their digits, and the digits at the front of a text.

  * `digits` writes a number, `padded` to at least a given width;
  * `digitValue?` reads one character, `readNumber` the longest run of digits.
-/

namespace SocksProxy.Text

/-! ## Writing -/

/-- The digits of `n` in base `base`, lower case and without leading zeros. -/
def digits (base n : Nat) : List Char :=
  Nat.toDigits base n

/-- The digits of `n` in base `base`, with zeros in front up to `width`. -/
def padded (base width n : Nat) : String :=
  let ds := digits base n
  String.ofList (List.replicate (width - ds.length) '0' ++ ds)

/-! ## Reading -/

/-- The value of a digit in base `base`; letters of both cases stand for ten and up. -/
def digitValue? (base : Nat) (c : Char) : Option Nat :=
  let v :=
    if '0' ≤ c ∧ c ≤ '9' then c.toNat - '0'.toNat
    else if 'a' ≤ c ∧ c ≤ 'z' then c.toNat - 'a'.toNat + 10
    else if 'A' ≤ c ∧ c ≤ 'Z' then c.toNat - 'A'.toNat + 10
    else base
  if v < base then some v else none

/-- The number that a list of digit values stands for. -/
def ofDigits (base : Nat) (vs : List Nat) : Nat :=
  vs.foldl (fun n v => n * base + v) 0

/-- The digit values at the front of a text, and what follows them. -/
def takeDigits (base : Nat) : List Char → List Nat × List Char
  | [] => ([], [])
  | c :: s =>
    match digitValue? base c with
    | none => ([], c :: s)
    | some v =>
      let (vs, rest) := takeDigits base s
      (v :: vs, rest)

/-- Reads a number of at most `width` digits. A longer run of digits is no number, and neither is
    one with a leading zero unless `leadingZeros` allows it. -/
def readNumber (base width : Nat) (leadingZeros : Bool) (s : List Char) : Option (Nat × List Char) :=
  match takeDigits base s with
  | ([], _) => none
  | (v :: vs, rest) =>
    if vs.length + 1 > width then none
    else if v == 0 && !vs.isEmpty && !leadingZeros then none
    else some (ofDigits base (v :: vs), rest)

end SocksProxy.Text
