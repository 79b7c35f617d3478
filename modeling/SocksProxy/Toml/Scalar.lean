/-
  Strings, numbers, truth values and dates of TOML.

  * `Scalar.string` reads a string of any of the four kinds;
  * `Scalar.number` reads a date, a float or an integer.
-/
import SocksProxy.Toml.Scan
import SocksProxy.Toml.Value

namespace SocksProxy.Toml.Scalar

open Scan

/-! ## Strings -/

/-- Reads the number of a character, in `width` hexadecimal digits. -/
def scalarValue (width : Nat) : Scan Char := fun s =>
  let ds := s.take width
  let n := valueOf 16 ds
  if ds.length == width && ds.all (fun c => (Text.digitValue? 16 c).isSome) &&
      (n < 0xD800 || (0xDFFF < n && n < 0x110000)) then
    some (Char.ofNat n, s.drop width)
  else none

/-- Reads what follows the backslash of an escape. -/
def escaped : Scan Char := fun
  | 'b' :: s => some ('\x08', s)
  | 't' :: s => some ('\t', s)
  | 'n' :: s => some ('\n', s)
  | 'f' :: s => some ('\x0c', s)
  | 'r' :: s => some ('\r', s)
  | '"' :: s => some ('"', s)
  | '\\' :: s => some ('\\', s)
  | 'u' :: s => scalarValue 4 s
  | 'U' :: s => scalarValue 8 s
  | _ => none

/-- Reads the rest of a basic string, which has at most `n` characters. -/
def basicRest : Nat → Scan (List Char)
  | 0 => fail
  | n + 1 => fun
    | [] => none
    | '"' :: s => some ([], s)
    | '\\' :: s => (do
        let c ← escaped
        return c :: (← basicRest n)).run s
    | c :: s => if isLineChar c then (do return c :: (← basicRest n)).run s else none

/-- Reads a basic string. -/
def basic : Scan (List Char) := do
  expect ['"']
  basicRest ((← get).length + 1)

/-- Reads a literal string. -/
def literal : Scan (List Char) := do
  expect ['\'']
  let cs ← takeWhile fun c => isLineChar c && c != '\''
  expect ['\'']
  return cs

/-- Reads the quotes at the end of a string over several lines: three close it, and up to two
    before them belong to it. Fewer than three belong to the string, which goes on. -/
def closing (quote : Char) (s : List Char) : List Char × Option (List Char) :=
  let n := min (s.takeWhile (· == quote)).length 5
  if n < 3 then (List.replicate n quote, none)
  else (List.replicate (n - 3) quote, some (s.drop n))

/-- Whether the text goes on with blanks and then a line end. -/
def endsLine (s : List Char) : Bool :=
  match s.dropWhile fun c => c == ' ' || c == '\t' with
  | '\n' :: _ => true
  | '\r' :: '\n' :: _ => true
  | _ => false

/-- Drops blanks and line ends. -/
def dropLines : List Char → List Char
  | '\r' :: '\n' :: s => dropLines s
  | c :: s => if c == ' ' || c == '\t' || c == '\n' then dropLines s else c :: s
  | [] => []

/-- Reads the rest of a string over several lines, in at most `n` steps. Escapes count if
    `escapes`; a backslash at the end of a line then hides the line end and the blanks behind it. -/
def linesRest (escapes : Bool) (quote : Char) : Nat → Scan (List Char)
  | 0 => fail
  | n + 1 => fun
    | [] => none
    | '\n' :: s => (do return '\n' :: (← linesRest escapes quote n)).run s
    | '\r' :: '\n' :: s => (do return '\n' :: (← linesRest escapes quote n)).run s
    | c :: s =>
      if c == quote then
        match closing quote (c :: s) with
        | (qs, some rest) => some (qs, rest)
        | (qs, none) =>
          (do return qs ++ (← linesRest escapes quote n)).run ((c :: s).drop qs.length)
      else if c == '\\' && escapes then
        if endsLine s then linesRest escapes quote n (dropLines s)
        else (do
          let c ← escaped
          return c :: (← linesRest escapes quote n)).run s
      else if isLineChar c then (do return c :: (← linesRest escapes quote n)).run s
      else none

/-- Reads a string over several lines; a line end right behind the quotes does not count. -/
def lines (escapes : Bool) (quote : Char) : Scan (List Char) := do
  expect [quote, quote, quote]
  let _ ← maybe newline
  linesRest escapes quote ((← get).length + 1)

/-- Reads a string. -/
def string : Scan String := fun s =>
  let read :=
    if ['"', '"', '"'].isPrefixOf s then lines true '"' s
    else if ['\'', '\'', '\''].isPrefixOf s then lines false '\'' s
    else if ['"'].isPrefixOf s then basic s
    else literal s
  read.map fun (cs, rest) => (String.ofList cs, rest)

/-! ## Dates and times -/

/-- Reads a number of two digits from `low` to `high`. -/
def twoDigits (low high : Nat) : Scan Unit := do
  let n ← fixedDigits 2
  check (low ≤ n && n ≤ high)

/-- How many days a month has. -/
def daysOf (year month : Nat) : Nat :=
  if month == 2 then
    if year % 4 == 0 && (year % 100 != 0 || year % 400 == 0) then 29 else 28
  else if month == 4 || month == 6 || month == 9 || month == 11 then 30
  else 31

/-- Reads a date. -/
def date : Scan Unit := do
  let year ← fixedDigits 4
  expect ['-']
  let month ← fixedDigits 2
  check (1 ≤ month && month ≤ 12)
  expect ['-']
  let day ← fixedDigits 2
  check (1 ≤ day && day ≤ daysOf year month)

/-- Reads a time of day; the second may be a leap second. -/
def time : Scan Unit := do
  twoDigits 0 23
  expect [':']
  twoDigits 0 59
  expect [':']
  twoDigits 0 60
  if ← accept ['.'] then
    let ds ← takeWhile fun c => '0' ≤ c && c ≤ '9'
    check (!ds.isEmpty)

/-- Reads the distance to universal time. -/
def zone : Scan Unit := do
  match ← peek with
  | some 'Z' => expect ['Z']
  | some 'z' => expect ['z']
  | some '+' => expect ['+']; twoDigits 0 23; expect [':']; twoDigits 0 59
  | some '-' => expect ['-']; twoDigits 0 23; expect [':']; twoDigits 0 59
  | _ => pure ()

/-- Reads a date with a time, a date, or a time. -/
def dateTime : Scan Unit :=
  orElse
    (do
      date
      let s ← get
      match s with
      | 'T' :: s => set s; time; zone
      | 't' :: s => set s; time; zone
      | ' ' :: s' => orElse (do set s'; time; zone) (set s)
      | _ => pure ())
    time

/-! ## Numbers -/

/-- Reads a sign, and tells whether it is a minus. -/
def sign : Scan Bool := do
  match ← peek with
  | some '+' => expect ['+']; return false
  | some '-' => expect ['-']; return true
  | _ => return false

/-- Reads decimal digits without a leading zero. -/
def wholePart : Scan (List Char) := fun
  | '0' :: s => some (['0'], s)
  | s => Scan.digits 10 s

/-- Reads the exponent of a float. -/
def exponent : Scan Int := do
  match ← peek with
  | some 'e' => expect ['e']
  | some 'E' => expect ['E']
  | _ => fail
  let negative ← sign
  let n := valueOf 10 (← Scan.digits 10)
  return if negative then -(n : Int) else n

/-- Whether `m * 10 ^ e` is too large for a float of 64 bits. -/
def isTooLarge (m : Nat) (e : Int) : Bool :=
  let limit := Nat.pow 2 1024 - Nat.pow 2 970
  let size : Int := (Text.digits 10 m).length
  if m == 0 then false
  else if size + e > 310 then true
  else if size + e < 300 then false
  else if 0 ≤ e then m * Nat.pow 10 e.toNat ≥ limit
  else m ≥ limit * Nat.pow 10 (-e).toNat

/-- Reads a float. A negative number may be too large, a positive one may not. -/
def float : Scan Unit := do
  let negative ← sign
  match ← get with
  | 'i' :: 'n' :: 'f' :: s => set s
  | 'n' :: 'a' :: 'n' :: s => set s
  | _ =>
    let whole ← wholePart
    let (fraction, e) ←
      if ← accept ['.'] then do
        let fraction ← Scan.digits 10
        let e ← match ← peek with
          | some 'e' | some 'E' => exponent
          | _ => pure 0
        pure (fraction, e)
      else do pure ([], ← exponent)
    check (negative || !isTooLarge (valueOf 10 (whole ++ fraction)) (e - fraction.length))

/-- Reads an integer of 64 bits. -/
def integer : Scan Int := do
  let n : Int ← match ← get with
    | '0' :: 'x' :: s => do set s; pure (valueOf 16 (← Scan.digits 16) : Int)
    | '0' :: 'o' :: s => do set s; pure (valueOf 8 (← Scan.digits 8) : Int)
    | '0' :: 'b' :: s => do set s; pure (valueOf 2 (← Scan.digits 2) : Int)
    | _ => do
      let negative ← sign
      let n := valueOf 10 (← wholePart)
      pure (if negative then -(n : Int) else n)
  check (-9223372036854775808 ≤ n && n < 9223372036854775808)
  return n

/-- Reads a date, a float or an integer. -/
def number : Scan Value :=
  orElse (do dateTime; return .date)
    (orElse (do float; return .float) (do return .integer (← integer)))

end SocksProxy.Toml.Scalar
