/-
  Domain names as sequences of labels, and reading one from text.

  In text, dots separate the labels and nothing need follow the last dot; a lone dot is the root. A
  backslash takes the next character as it is, or, before a digit, starts a character written as
  three octal digits. A backslash that the end of the text cuts off counts for nothing.

  * `Name.ofText?` reads a name from text;
  * `Name.encode` is the form in messages, one length byte before each label and a zero at the end;
  * `Name.size` counts the length bytes and the labels.
-/
import SocksProxy.Bytes

namespace SocksProxy.Dns

/-- One label of a name. -/
abbrev Label := Bytes

/-- A domain name; the root has no labels. -/
structure Name where
  labels : List Label
  deriving DecidableEq, Repr

namespace Name

/-- The labels with a length byte before each. -/
def encodeLabels (ls : List Label) : Bytes :=
  ls.flatMap fun l => UInt8.ofNat l.length :: l

/-- Number of bytes of the labels with their length bytes. -/
def size (name : Name) : Nat :=
  (encodeLabels name.labels).length

/-- The name as it stands in messages. -/
def encode (name : Name) : Bytes :=
  encodeLabels name.labels ++ [0]

/-! ## Reading text -/

/-- Whether a label of a name that is asked for may hold the character. A hyphen must not be the
    first character, and an asterisk may only be the first. -/
def isLabelChar (first : Bool) (c : Char) : Bool :=
  ('a' ≤ c && c ≤ 'z') || ('A' ≤ c && c ≤ 'Z') || ('0' ≤ c && c ≤ '9') ||
    c == '_' || c == '.' || (c == '-' && !first) || (c == '*' && first)

/-- The label with these characters: at most 63 of them, and at least one. -/
def labelOfChars? (cs : List Char) : Option Label :=
  match cs with
  | [] => none
  | c :: rest =>
    if cs.length ≤ 63 ∧ isLabelChar true c ∧ rest.all (isLabelChar false) then
      some (cs.map fun c => UInt8.ofNat c.toNat)
    else none

/-- How far an escape has been read. -/
inductive Escape where
  | no
  /-- Behind a backslash. -/
  | started
  /-- Behind the first octal digit. -/
  | first (a : Nat)
  /-- Behind the second octal digit. -/
  | second (a b : Nat)
  deriving DecidableEq, Repr

/-- The value of an octal digit. -/
def octal? (c : Char) : Option Nat :=
  if '0' ≤ c ∧ c ≤ '7' then some (c.toNat - '0'.toNat) else none

/-- Reads labels, given how far an escape has been read and, in reverse, the characters of the
    label so far. -/
def readLabels (escape : Escape) (label : List Char) : List Char → Option (List Label)
  | [] => if label.isEmpty then some [] else (labelOfChars? label.reverse).map ([·])
  | c :: s =>
    match escape with
    | .no =>
      if c = '.' then do
        let l ← labelOfChars? label.reverse
        let ls ← readLabels .no [] s
        some (l :: ls)
      else if c = '\\' then readLabels .started label s
      else if c ≤ ' ' ∨ c = '\x7f' then none
      else readLabels .no (c :: label) s
    | .started =>
      if '0' ≤ c ∧ c ≤ '9' then (octal? c).bind fun a => readLabels (.first a) label s
      else readLabels .no (c :: label) s
    | .first a => (octal? c).bind fun b => readLabels (.second a b) label s
    | .second a b =>
      (octal? c).bind fun d => readLabels .no (Char.ofNat (a * 64 + b * 8 + d) :: label) s

/-- The labels that a text names. -/
def labelsOfChars? (s : List Char) : Option (List Label) :=
  if s = ['.'] then some [] else readLabels .no [] s

/-- The name with these characters; its labels and their length bytes fit into 255 bytes. -/
def ofChars? (s : List Char) : Option Name := do
  let ls ← labelsOfChars? s
  let name : Name := ⟨ls⟩
  if name.size ≤ 255 then some name else none

end Name

end SocksProxy.Dns
