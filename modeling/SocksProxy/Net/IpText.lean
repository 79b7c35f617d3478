/-
  The text of IP addresses and endpoints, and reading it back.

  An IPv4 address is four decimal numbers. An IPv6 address is written in lower-case groups; the
  longest run of at least two zero groups (the first of equals) is written `::`, and an address
  that maps an IPv4 address (`::ffff:0:0/96`) ends in that address.

  * `Ip.text`, `Endpoint.text` write;
  * `Ip.parse?` reads an address that fills the text, `Endpoint.parse?` an endpoint.
-/
import SocksProxy.Net.Ip
import SocksProxy.Text.Digits

namespace SocksProxy

open Text

/-! ## Writing -/

/-- The four numbers, separated by dots. -/
def IPv4.chars (ip : IPv4) : List Char :=
  digits 10 ip.a.toNat ++ '.' :: (digits 10 ip.b.toNat ++ '.' ::
    (digits 10 ip.c.toNat ++ '.' :: digits 10 ip.d.toNat))

/-- A run of zero groups: where it starts and how long it is. -/
structure ZeroRun where
  start : Nat
  length : Nat
  deriving DecidableEq, Repr

/-- The longest run of zeros from position `i` on, given the run that ends at `i` and the longest
    one before. A later run has to be longer to be chosen. -/
def ZeroRun.scan : List UInt16 → Nat → ZeroRun → ZeroRun → ZeroRun
  | [], _, _, best => best
  | g :: gs, i, run, best =>
    if g = 0 then
      let run : ZeroRun := ⟨if run.length = 0 then i else run.start, run.length + 1⟩
      scan gs (i + 1) run (if run.length > best.length then run else best)
    else scan gs (i + 1) ⟨0, 0⟩ best

/-- The longest run of zero groups, the first of equals. -/
def ZeroRun.longest (gs : List UInt16) : ZeroRun :=
  scan gs 0 ⟨0, 0⟩ ⟨0, 0⟩

/-- Groups in hexadecimal, separated by colons. -/
def groupChars : List UInt16 → List Char
  | [] => []
  | [g] => digits 16 g.toNat
  | g :: gs => digits 16 g.toNat ++ ':' :: groupChars gs

/-- The IPv4 address with these two groups. -/
def IPv4.ofGroups (hi lo : UInt16) : IPv4 where
  a := UInt8.ofNat (hi.toNat / 256)
  b := UInt8.ofNat hi.toNat
  c := UInt8.ofNat (lo.toNat / 256)
  d := UInt8.ofNat lo.toNat

/-- The IPv4 address that an IPv4-mapped address stands for. -/
def IPv6.mapped? (ip : IPv6) : Option IPv4 :=
  match ip.groups with
  | [0, 0, 0, 0, 0, 0xffff, hi, lo] => some (IPv4.ofGroups hi lo)
  | _ => none

/-- The text of an IPv6 address. -/
def IPv6.chars (ip : IPv6) : List Char :=
  match ip.mapped? with
  | some v4 => "::ffff:".toList ++ v4.chars
  | none =>
    let run := ZeroRun.longest ip.groups
    if run.length > 1 then
      groupChars (ip.groups.take run.start) ++ ':' :: ':' ::
        groupChars (ip.groups.drop (run.start + run.length))
    else groupChars ip.groups

/-- The text of an address, as characters. -/
def Ip.chars : Ip → List Char
  | .v4 ip => ip.chars
  | .v6 ip => ip.chars

/-- The text of an address. -/
def Ip.text (ip : Ip) : String :=
  String.ofList ip.chars

/-- The text of an endpoint: an IPv6 address stands in brackets. -/
def Endpoint.text (e : Endpoint) : String :=
  match e.ip with
  | .v4 ip => String.ofList (ip.chars ++ ':' :: digits 10 e.port.toNat)
  | .v6 ip => String.ofList ('[' :: ip.chars ++ ']' :: ':' :: digits 10 e.port.toNat)

/-! ## Reading -/

/-- Reads the character `c`. -/
def readChar (c : Char) : List Char → Option (List Char)
  | [] => none
  | d :: s => if c = d then some s else none

/-- Reads one part of an IPv4 address: at most three digits, no leading zero, below 256. -/
def readPart (s : List Char) : Option (UInt8 × List Char) := do
  let (n, s) ← readNumber 10 3 false s
  if n < 256 then some (UInt8.ofNat n, s) else none

/-- Reads an IPv4 address from the front of a text. -/
def readIPv4 (s : List Char) : Option (IPv4 × List Char) := do
  let (a, s) ← readPart s
  let (b, s) ← readPart (← readChar '.' s)
  let (c, s) ← readPart (← readChar '.' s)
  let (d, s) ← readPart (← readChar '.' s)
  some (⟨a, b, c, d⟩, s)

/-- Groups read from the front of a text. -/
structure ReadGroups where
  groups : List UInt16
  /-- The last two groups were written as an IPv4 address. -/
  tail4 : Bool
  rest : List Char

/-- Reads up to `n` groups with a colon between them (before the first too, unless `first`). The
    last two of them may be an IPv4 address, which ends the groups. -/
def readGroups (first : Bool) : Nat → List Char → ReadGroups
  | 0, s => ⟨[], false, s⟩
  | n + 1, s =>
    match if first then some s else readChar ':' s with
    | none => ⟨[], false, s⟩
    | some t =>
      match if n = 0 then none else readIPv4 t with
      | some (ip, rest) => ⟨[Bytes.word16 ip.a ip.b, Bytes.word16 ip.c ip.d], true, rest⟩
      | none =>
        match readNumber 16 4 true t with
        | none => ⟨[], false, s⟩
        | some (g, rest) =>
          let more := readGroups false n rest
          { more with groups := UInt16.ofNat g :: more.groups }

/-- The IPv6 address with these groups, if there are eight of them. -/
def IPv6.ofGroups? (gs : List UInt16) : Option IPv6 :=
  if h : gs.length = 8 then some ⟨gs, h⟩ else none

/-- Reads an IPv6 address from the front of a text: eight groups, or a head and a tail around `::`,
    which stands for at least one group. -/
def readIPv6 (s : List Char) : Option (IPv6 × List Char) :=
  let head := readGroups true 8 s
  if head.groups.length = 8 then
    (IPv6.ofGroups? head.groups).map (·, head.rest)
  else if head.tail4 then none
  else do
    let s ← readChar ':' head.rest
    let s ← readChar ':' s
    let tail := readGroups true (7 - head.groups.length) s
    let zeros := List.replicate (8 - head.groups.length - tail.groups.length) 0
    let ip ← IPv6.ofGroups? (head.groups ++ zeros ++ tail.groups)
    some (ip, tail.rest)

/-- Reads an address of either family from the front of a text. -/
def readIp (s : List Char) : Option (Ip × List Char) :=
  match readIPv4 s with
  | some (ip, rest) => some (.v4 ip, rest)
  | none => (readIPv6 s).map fun (ip, rest) => (.v6 ip, rest)

/-- The address that a text consists of. -/
def Ip.ofChars? (s : List Char) : Option Ip :=
  match readIp s with
  | some (ip, []) => some ip
  | _ => none

/-- The address that a text consists of. -/
def Ip.parse? (s : String) : Option Ip :=
  Ip.ofChars? s.toList

/-- Reads a port that fills the text. -/
def parsePort? (s : List Char) : Option UInt16 :=
  match readNumber 10 s.length true s with
  | some (n, []) => if n < 65536 then some (UInt16.ofNat n) else none
  | _ => none

/-- The endpoint that a text consists of. -/
def Endpoint.parse? (text : String) : Option Endpoint :=
  let s := text.toList
  match readChar '[' s with
  | some s => do
    let (ip, s) ← readIPv6 s
    let s ← readChar ']' s
    let s ← readChar ':' s
    let port ← parsePort? s
    some ⟨.v6 ip, port⟩
  | none => do
    let (ip, s) ← readIPv4 s
    let s ← readChar ':' s
    let port ← parsePort? s
    some ⟨.v4 ip, port⟩

end SocksProxy
