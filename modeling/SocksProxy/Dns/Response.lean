/-
  Writing responses.

  A response repeats the questions of the query, and its answers are about the name of the first
  one. A name is cut short where the rest of it was written before: a pointer leads there. When there
  is no room for an answer, the fields of it that did fit stay behind the answers that count.

  * `Writing` is a message that is being written, and a `Put` writes something more;
  * `respond` answers a query with addresses.
-/
import SocksProxy.Dns.Query

namespace SocksProxy.Dns

/-- A message that is being written: its size so far, its parts with the last one first, and, with
    the first one first, the ends of names that a pointer can lead to. -/
structure Writing where
  size : Nat
  parts : List Bytes
  suffixes : List (Bytes × Nat)

/-- The result of writing more: the message, or, when there was no room, how far it came. -/
abbrev Put : Type := Except Writing Writing

namespace Writing

/-- No message is longer. -/
def maxSize : Nat := 65535

/-- A pointer leads no further. -/
def maxTarget : Nat := 0x3FFF

/-- Writes one field, if there is room for it. -/
def put (w : Writing) (field : Bytes) : Put :=
  if w.size + field.length ≤ maxSize then
    .ok { w with size := w.size + field.length, parts := field :: w.parts }
  else .error w

/-- Writes fields up to the first for which there is no room. -/
def putAll (w : Writing) (fields : List Bytes) : Put :=
  fields.foldlM put w

/-- Writes the labels of a name up to an end that was written before. Each end that is new can be
    found later, if the labels are close enough to the start of the message. -/
def putLabels (w : Writing) (last : Nat) : List Label → Put
  | [] => w.put [0]
  | l :: ls =>
    let suffix := Name.encodeLabels (l :: ls)
    match w.suffixes.lookup suffix with
    | some target => w.put (Bytes.be16 (UInt16.ofNat (0xC000 + target % 0x4000)))
    | none =>
      let suffixes :=
        if last < maxTarget then w.suffixes ++ [(suffix, w.size)] else w.suffixes
      ({ w with suffixes }.put (UInt8.ofNat l.length :: l)).bind fun w => w.putLabels last ls

/-- Writes a name. There has to be room for all of its labels. -/
def putName (w : Writing) (name : Name) : Put := do
  let _ ← w.putAll (name.labels.flatMap fun l => [[UInt8.ofNat l.length], l])
  w.putLabels (w.size + name.size) name.labels

/-- Writes a question. -/
def putQuestion (w : Writing) (q : Question) : Put := do
  (← w.putName q.name).putAll [Bytes.be16 q.type.number, Bytes.be16 q.cls]

/-- The type of the record that gives an address, and the fields of its data. -/
def dataOf : Ip → RecordType × List Bytes
  | .v4 ip => (.a, ip.octets.map ([·]))
  | .v6 ip => (.aaaa, ip.groups.map Bytes.be16)

/-- Writes a record that gives an address of a name. The size of the data takes its place when all of
    them are written. -/
def putAddress (w : Writing) (name : Name) (ttl : UInt32) (ip : Ip) : Put := do
  let (type, data) := dataOf ip
  let w ← (← w.putName name).putAll [Bytes.be16 type.number, Bytes.be16 internetClass, Bytes.be32 ttl]
  let _ ← (← w.put (Bytes.be16 0)).putAll data
  w.putAll (Bytes.be16 (UInt16.ofNat data.flatten.length) :: data)

/-- Writes records until there is no room for the next, and tells how many there are. -/
def putAddresses (w : Writing) (name : Name) (ttl : UInt32) : List Ip → Writing × Nat
  | [] => (w, 0)
  | ip :: ips =>
    match w.putAddress name ttl ip with
    | .error cut => (cut, 0)
    | .ok w =>
      let (w, n) := w.putAddresses name ttl ips
      (w, n + 1)

/-- What was written. -/
def bytes (w : Writing) : Bytes :=
  w.parts.reverse.flatten

end Writing

/-- The response to a query with these addresses. When not all of them fit, the response says that
    it is cut short. -/
def respond (query : Bytes) (addresses : List Ip) (ttl : UInt32) : Except Fault Bytes :=
  match Message.parse? query with
  | none => .error .malformed
  | some m =>
    match m.questions with
    | [] => .error .noQuestion
    | q :: _ =>
      let start : Writing := ⟨12, [], []⟩
      match m.questions.foldlM Writing.putQuestion start with
      | .error _ => .error .malformed
      | .ok w =>
        let (w, count) := w.putAddresses q.name ttl addresses
        let flags : UInt8 := 0x80 + (if count < addresses.length then 2 else 0) +
          (if m.recursionDesired then 1 else 0)
        .ok (Bytes.be16 m.id ++ [flags, 0x80] ++ Bytes.be16 (UInt16.ofNat m.questions.length) ++
          Bytes.be16 (UInt16.ofNat count) ++ [0, 0, 0, 0] ++ w.bytes)

end SocksProxy.Dns
