/-
  DNS messages, as far as a resolver of addresses needs them.

  A message is a header of twelve bytes, its questions, and three sections of records. Every part
  has to be well-formed, also the parts that are not used; what follows the last record is ignored.
  Not looked into is the data of records of the types NAPTR (35), SSHFP (44), TLSA (52), CSYNC (62),
  SVCB (64), HTTPS (65), CAA (257) and ANAME (65305). Any bytes are taken for it, where hickory-proto
  refuses a message in which such data is malformed. No address comes from these records.

  * `Message.parse?` reads a message;
  * `Message.code` is the response code, whose upper bits an OPT record of the last section gives.
-/
import SocksProxy.Dns.Cursor
import SocksProxy.Net.Ip

namespace SocksProxy.Dns

/-! ## Values -/

/-- Numbers of record types that have a meaning here. -/
structure RecordType where
  number : UInt16
  deriving DecidableEq, Repr

namespace RecordType

/-- An IPv4 address. -/
def a : RecordType := ⟨1⟩

/-- An IPv6 address. -/
def aaaa : RecordType := ⟨28⟩

/-- Options of the message, in the place of a record. -/
def opt : RecordType := ⟨41⟩

end RecordType

/-- The class of Internet records. -/
def internetClass : UInt16 := 1

/-- What is asked about a name. -/
structure Question where
  name : Name
  type : RecordType
  cls : UInt16
  deriving DecidableEq, Repr

/-- The data of a record, as far as it is of use. -/
inductive RecordData where
  /-- No data at all, whatever the type. -/
  | absent
  | address (ip : Ip)
  /-- Data of some other well-formed kind. -/
  | other
  deriving DecidableEq, Repr

/-- A record of one of the three sections. -/
structure Record where
  type : RecordType
  cls : UInt16
  ttl : UInt32
  data : RecordData
  deriving DecidableEq, Repr

/-- A message. -/
structure Message where
  id : UInt16
  response : Bool
  recursionDesired : Bool
  /-- The response code of the header. -/
  lowCode : Nat
  questions : List Question
  answers : List Record
  /-- The records of the last section. -/
  additional : List Record
  deriving DecidableEq, Repr

/-! ## Reading -/

namespace Reading

/-- Reads the strings that fill the data of a text record, which ends at offset `stop`. A string
    has at least its length byte, so no more strings are read than the data has bytes. -/
def strings (stop : Nat) : Nat → Reading Unit
  | 0 => pure ()
  | n + 1 => do
    if (← offset) < stop then
      let _ ← string
      strings stop n
    else pure ()

/-- How many octets an address of a family has. -/
def familySize? (family : UInt16) : Option Nat :=
  if family = 1 then some 4 else if family = 2 then some 16 else none

/-- Whether bytes name the subnet of a client: a family, two lengths of a prefix in bits, and the
    octets that the first of them reaches into. What follows these octets is ignored. -/
def subnetOk : Bytes → Bool
  | x :: y :: source :: _ :: octets =>
    let used := (source.toNat + 7) / 8
    (familySize? (Bytes.word16 x y)).any fun size => used ≤ size && used ≤ octets.length
  | _ => false

/-- Whether the data of an option are in order. Only the subnet of a client has a form. -/
def optionOk (code : UInt16) (data : Bytes) : Bool :=
  code != 8 || subnetOk data

/-- Whether bytes are options: each has a code, a length that is at most `size`, and its data. The
    last option may be cut short, and then nothing is asked of its data. -/
def optionsOk (size : Nat) : Bytes → Bool
  | [] => true
  | [_, _] => true
  | a :: b :: x :: y :: rest =>
    let n := (Bytes.word16 x y).toNat
    if n ≤ size then
      (decide (rest.length < n) || optionOk (Bytes.word16 a b) (rest.take n)) &&
        optionsOk size (rest.drop n)
    else false
  | _ => false
  termination_by b => b.length
  decreasing_by simp only [List.length_drop, List.length_cons]; omega

/-- Reads `n` groups of an IPv6 address. -/
def ipv6 : Reading IPv6 := do
  let b ← bytes 16
  fun c => if h : b.length = 16 then some (IPv6.ofOctets b h, c) else none

/-- Reads data of the given type, of which there are `size` bytes. Types that only stand in
    questions have no data. Of a type that is not listed here, any bytes are data. -/
def dataOf (message : Bytes) (type : RecordType) (size : Nat) : Reading RecordData := do
  match type.number.toNat with
  | 1 =>
    let w ← byte
    let x ← byte
    let y ← byte
    let z ← byte
    return .address (.v4 ⟨w, x, y, z⟩)
  | 28 => return .address (.v6 (← ipv6))
  | 2 | 5 | 12 =>
    let _ ← name message
    return .other
  | 6 =>
    let _ ← name message
    let _ ← name message
    let _ ← bytes 20
    return .other
  | 13 =>
    let _ ← string
    let _ ← string
    return .other
  | 15 =>
    let _ ← word16
    let _ ← name message
    return .other
  | 16 =>
    strings ((← offset) + size) size
    return .other
  | 33 =>
    let _ ← bytes 6
    let _ ← name message
    return .other
  | 41 =>
    check (optionsOk size (← bytes size))
    return .other
  | 0 | 251 | 252 | 255 =>
    check false
    return .other
  | _ =>
    let _ ← bytes size
    return .other

/-- Reads a record. Options stand at the root, and data takes exactly the bytes it is said to. -/
def record (message : Bytes) : Reading Record := do
  let owner ← name message
  let type : RecordType := ⟨← word16⟩
  check (type != .opt || owner.labels.isEmpty)
  let cls ← word16
  let ttl ← word32
  let size := (← word16).toNat
  check (((← get).rest.take size).length == size)
  if size = 0 then return ⟨type, cls, ttl, .absent⟩
  let start ← offset
  let data ← dataOf message type size
  check ((← offset) == start + size)
  return ⟨type, cls, ttl, data⟩

/-- Reads a question. -/
def question (message : Bytes) : Reading Question := do
  let name ← name message
  let type ← word16
  let cls ← word16
  return ⟨name, ⟨type⟩, cls⟩

/-- Reads `n` things of a kind. -/
def times {α : Type} (one : Reading α) : Nat → Reading (List α)
  | 0 => pure []
  | n + 1 => do
    let x ← one
    let xs ← times one n
    return x :: xs

/-- Reads a whole message: queries, status requests, notifications and updates are known. -/
def message (m : Bytes) : Reading Message := do
  let id ← word16
  let hi ← byte
  let lo ← byte
  let opcode := hi.toNat / 8 % 16
  check (opcode == 0 || opcode == 2 || opcode == 4 || opcode == 5)
  let questionCount ← word16
  let answerCount ← word16
  let authorityCount ← word16
  let additionalCount ← word16
  let questions ← times (question m) questionCount.toNat
  let answers ← times (record m) answerCount.toNat
  let _ ← times (record m) authorityCount.toNat
  let additional ← times (record m) additionalCount.toNat
  check ((additional.countP fun r => r.type == .opt) ≤ 1)
  return {
    id
    response := hi ≥ 0x80
    recursionDesired := hi.toNat % 2 == 1
    lowCode := lo.toNat % 16
    questions, answers, additional }

end Reading

namespace Message

/-- The message that bytes hold. -/
def parse? (b : Bytes) : Option Message :=
  ((Reading.message b).run ⟨0, b⟩).map (·.1)

/-- The response code. -/
def code (m : Message) : Nat :=
  match m.additional.find? fun r => r.type == .opt with
  | some r => r.ttl.toNat / 16777216 * 16 + m.lowCode
  | none => m.lowCode

/-- The addresses among the answers, in order. Records of other types and classes are skipped. -/
def addresses (m : Message) : List Ip :=
  m.answers.filterMap fun r =>
    match r.data with
    | .address ip => if r.cls = internetClass then some ip else none
    | _ => none

end Message

end SocksProxy.Dns
