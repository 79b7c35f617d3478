/-
  Queries for the addresses of a name, and what a name server answers.

  * `Query.encode` writes a recursive query with one question;
  * `addressesIn` reads the addresses out of a response, or says what is wrong with it: first that
    it is malformed, then a foreign id, then that it is no response, then a failure of the server,
    then that it has no address;
  * `QueryIds` counts the ids of queries up.
-/
import SocksProxy.Dns.Message
import SocksProxy.Text.Digits

namespace SocksProxy.Dns

/-! ## What can go wrong -/

/-- A fault of a query or of its answer. -/
inductive Fault where
  | emptyName
  | badName (name : String)
  /-- A name that fits the rules of names but not into a message. -/
  | nameTooLong
  | noQuestion
  | malformed
  | idMismatch (expected got : UInt16)
  | notResponse
  | serverFailure (code : Nat)
  | noAnswer
  deriving DecidableEq, Repr

/-- The name of a response code. -/
def codeText : Nat → String
  | 0 => "No Error"
  | 1 => "Form Error"
  | 2 => "Server Failure"
  | 3 => "Non-Existent Domain"
  | 4 => "Not Implemented"
  | 5 => "Query Refused"
  | 6 => "Name should not exist"
  | 7 => "RR Set should not exist"
  | 8 => "RR Set does not exist"
  | 9 => "Not authorized"
  | 10 => "Name not in zone"
  | 16 => "Bad option versions"
  | 17 => "Key not recognized"
  | 18 => "Signature out of time window"
  | 19 => "Bad TKEY mode"
  | 20 => "Duplicate key name"
  | 21 => "Algorithm not supported"
  | 22 => "Bad truncation"
  | 23 => "Bad server cookie"
  | _ => "Unknown response code"

/-- The text of a fault. What exactly is wrong with a name or a message is not told: `badName`,
    `nameTooLong` and `malformed` have fixed words in the place of hickory-proto's own. -/
def Fault.message : Fault → String
  | emptyName => "Invalid query name: empty name"
  | badName name => s!"Invalid query name: {name}: not a domain name"
  | nameTooLong => "Malformed DNS message: name too long"
  | noQuestion => "Invalid query name: query has no question"
  | malformed => "Malformed DNS message: not a message"
  | idMismatch expected got =>
    "Response id 0x" ++ Text.padded 16 4 got.toNat ++ " does not match query id 0x" ++
      Text.padded 16 4 expected.toNat
  | notResponse => "Message is not a response"
  | serverFailure code => s!"Server returned {codeText code}"
  | noAnswer => "No addresses in response"

/-! ## Queries -/

/-- A query about one name. -/
structure Query where
  id : UInt16
  name : Name
  type : RecordType
  deriving DecidableEq, Repr

namespace Query

/-- The query as bytes: recursion is desired, and there is one question in the Internet class. -/
def encode (q : Query) : Bytes :=
  Bytes.be16 q.id ++ [1, 0, 0, 1, 0, 0, 0, 0, 0, 0] ++ q.name.encode ++
    Bytes.be16 q.type.number ++ Bytes.be16 internetClass

/-- The text without one dot at its end. -/
def dropDot (s : List Char) : List Char :=
  if s.getLast? = some '.' then s.dropLast else s

/-- The query for the name that a text stands for. A dot at the end makes no difference. -/
def ofText (id : UInt16) (text : String) (type : RecordType) : Except Fault Query :=
  let s := dropDot text.toList
  if s.isEmpty then .error .emptyName
  else
    match Name.ofChars? s with
    | none => .error (.badName text)
    | some name => if name.size < 255 then .ok ⟨id, name, type⟩ else .error .nameTooLong

end Query

/-! ## Answers -/

/-- The addresses in the response to the query with this id. -/
def addressesIn (id : UInt16) (response : Bytes) : Except Fault (List Ip) :=
  match Message.parse? response with
  | none => .error .malformed
  | some m =>
    if m.id ≠ id then .error (.idMismatch id m.id)
    else if !m.response then .error .notResponse
    else if m.code ≠ 0 then .error (.serverFailure m.code)
    else if m.addresses.isEmpty then .error .noAnswer
    else .ok m.addresses

/-! ## Ids -/

/-- Where the ids of queries come from. -/
structure QueryIds where
  next : UInt16
  deriving DecidableEq, Repr

/-- The next id; after the greatest one comes zero. -/
def QueryIds.draw (ids : QueryIds) : UInt16 × QueryIds :=
  (ids.next, ⟨ids.next + 1⟩)

end SocksProxy.Dns
