/-
  Poll tokens: the 64-bit numbers under which sockets are registered.

  Tokens 0 and 1 belong to the listener and the waker. A socket of a session has the session's id
  above the low three bits, and its role in them.

  * `Key.token` gives the token of a socket of a session, `Key.ofToken?` reads it back.
-/

namespace SocksProxy

/-- The number of a session; ids start at 1 and are never used twice. They are not bounded here. Where
    tokens have to tell sockets apart it matters that a token of 64 bits has room for an id below `2 ^ 61`
    only: the theorems on tokens (`tokens_identify_sockets`) and on the table of the poller
    (`registry_matches_ownership`) say so. -/
abbrev SessionId := Nat

/-- What a socket is to its session. -/
inductive Role where
  /-- The connection of the client. -/
  | client
  /-- The outbound stream, or the socket of an association that faces the remote side. -/
  | remote
  /-- The socket of an association that faces the client. -/
  | relay
  /-- The query to the name server in this slot. -/
  | query (slot : Nat)
  deriving DecidableEq, Repr

namespace Role

/-- How many queries a session can have out at a time. -/
def maxQueries : Nat := 5

/-- The low bits of a role's token. -/
def slot : Role → Nat
  | client => 0
  | remote => 1
  | relay => 2
  | query i => 3 + i

/-- The role with these low bits, if there is one. -/
def ofSlot? (n : Nat) : Option Role :=
  if n = 0 then some client
  else if n = 1 then some remote
  else if n = 2 then some relay
  else if n < 3 + maxQueries then some (query (n - 3))
  else none

end Role

/-- A socket of a session. -/
structure Key where
  session : SessionId
  role : Role
  deriving DecidableEq, Repr

/-- A poll token. -/
abbrev Token := UInt64

/-- The token of the listener. -/
def Token.listener : Token := 0

/-- The token of the waker. -/
def Token.waker : Token := 1

namespace Key

/-- The token of a socket. -/
def token (k : Key) : Token :=
  UInt64.ofNat k.session <<< 3 ||| UInt64.ofNat k.role.slot

/-- The socket with this token. Ids start at 1, so the lowest tokens stand for none. -/
def ofToken? (t : Token) : Option Key :=
  if t >>> 3 < 1 then none
  else (Role.ofSlot? (t &&& 7).toNat).map fun role => ⟨(t >>> 3).toNat, role⟩

end Key

end SocksProxy
