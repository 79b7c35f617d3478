/-
  Resolving the name of a request.

  A query goes to the name server from a socket of its own. Only a datagram that comes from there
  and has the id of the query can answer it; others are passed over.
-/
import SocksProxy.Session.Association
import SocksProxy.Session.Connect

namespace SocksProxy.Handler

/-- Does what the client asked for, now that the addresses are known. -/
def fulfil (ctx : Context) (intent : Intent) (candidates : List Endpoint) : Handler Unit :=
  match intent with
  | .connect => startConnect ctx candidates
  | .associate => associate ctx

/-- The next id for a query. -/
def drawId : Handler UInt16 := do
  let w ← get
  let (id, ids) := w.ids.draw
  set { w with ids }
  return id

/-- Sends a query for a name from a socket of its own. -/
def startLookup (ctx : Context) (name : DomainName) (server : Endpoint) : Handler Unit := do
  match (← session).lookups.findFinIdx? (·.isNone) with
  | none => fail (.exhausted "DNS query slots")
  | some slot =>
    let socket : Socket := ⟨.query slot, 0⟩
    let id ← drawId
    match Dns.Query.ofText id name.text .a with
    | .error fault => fail (.resolution s!"{name.text}: {fault.message}")
    | .ok query =>
      attempt (Talk.openDatagram socket (Endpoint.wildcard server.ip))
      match ← talk (Talk.sendTo ctx.turns socket query.encode server) with
      | .ok true =>
        log .debug s!"Resolving {name.text} via {server.text}"
        update fun s => { s with lookups := s.lookups.set slot (some ⟨socket, server, id, name⟩) }
      | .ok false =>
        talk (Talk.deregister socket)
        fail (.resolution s!"{name.text}: query not sent, socket busy")
      | .error e =>
        talk (Talk.deregister socket)
        fail (.transport e)

/-- Starts to resolve the name of a request. -/
def resolve (ctx : Context) (name : DomainName) (request : PendingRequest) : Handler Unit := do
  match ctx.nameServer with
  | none =>
    reject ctx .addressTypeNotSupported
    fail (.resolution s!"{name.text}: domain resolution disabled")
  | some server =>
    match ← outcome (startLookup ctx name server) with
    | .ok () => update fun s => { s with pending := some request, stage := .resolving }
    | .error (.exhausted what) => log .warn s!"Resolution refused: {what} exhausted"
    | .error e =>
      reject ctx .hostUnreachable
      fail e

/-- Receives the answer to a query, if it has arrived. -/
def receiveAnswer (ctx : Context) (lookup : Lookup) : (turns : Nat) → Handler (Option (List Ip))
  | 0 => talk .stuck
  | turns + 1 => do
    match ← attempt (Talk.receiveFrom ctx.turns lookup.socket datagramSize) with
    | none => return none
    | some (datagram, source) =>
      if source ≠ lookup.server then
        talk (Talk.log .unmarked .debug .sockets s!"Ignoring DNS datagram from {source.text}")
        receiveAnswer ctx lookup turns
      else
        match Dns.addressesIn lookup.id datagram with
        | .ok addresses => return some addresses
        | .error (.idMismatch _ got) =>
          let shown := "0x" ++ Text.padded 16 4 got.toNat
          talk (Talk.log .unmarked .debug .sockets s!"Ignoring DNS response with stale id {shown}")
          receiveAnswer ctx lookup turns
        | .error fault => fail (.resolution s!"{lookup.name.text}: {fault.message}")

/-- What an event of a query has brought. -/
def lookupResult (ctx : Context) (lookup : Lookup) (r : Readiness) :
    Handler (Option (List Ip)) :=
  if r.error then fail (.resolution s!"{lookup.name.text}: query socket error")
  else receiveAnswer ctx lookup ctx.turns

/-- Goes on with the request whose name is resolved. -/
def onResolved (ctx : Context) (addresses : List Ip) : Handler Unit := do
  match (← session).pending with
  | none => return
  | some request =>
    update fun s => { s with pending := none }
    fulfil ctx request.intent (addresses.map (⟨·, request.port⟩))

/-- Handles an event of the query in a slot. -/
def onLookup (ctx : Context) (slot : Nat) (r : Readiness) : Handler Unit := do
  match (← session).lookups[slot]? with
  | some (some lookup) =>
    match ← outcome (lookupResult ctx lookup r) with
    | .ok none => return
    | .ok (some addresses) =>
      log .debug s!"Resolved {addresses.length} addresses"
      closeLookups
      onResolved ctx addresses
    | .error e =>
      closeLookups
      reject ctx .hostUnreachable
      fail e
  | _ => return

end SocksProxy.Handler
