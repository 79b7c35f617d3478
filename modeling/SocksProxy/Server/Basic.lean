/-
  The state of a server, and how it is bound.

  * `Server.bind` opens the listener and the poller and chooses the name server.
-/
import SocksProxy.Dns.ResolverFile
import SocksProxy.Server.Net
import SocksProxy.Session.Basic

namespace SocksProxy

/-! ## The sessions -/

/-- The live sessions, each with its id; ids ascend. -/
abbrev Sessions : Type := List (SessionId × Session)

namespace Sessions

/-- The session with an id. -/
def find? (ss : Sessions) (id : SessionId) : Option Session :=
  ss.lookup id

/-- The sessions with one more, whose id is higher than all others. -/
def add (ss : Sessions) (id : SessionId) (s : Session) : Sessions :=
  ss ++ [(id, s)]

/-- The sessions without one. -/
def remove (ss : Sessions) (id : SessionId) : Sessions :=
  ss.filter fun entry => entry.1 != id

/-- The sessions with another state of one. -/
def replace (ss : Sessions) (id : SessionId) (s : Session) : Sessions :=
  ss.map fun entry => if entry.1 == id then (id, s) else entry

end Sessions

/-! ## The server -/

/-- A bound server. -/
structure Server where
  settings : Settings
  localAddress : Endpoint
  nameServer : Option Endpoint
  sessions : Sessions
  nextId : SessionId
  ids : Dns.QueryIds
  /-- Whether clients were left waiting because descriptors had run out. -/
  acceptStalled : Bool

namespace Server

/-- How many clients can wait to be accepted. -/
def backlog : Nat := 128

/-- The path of the resolver file. -/
def resolverPath : String := "/etc/resolv.conf"

/-- Makes a call. -/
def ask (c : ServerCall) : Dialogue ServerNet c.Answer :=
  .ask c .done

/-- Logs a line of the server itself. -/
def log (level : LogLevel) (text : String) : Dialogue ServerNet Unit :=
  ask (.log none ⟨level, .server, text⟩)

/-- Opens the listener; the failure of any call is the failure of all. -/
def openListener (addr : Endpoint) : Dialogue ServerNet (Except IoError Unit) := ExceptT.run do
  ExceptT.mk (ask (.openListener addr.ip.isV4))
  ExceptT.mk (ask .reuseAddress)
  ExceptT.mk (ask .nonblocking)
  ExceptT.mk (ask (.bindListener addr))
  ExceptT.mk (ask (.listen backlog))

/-- The name servers of the system. -/
def systemServers : Dialogue ServerNet (List Ip) := do
  match ← ask .resolverFile with
  | none => return []
  | some text =>
    match Dns.ResolverFile.nameservers? text with
    | some servers => return servers
    | none =>
      ask (.log none ⟨.warn, .resolverFile, "Failed to parse resolver configuration"⟩)
      return []

/-- Chooses the name server. The system is asked only if the settings leave it to the system. -/
def chooseNameServer (settings : Settings) : Dialogue ServerNet (Option Endpoint) := do
  match settings.resolution with
  | .auto =>
    let server := Resolution.auto.server? settings.dnsPort (← systemServers)
    if server.isNone then
      ask (.log none ⟨.warn, .resolution,
        s!"No nameserver found in {resolverPath}, domain resolution disabled"⟩)
    return server
  | resolution => return resolution.server? settings.dnsPort []

/-- Names the purpose of a call that can fail. -/
def purposed {α : Type} (purpose : Option String) (p : Dialogue ServerNet (Except IoError α)) :
    ExceptT Failure (Dialogue ServerNet) α :=
  ExceptT.mk do
    match ← p with
    | .ok a => return .ok a
    | .error e => return .error ⟨purpose, e⟩

/-- Binds a server. -/
def bind (settings : Settings) : Dialogue ServerNet (Except Failure Server) := ExceptT.run do
  let addr := settings.listenOn
  purposed (some s!"Failed to listen on {addr.text}") (openListener addr)
  let localAddress ← purposed none (ask .listenerAddress)
  purposed (some "Failed to create poll instance") (ask .openPoll)
  purposed none (ask .registerListener)
  purposed (some "Failed to create waker") (ask .openWaker)
  let nameServer ← ExceptT.lift (chooseNameServer settings)
  match nameServer with
  | some server => ExceptT.lift (log .debug s!"Resolving domain names via {server.text}")
  | none => ExceptT.lift (log .info "Domain name resolution disabled")
  let first ← ExceptT.lift (ask .firstQueryId)
  return { settings, localAddress, nameServer, sessions := [], nextId := 1, ids := ⟨first⟩,
           acceptStalled := false }

end Server

end SocksProxy
