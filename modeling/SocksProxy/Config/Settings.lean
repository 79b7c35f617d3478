/-
  The settings of a server.

  * `Settings` has a default for everything;
  * `Settings.check` refuses settings that do not fit together, `Misfit` says why.
-/
import SocksProxy.Config.Resolution
import SocksProxy.Wire.Negotiation

namespace SocksProxy

/-- A switch of a stream socket. -/
inductive TcpSwitch where
  | nodelay
  | keepalive
  deriving DecidableEq, Repr

/-- The switches to turn on for the streams of one side. -/
structure TcpOptions where
  nodelay : Bool := false
  keepalive : Bool := false
  deriving DecidableEq, Repr

namespace TcpOptions

/-- The switches that are on, in the order in which they are set. A switch that is off is left to
    the system. -/
def switches (o : TcpOptions) : List TcpSwitch :=
  (if o.nodelay then [.nodelay] else []) ++ if o.keepalive then [.keepalive] else []

/-- The switches that are on in either. -/
def or (o p : TcpOptions) : TcpOptions :=
  ⟨o.nodelay || p.nodelay, o.keepalive || p.keepalive⟩

end TcpOptions

/-- What can be set. -/
structure Settings where
  listenIp : Ip := .v4 IPv4.unspecified
  listenPort : UInt16 := 1080
  /-- Empty together with the password if clients need not authenticate. -/
  username : String := ""
  password : String := ""
  resolution : Resolution := .auto
  dnsPort : UInt16 := 53
  /-- The options of accepted streams. -/
  clientTcp : TcpOptions := {}
  /-- The options of outbound streams. -/
  remoteTcp : TcpOptions := {}
  deriving DecidableEq, Repr

/-- Why settings do not fit together. -/
inductive Misfit where
  | halfCredentials
  | longCredentials
  | noDnsPort
  deriving DecidableEq, Repr

/-- The text of a misfit. -/
def Misfit.message : Misfit → String
  | halfCredentials => "Username and password must be set together"
  | longCredentials => "Username and password are limited to 255 bytes"
  | noDnsPort => "DNS port must be non-zero"

namespace Settings

/-- Where clients connect to. -/
def listenOn (s : Settings) : Endpoint :=
  ⟨s.listenIp, s.listenPort⟩

/-- Whether clients have to authenticate. -/
def hasCredentials (s : Settings) : Bool :=
  !s.username.isEmpty || !s.password.isEmpty

/-- The one method that clients have to agree to. -/
def authMethod (s : Settings) : AuthMethod :=
  if s.hasCredentials then .password else .none

/-- Refuses settings that do not fit together. -/
def check (s : Settings) : Except Misfit Unit :=
  if s.username.isEmpty != s.password.isEmpty then .error .halfCredentials
  else if s.username.utf8ByteSize > 255 ∨ s.password.utf8ByteSize > 255 then
    .error .longCredentials
  else
    match s.resolution with
    | .server _ => if s.dnsPort = 0 then .error .noDnsPort else .ok ()
    | _ => .ok ()

end Settings

end SocksProxy
