/-
  Where domain names are resolved.

  * `Resolution.text` and `Resolution.parse?` write and read the setting;
  * `Resolution.server?` is the name server that it stands for.
-/
import SocksProxy.Net.IpText
import SocksProxy.Text.Blank
import SocksProxy.Text.LowerCase

namespace SocksProxy

/-- Who resolves domain names. -/
inductive Resolution where
  /-- The first name server that the system names. -/
  | auto
  /-- Nobody: domain names are refused. -/
  | disabled
  | server (ip : Ip)
  deriving DecidableEq, Repr

namespace Resolution

/-- The setting as text. -/
def text : Resolution → String
  | auto => "auto"
  | disabled => "none"
  | server ip => ip.text

/-- The setting that a text stands for. White space around it and the case of its letters make no
    difference. -/
def parse? (s : String) : Option Resolution :=
  let word := (Text.lower (String.ofList (Text.trim s.toList)))
  if word = "auto" then some auto
  else if word = "none" then some disabled
  else (Ip.parse? word).map server

/-- What is said about a text that is no setting. -/
def refusal (s : String) : String :=
  s!"Invalid DNS setting '{s}': expected auto, none or an IP"

/-- The name server to ask, where `systemServers` are those that the system names. -/
def server? (r : Resolution) (port : UInt16) (systemServers : List Ip) : Option Endpoint :=
  match r with
  | auto => systemServers.head?.map (⟨·, port⟩)
  | disabled => none
  | server ip => some ⟨ip, port⟩

end Resolution

end SocksProxy
