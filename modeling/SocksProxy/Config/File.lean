/-
  Settings in a configuration file: a TOML document with a table `server`.

  * `Settings.ofValue?` reads settings out of a value; a field that is not there keeps its default,
    and a field that is not known is passed over;
  * `ConfigFile.parse` reads a document and checks what it says, `ConfigFault` says what is wrong.
-/
import SocksProxy.Config.Settings
import SocksProxy.Text.Quoted
import SocksProxy.Toml.Document

namespace SocksProxy

namespace Toml.Value

/-- Whether the value can be read as a record: a table has its fields by name, a list has them in
    order, and a date has none. -/
def isRecord : Value → Bool
  | table _ | array _ | date => true
  | _ => false

/-- The field `name` of a record, which is the one at position `i`. -/
def field? (v : Value) (i : Nat) (name : String) : Option Value :=
  match v with
  | table entries => entries.lookup name
  | array items => items[i]?
  | _ => none

/-- Reads a field of a record; one that is not there has the value `d`. -/
def readField {α : Type} (v : Value) (i : Nat) (name : String) (d : α) (read : Value → Option α) :
    Option α :=
  match v.field? i name with
  | none => some d
  | some x => read x

/-- The text that a string holds. -/
def text? : Value → Option String
  | string s => some s
  | _ => none

/-- The truth value. -/
def bool? : Value → Option Bool
  | boolean b => some b
  | _ => none

/-- The integer as a port. -/
def port? : Value → Option UInt16
  | integer n => if 0 ≤ n ∧ n < 65536 then some (UInt16.ofNat n.toNat) else none
  | _ => none

end Toml.Value

open Toml (Value)

/-- The options that a value stands for. -/
def TcpOptions.ofValue? (v : Value) : Option TcpOptions := do
  guard v.isRecord
  let nodelay ← v.readField 0 "nodelay" false Value.bool?
  let keepalive ← v.readField 1 "keepalive" false Value.bool?
  return ⟨nodelay, keepalive⟩

/-- The settings that a value stands for. -/
def Settings.ofValue? (v : Value) : Option Settings := do
  guard v.isRecord
  let d : Settings := {}
  let listenIp ← v.readField 0 "listen_ip" d.listenIp fun x => x.text? >>= Ip.parse?
  let listenPort ← v.readField 1 "listen_port" d.listenPort Value.port?
  let username ← v.readField 2 "username" d.username Value.text?
  let password ← v.readField 3 "password" d.password Value.text?
  let resolution ← v.readField 4 "dns" d.resolution fun x => x.text? >>= Resolution.parse?
  let dnsPort ← v.readField 5 "dns_port" d.dnsPort Value.port?
  let clientTcp ← v.readField 6 "client_tcp" d.clientTcp TcpOptions.ofValue?
  let remoteTcp ← v.readField 7 "remote_tcp" d.remoteTcp TcpOptions.ofValue?
  return { listenIp, listenPort, username, password, resolution, dnsPort, clientTcp, remoteTcp }

/-- Why a configuration is refused. -/
inductive ConfigFault where
  | unreadable (path : String)
  | unparsable
  | invalid (why : Misfit)
  deriving DecidableEq, Repr

/-- The text of a fault. -/
def ConfigFault.message : ConfigFault → String
  | unreadable path => s!"Failed to read config file: {Text.quoted path}"
  | unparsable => "Failed to parse configuration"
  | invalid why => s!"Invalid configuration: {why.message}"

namespace ConfigFile

/-- The settings in a document, whether they fit together or not. -/
def read? (text : String) : Option Settings := do
  let entries ← Toml.parse? text
  let server ← entries.lookup "server"
  Settings.ofValue? server

/-- The settings in a document. -/
def parse (text : String) : Except ConfigFault Settings :=
  match read? text with
  | none => .error .unparsable
  | some s =>
    match s.check with
    | .error why => .error (.invalid why)
    | .ok () => .ok s

/-- The settings in the file at `path`, where `content` is its text if it could be read. -/
def load (path : String) (content : Option String) : Except ConfigFault Settings :=
  match content with
  | none => .error (.unreadable path)
  | some text => parse text

end ConfigFile

end SocksProxy
