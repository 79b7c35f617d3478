/-
  The arguments of the command line.

  An option has a long name, some have a short one too, and all but switches take a value. The first
  argument that is wrong, or that asks for help or the version, decides.

  * `Options.parse` reads the arguments;
  * `Options.settings` lets the options override the settings of a configuration file.
-/
import SocksProxy.Config.File

namespace SocksProxy.CommandLine

/-! ## Options -/

/-- What can be given on the command line. -/
structure Options where
  config : Option String := none
  listenIp : Option Ip := none
  listenPort : Option UInt16 := none
  username : Option String := none
  password : Option String := none
  resolution : Option Resolution := none
  dnsPort : Option UInt16 := none
  clientTcp : TcpOptions := {}
  remoteTcp : TcpOptions := {}
  logLevel : String := "off"
  jsonLog : Bool := false
  deriving DecidableEq, Repr

/-- The names of options. -/
inductive OptionName where
  | config
  | listenIp
  | listenPort
  | username
  | password
  | dnsIp
  | dnsPort
  | clientNodelay
  | clientKeepalive
  | remoteNodelay
  | remoteKeepalive
  | logLevel
  | jsonLog
  | help
  | version
  deriving DecidableEq, Repr

namespace OptionName

/-- Every name. -/
def all : List OptionName :=
  [config, listenIp, listenPort, username, password, dnsIp, dnsPort, clientNodelay,
   clientKeepalive, remoteNodelay, remoteKeepalive, logLevel, jsonLog, help, version]

/-- The name behind two dashes. -/
def long : OptionName → String
  | config => "config"
  | listenIp => "listen-ip"
  | listenPort => "listen-port"
  | username => "username"
  | password => "password"
  | dnsIp => "dns-ip"
  | dnsPort => "dns-port"
  | clientNodelay => "client-tcp-nodelay"
  | clientKeepalive => "client-tcp-keepalive"
  | remoteNodelay => "remote-tcp-nodelay"
  | remoteKeepalive => "remote-tcp-keepalive"
  | logLevel => "log-level"
  | jsonLog => "json-log"
  | help => "help"
  | version => "version"

/-- The letter behind one dash. -/
def short? : OptionName → Option Char
  | config => some 'c'
  | logLevel => some 'l'
  | help => some 'h'
  | version => some 'V'
  | _ => none

/-- What the value of an option is called, if it takes one. -/
def valueName? : OptionName → Option String
  | config => some "CONFIG"
  | listenIp => some "LISTEN_IP"
  | listenPort => some "LISTEN_PORT"
  | username => some "USERNAME"
  | password => some "PASSWORD"
  | dnsIp => some "DNS_IP"
  | dnsPort => some "DNS_PORT"
  | logLevel => some "LOG_LEVEL"
  | _ => none

/-- Whether an option takes a value. -/
def takesValue (o : OptionName) : Bool :=
  o.valueName?.isSome

/-- What an option is for. -/
def description : OptionName → String
  | config => "Path to a TOML configuration file; flags below override it"
  | listenIp => "IP address to listen on [default: 0.0.0.0]"
  | listenPort => "Port to listen on [default: 1080]"
  | username => "Username required from clients"
  | password => "Password required from clients"
  | dnsIp => "DNS server: auto, none or an IP address [default: auto]"
  | dnsPort => "DNS server port [default: 53]"
  | clientNodelay => "Set TCP_NODELAY on client connections"
  | clientKeepalive => "Set SO_KEEPALIVE on client connections"
  | remoteNodelay => "Set TCP_NODELAY on remote connections"
  | remoteKeepalive => "Set SO_KEEPALIVE on remote connections"
  | logLevel => "Log level (off, error, warning, info, debug, trace) [default: off]"
  | jsonLog => "Enable JSON logging format"
  | help => "Print help"
  | version => "Print version"

end OptionName

/-! ## Reading arguments -/

/-- Why no options are read. -/
inductive Stop where
  /-- An argument is wrong. -/
  | usage
  | help
  | version
  deriving DecidableEq, Repr

/-- A number for a port; a sign may stand in front. -/
def port? (s : String) : Option UInt16 :=
  let (negative, digits) := match s.toList with
    | '+' :: digits => (false, digits)
    | '-' :: digits => (true, digits)
    | digits => (false, digits)
  match Text.readNumber 10 digits.length true digits with
  | some (n, []) => if 65535 < n ∨ (negative ∧ n ≠ 0) then none else some (UInt16.ofNat n)
  | _ => none

/-- The options with one more, for an option that takes a value. -/
def Options.withValue (o : Options) (name : OptionName) (value : String) : Option Options :=
  match name with
  | .config => if value.isEmpty then none else some { o with config := some value }
  | .listenIp => (Ip.parse? value).map fun ip => { o with listenIp := some ip }
  | .listenPort => (port? value).map fun port => { o with listenPort := some port }
  | .username => some { o with username := some value }
  | .password => some { o with password := some value }
  | .dnsIp => (Resolution.parse? value).map fun r => { o with resolution := some r }
  | .dnsPort => (port? value).map fun port => { o with dnsPort := some port }
  | .logLevel => some { o with logLevel := value }
  | _ => none

/-- The options with a switch turned on. -/
def Options.withSwitch (o : Options) (name : OptionName) : Except Stop Options :=
  match name with
  | .clientNodelay => .ok { o with clientTcp := { o.clientTcp with nodelay := true } }
  | .clientKeepalive => .ok { o with clientTcp := { o.clientTcp with keepalive := true } }
  | .remoteNodelay => .ok { o with remoteTcp := { o.remoteTcp with nodelay := true } }
  | .remoteKeepalive => .ok { o with remoteTcp := { o.remoteTcp with keepalive := true } }
  | .jsonLog => .ok { o with jsonLog := true }
  | .help => .error .help
  | .version => .error .version
  | _ => .error .usage

/-- What was read so far. No option is given twice. -/
structure Progress where
  options : Options
  given : List OptionName

/-- Remembers that an option is given. -/
def Progress.give (p : Progress) (name : OptionName) : Except Stop Progress :=
  if name ∈ p.given then .error .usage else .ok { p with given := name :: p.given }

/-- Reads an option with a value. -/
def Progress.value (p : Progress) (name : OptionName) (value : String) : Except Stop Progress :=
  match p.options.withValue name value with
  | none => .error .usage
  | some options => { p with options }.give name

/-- Reads a switch. -/
def Progress.switch (p : Progress) (name : OptionName) : Except Stop Progress := do
  let options ← p.options.withSwitch name
  { p with options }.give name

/-- What an argument looks like. -/
inductive Word where
  /-- Two dashes alone. -/
  | escape
  | long (name : String) (value : Option String)
  | shorts (letters : List Char)
  | plain (text : String)
  deriving DecidableEq, Repr

/-- What an argument looks like. -/
def Word.of (arg : String) : Word :=
  match arg.toList with
  | ['-', '-'] => .escape
  | '-' :: '-' :: cs =>
    let name := String.ofList (cs.takeWhile (· ≠ '='))
    match cs.dropWhile (· ≠ '=') with
    | _ :: value => .long name (some (String.ofList value))
    | [] => .long name none
  | '-' :: c :: cs => .shorts (c :: cs)
  | _ => .plain arg

/-- What is still missing behind the letters of an argument: nothing, or the value of an option. -/
abbrev Missing : Type := Option OptionName

/-- Reads letters behind one dash. Switches can be joined; behind the letter of an option that takes
    a value stands its value, perhaps after an equals sign. -/
def readLetters : List Char → Progress → Except Stop (Progress × Missing)
  | [], p => .ok (p, none)
  | c :: cs, p =>
    match OptionName.all.find? fun o => o.short? == some c with
    | none => .error .usage
    | some name =>
      if !name.takesValue then do readLetters cs (← p.switch name)
      else
        match cs with
        | [] => .ok (p, some name)
        | '=' :: value => do return (← p.value name (String.ofList value), none)
        | value => do return (← p.value name (String.ofList value), none)

/-- Reads an option by its long name. -/
def readLong (name : String) (value : Option String) (p : Progress) :
    Except Stop (Progress × Missing) :=
  match OptionName.all.find? fun o => o.long == name with
  | none => .error .usage
  | some name =>
    match name.takesValue, value with
    | true, some v => do return (← p.value name v, none)
    | true, none => .ok (p, some name)
    | false, some _ => .error .usage
    | false, none => do return (← p.switch name, none)

/-- Reads arguments, where the value of an option may be missing. -/
def readAll : List String → Progress → Missing → Except Stop Options
  | [], p, none => .ok p.options
  | [], _, some _ => .error .usage
  | arg :: rest, p, some name =>
    match Word.of arg with
    | .plain v => do readAll rest (← p.value name v) none
    | _ => .error .usage
  | arg :: rest, p, none =>
    match Word.of arg with
    | .plain _ => .error .usage
    | .escape => if rest.isEmpty then .ok p.options else .error .usage
    | .long name value => do
      let (p, missing) ← readLong name value p
      readAll rest p missing
    | .shorts letters => do
      let (p, missing) ← readLetters letters p
      readAll rest p missing

namespace Options

/-- Reads the arguments. -/
def parse (args : List String) : Except Stop Options :=
  readAll args ⟨{}, []⟩ none

/-! ## Settings -/

/-- The settings with every option that is given in place of what was set. -/
def override (o : Options) (s : Settings) : Settings where
  listenIp := o.listenIp.getD s.listenIp
  listenPort := o.listenPort.getD s.listenPort
  username := o.username.getD s.username
  password := o.password.getD s.password
  resolution := o.resolution.getD s.resolution
  dnsPort := o.dnsPort.getD s.dnsPort
  clientTcp := s.clientTcp.or o.clientTcp
  remoteTcp := s.remoteTcp.or o.remoteTcp

/-- The settings to run with, where `content` is the text of the configuration file if it could be
    read. The file has to be valid by itself. -/
def settings (o : Options) (content : Option String) : Except ConfigFault Settings := do
  let base ← match o.config with
    | some path => ConfigFile.load path content
    | none => .ok {}
  let s := o.override base
  match s.check with
  | .error why => .error (.invalid why)
  | .ok () => .ok s

end Options

end SocksProxy.CommandLine
