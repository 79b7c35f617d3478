/-
  A run of the program: what it logs, and how it ends.

  * `launch` sets the log up, puts the settings together, and binds and runs a server;
  * `shownLevel` says which lines of the log are shown.
-/
import SocksProxy.CommandLine.Options
import SocksProxy.Server.Serve

namespace SocksProxy.CommandLine

/-- The name of the program. -/
def programName : String := "socksmux"

/-- The version of the program. -/
def programVersion : String := "0.1.0"

/-- Logs a line of the program itself. -/
def logInfo (text : String) : Dialogue ServerNet Unit :=
  Server.ask (.log none ⟨.info, .program, text⟩)

/-- The level up to which lines are shown; none are shown without one. The case of letters makes no
    difference. -/
def levelOf (o : Options) : Except String (Option LogLevel) :=
  let word := Text.lower o.logLevel
  match LogLevel.parse? word with
  | some level => .ok level
  | none => .error s!"Unknown log level: {word}"

/-- Runs the program. It ends well, or with the text of what went wrong. -/
def launch (turns : Nat) (o : Options) (content : Option String) :
    Dialogue ServerNet (Except String Unit) := do
  match levelOf o, o.settings content with
  | .error text, _ => return .error text
  | .ok _, .error fault => return .error fault.message
  | .ok _, .ok settings =>
    logInfo s!"{programName} v{programVersion}"
    match o.config with
    | some path => logInfo s!"Configuration loaded from: {Text.quoted path}"
    | none => pure ()
    match ← Server.bind settings with
    | .error failure => return .error failure.headline
    | .ok server =>
      match (← server.serve turns).1 with
      | .error failure => return .error failure.headline
      | .ok () => return .ok ()

/-- What is logged when a signal stops the program. -/
def signalLine (signal : String) : LogLine :=
  ⟨.info, .program, s!"Received {signal}, shutting down..."⟩

/-- The level of shown lines; none are shown with settings that are refused. -/
def shownLevel (o : Options) : Option LogLevel :=
  (levelOf o).toOption.join

/-- What the program says when it ends badly. -/
def errorText (text : String) : String :=
  s!"Error: {text}"

/-! ## Help -/

/-- The line about an option. -/
def helpLine (o : OptionName) : String :=
  let short := match o.short? with
    | some c => "-" ++ String.singleton c ++ ", "
    | none => "    "
  let value := (o.valueName?.map fun v => " <" ++ v ++ ">").getD ""
  "  " ++ short ++ "--" ++ o.long ++ value ++ "\n          " ++ o.description ++ "\n"

/-- How the program is called. -/
def usageLine : String :=
  s!"Usage: {programName} [OPTIONS]"

/-- What is said about wrong arguments. -/
def usageText : String :=
  "error: invalid arguments\n\n" ++ usageLine ++ "\n\nFor more information, try '--help'."

/-- What is said about the version. -/
def versionText : String :=
  s!"{programName} {programVersion}"

/-- The help. -/
def helpText : String :=
  "SOCKS5 proxy with CONNECT and UDP ASSOCIATE\n\n" ++ usageLine ++ "\n\nOptions:\n" ++
    String.join (OptionName.all.map helpLine)

end SocksProxy.CommandLine
