/-
  The command line.

  Sockets are not opened here: the program is run on a network on which nothing happens and which
  asks it to stop at once. So a run checks the arguments and the configuration, and shows what the
  program logs while it starts and stops.
-/
import SocksProxy.CommandLine.Launch
import SocksProxy.Script.Network

namespace SocksProxy.CommandLine

/-- How many turns a loop may take. -/
def turns : Nat := 1152921504606846976

/-- The text of a file, if it can be read. -/
def readText (path : String) : IO (Option String) := do
  try
    return some (← IO.FS.readFile path)
  catch _ => return none

/-- Runs the program with these options, and returns its exit code. -/
def runWith (o : Options) : IO UInt32 := do
  let content ← match o.config with
    | some path => readText path
    | none => pure none
  let network := Script.Network.idle (some (signalLine "SIGTERM"))
  let (result, network) := (launch turns o content).run (I := ServerNet) Script.Network.answer network
  for m in network.trace.lines do
    if m.isShown (shownLevel o) then IO.println (if o.jsonLog then m.json else m.plain)
  match result with
  | some (.ok ()) => return 0
  | some (.error text) => IO.eprintln (errorText text); return 1
  | none => return 1

/-- Runs the program with these arguments, and returns its exit code. -/
def runArgs (args : List String) : IO UInt32 := do
  match Options.parse args with
  | .ok o => runWith o
  | .error .usage => IO.eprintln usageText; return 2
  | .error .help => IO.print helpText; return 0
  | .error .version => IO.println versionText; return 0

end SocksProxy.CommandLine

/-- The entry point of the program. -/
def main (args : List String) : IO UInt32 :=
  SocksProxy.CommandLine.runArgs args
