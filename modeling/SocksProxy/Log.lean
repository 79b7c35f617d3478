/-
  What is logged: a level, the part of the program that says it, and a text, perhaps marked with a
  session and its stage.

  * `MarkedLine.isShown`, `MarkedLine.plain` and `MarkedLine.json` say which lines are shown, and
    how.
-/
import SocksProxy.Session.Stage
import SocksProxy.Text.Terminal

namespace SocksProxy

/-- How important a line is. -/
inductive LogLevel where
  | error
  | warn
  | info
  | debug
  | trace
  deriving DecidableEq, Repr

namespace LogLevel

/-- The rank of a level; the most important has the lowest. -/
def rank : LogLevel → Nat
  | error => 1
  | warn => 2
  | info => 3
  | debug => 4
  | trace => 5

/-- The name of a level. -/
def text : LogLevel → String
  | error => "ERROR"
  | warn => "WARN"
  | info => "INFO"
  | debug => "DEBUG"
  | trace => "TRACE"

/-- The level that a setting stands for; `off` and `none` stand for no level at all. -/
def parse? (s : String) : Option (Option LogLevel) :=
  match s with
  | "off" | "none" => some none
  | "trace" => some trace
  | "debug" => some debug
  | "info" => some info
  | "warn" | "warning" => some warn
  | "error" => some error
  | _ => none

end LogLevel

/-- The part of the program that logs. -/
inductive LogSource where
  | program
  | server
  | session
  | sockets
  | resolution
  | resolverFile
  deriving DecidableEq, Repr

/-- The name under which a part of the program logs. -/
def LogSource.text : LogSource → String
  | program => "socksmux"
  | server => "socksmux::server"
  | session => "socksmux::server::session"
  | sockets => "socksmux::server::roles"
  | resolution => "socksmux::dns"
  | resolverFile => "socksmux::dns::resolv"

/-- One line of the log. -/
structure LogLine where
  level : LogLevel
  source : LogSource
  text : String
  deriving DecidableEq, Repr

/-- A line of the log with its marks. -/
structure MarkedLine where
  session : Option Nat
  stage : Option Stage
  line : LogLine
  deriving DecidableEq, Repr

namespace MarkedLine

/-- Whether a line is shown, where `level` is the least important one that is. -/
def isShown (level : Option LogLevel) (m : MarkedLine) : Bool :=
  level.any fun level => m.line.level.rank ≤ level.rank

/-- The text of a line for a terminal, with its marks behind it. -/
def text (m : MarkedLine) : String :=
  Text.tame m.line.text ++ (m.session.map fun id => s!" session={id}").getD "" ++
    (m.stage.map fun stage => s!" state={stage.text}").getD ""

/-- A line as plain text. -/
def plain (m : MarkedLine) : String :=
  m.line.level.text ++ " " ++ m.line.source.text ++ ": " ++ m.text

/-- How a character stands in a string of JSON. -/
def jsonChar (c : Char) : String :=
  if c = '"' then "\\\""
  else if c = '\\' then "\\\\"
  else if c.toNat < 32 then "\\u" ++ Text.padded 16 4 c.toNat
  else String.singleton c

/-- A text as a string of JSON. -/
def jsonString (s : String) : String :=
  "\"" ++ String.join (s.toList.map jsonChar) ++ "\""

/-- The fields of an object of JSON. -/
def jsonObject (fields : List (String × String)) : String :=
  "\x7b" ++ String.intercalate "," (fields.map fun (k, v) => jsonString k ++ ":" ++ v) ++ "\x7d"

/-- A line as an object of JSON, with its marks beside its message. -/
def json (m : MarkedLine) : String :=
  let marks := (m.session.map fun id => [("session", toString id)]).getD [] ++
    (m.stage.map fun stage => [("state", jsonString stage.text)]).getD []
  jsonObject [("level", jsonString m.line.level.text),
    ("fields", jsonObject (("message", jsonString m.line.text) :: marks)),
    ("target", jsonString m.line.source.text)]

end MarkedLine

end SocksProxy
