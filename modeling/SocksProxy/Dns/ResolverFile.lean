/-
  The resolver file of the system, as far as it names servers.

  Each line holds a directive, and a semicolon or a hash starts a comment. One line that breaks the
  rules makes the whole file worthless.

  * `nameservers?` reads the servers out of the text of a file;
  * `nameservers` takes a worthless file for one that names no servers.
-/
import SocksProxy.Net.IpText
import SocksProxy.Text.Alphanumeric
import SocksProxy.Text.Blank

namespace SocksProxy.Dns.ResolverFile

open Text

/-- The parts of a text between the occurrences of a character. -/
def splitAt (sep : Char) : List Char → List (List Char)
  | [] => [[]]
  | c :: s =>
    if c = sep then [] :: splitAt sep s
    else
      match splitAt sep s with
      | [] => [[c]]
      | part :: parts => (c :: part) :: parts

/-- An address, where an IPv6 address may name a zone behind a percent sign. The zone is dropped. -/
def server? (s : List Char) : Option Ip :=
  match splitAt '%' s with
  | [] => none
  | address :: zones =>
    match Ip.ofChars? address, zones with
    | some ip, [] => some ip
    | some (.v6 ip), zone :: _ => if !zone.isEmpty && zone.all isAlphanumeric then some (.v6 ip) else none
    | _, _ => none

/-- Options that have a number. -/
def numberOptions : List String := ["ndots", "timeout", "attempts"]

/-- Options that may have a value, of which nothing is asked. -/
def plainOptions : List String :=
  ["debug", "rotate", "no-check-names", "inet6", "ip6-bytestring", "ip6-dotint", "no-ip6-dotint",
   "edns0", "single-request", "single-request-reopen", "no-reload", "trust-ad", "no-tld-query",
   "use-vc", "no-aaaa"]

/-- Whether a text is a number below `2 ^ 32`; a plus sign may stand in front. -/
def isNumber32 (s : List Char) : Bool :=
  let digits := match s with
    | '+' :: digits => digits
    | digits => digits
  match readNumber 10 digits.length true digits with
  | some (n, []) => n < 4294967296
  | _ => false

/-- Whether a word is an option. -/
def isOption (word : List Char) : Bool :=
  let name := String.ofList (word.takeWhile (· ≠ ':'))
  let value := (word.dropWhile (· ≠ ':')).drop 1
  if numberOptions.contains name then word.contains ':' && isNumber32 value
  else plainOptions.contains name

/-- Whether two addresses are of one family. -/
def sameFamily (a b : Ip) : Bool :=
  a.isV4 == b.isV4

/-- Whether a word is an address to sort by: not `0.0.0.0`, and perhaps with a mask of its family
    behind a slash. -/
def isSortAddress (word : List Char) : Bool :=
  match Ip.ofChars? (word.takeWhile (· ≠ '/')), word.dropWhile (· ≠ '/') with
  | none, _ => false
  | some ip, [] => ip != .v4 IPv4.unspecified
  | some ip, _ :: mask => ip != .v4 IPv4.unspecified && (Ip.ofChars? mask).any (sameFamily ip)

/-- The servers that a line names; `none` for a line that breaks the rules. -/
def lineServers? (line : List Char) : Option (List Ip) :=
  let keep (p : Bool) : Option (List Ip) := if p then some [] else none
  match words (line.takeWhile fun c => c ≠ ';' ∧ c ≠ '#') with
  | [] => some []
  | directive :: args =>
    match String.ofList directive with
    | "nameserver" =>
      match args with
      | [arg] => (server? arg).map ([·])
      | _ => none
    | "domain" => keep (args.length == 1)
    | "search" | "lookup" => some []
    | "sortlist" => keep (args.all isSortAddress)
    | "family" => keep (args.all fun w => String.ofList w == "inet4" || String.ofList w == "inet6")
    | "options" => keep (args.all isOption)
    | _ => none

/-- The servers that a file names, in order. -/
def nameservers? (text : String) : Option (List Ip) :=
  ((splitAt '\n' text.toList).mapM lineServers?).map List.flatten

/-- The servers that a file names; none when it breaks the rules. -/
def nameservers (text : String) : List Ip :=
  (nameservers? text).getD []

end SocksProxy.Dns.ResolverFile
