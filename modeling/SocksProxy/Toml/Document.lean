/-
  TOML documents: keys, values, and the tables that headers and dotted keys build.

  A table is defined once. A header may define a table that so far only its subtables were named
  of; a dotted key may only extend tables that dotted keys built.

  * `Draft` is a table that is being built, `Draft.define` and its kin extend one;
  * `parse?` reads a document.
-/
import SocksProxy.Toml.Scalar

namespace SocksProxy.Toml

open Scan

/-! ## Keys and values -/

/-- How deep values can nest, and how long a dotted key can be. -/
def maxDepth : Nat := 79

/-- Reads one part of a key. -/
def simpleKey : Scan String := do
  match ← peek with
  | some '"' => return String.ofList (← Scalar.basic)
  | some '\'' => return String.ofList (← Scalar.literal)
  | _ =>
    let cs ← takeWhile fun c =>
      ('a' ≤ c && c ≤ 'z') || ('A' ≤ c && c ≤ 'Z') || ('0' ≤ c && c ≤ '9') || c == '_' || c == '-'
    check (!cs.isEmpty)
    return String.ofList cs

/-- Reads a key of at most `n` parts, with blanks around each. -/
def key : Nat → Scan (List String)
  | 0 => fail
  | n + 1 => do
    blanks
    let k ← simpleKey
    blanks
    if ← accept ['.'] then return k :: (← key n) else return [k]

/-- A table that is being built. -/
inductive Draft where
  | value (v : Value)
  /-- A table; `implicit` as long as only its subtables were named, `dotted` if dotted keys built
      it. -/
  | table (implicit dotted : Bool) (entries : List (String × Draft))
  /-- A list of tables; the last one is still being built. -/
  | tables (done : List (List (String × Draft))) (last : List (String × Draft))

namespace Draft

/-- The entries with the value of `k` put in, in its old place if it has one. -/
def insert (k : String) (d : Draft) : List (String × Draft) → List (String × Draft)
  | [] => [(k, d)]
  | (k', d') :: rest => if k' == k then (k, d) :: rest else (k', d') :: insert k d rest

/-- Changes the table at the end of a path, building what is missing on the way. Whether the path
    is that of a dotted key is told by `dotted`. -/
def update (dotted : Bool)
    (f : (isDotted : Bool) → List (String × Draft) → Option (List (String × Draft))) :
    List String → (isDotted : Bool) → List (String × Draft) → Option (List (String × Draft))
  | [], isDotted, entries => f isDotted entries
  | k :: path, _, entries =>
    match entries.lookup k with
    | none => (update dotted f path dotted []).map fun t => insert k (.table true dotted t) entries
    | some (.value _) => none
    | some (.tables done last) =>
      (update dotted f path false last).map fun t => insert k (.tables done t) entries
    | some (.table isImplicit isDotted t) =>
      if dotted && !isImplicit then none
      else (update dotted f path isDotted t).map fun t =>
        insert k (.table isImplicit isDotted t) entries

/-- Puts in the value of a dotted key. -/
def assign (path : List String) (v : Draft) (isDotted : Bool) (entries : List (String × Draft)) :
    Option (List (String × Draft)) :=
  update true (fun isDotted entries =>
      match path.getLast? with
      | none => none
      | some k =>
        if isDotted == path.dropLast.isEmpty then none
        else if (entries.lookup k).isSome then none
        else some (insert k v entries))
    path.dropLast isDotted entries

/-- Defines the table of a header. -/
def define (path : List String) (entries : List (String × Draft)) :
    Option (List (String × Draft)) :=
  update false (fun _ entries =>
      match path.getLast? with
      | none => none
      | some k =>
        match entries.lookup k with
        | none => some (insert k (.table false false []) entries)
        | some (.table true false t) => some (insert k (.table false false t) entries)
        | some _ => none)
    path.dropLast false entries

/-- Adds a table to the list of a header. -/
def append (path : List String) (entries : List (String × Draft)) :
    Option (List (String × Draft)) :=
  update false (fun _ entries =>
      match path.getLast? with
      | none => none
      | some k =>
        match entries.lookup k with
        | none => some (insert k (.tables [] []) entries)
        | some (.tables done last) => some (insert k (.tables (done ++ [last]) []) entries)
        | some _ => none)
    path.dropLast false entries

mutual

/-- The value that a draft stands for. -/
def toValue : Draft → Value
  | value v => v
  | table _ _ entries => .table (toEntries entries)
  | tables done last => .array (toTables done ++ [.table (toEntries last)])

/-- The values of the entries of a table. -/
def toEntries : List (String × Draft) → List (String × Value)
  | [] => []
  | (k, d) :: rest => (k, toValue d) :: toEntries rest

/-- The tables of a list. -/
def toTables : List (List (String × Draft)) → List Value
  | [] => []
  | t :: rest => .table (toEntries t) :: toTables rest

end

end Draft

/-- Reads the values of an array, at most `n` of them, up to its end. -/
def items (value : Scan Value) : Nat → Scan (List Value)
  | 0 => fail
  | n + 1 => do
    gap (n + 1)
    if ← accept [']'] then return []
    let v ← value
    gap (n + 1)
    if ← accept [','] then return v :: (← items value n)
    expect [']']
    return [v]

/-- Reads the entries of an inline table, at most `n` of them, up to its end. -/
def entries (value : Scan Value) : Nat → List (String × Draft) → Scan (List (String × Draft))
  | 0, _ => fail
  | n + 1, t => do
    let path ← key maxDepth
    expect ['=']
    blanks
    let v ← value
    blanks
    match Draft.assign path (.value v) false t with
    | none => fail
    | some t =>
      if ← accept [','] then entries value n t
      else do
        expect ['}']
        return t

/-- Reads an inline table. What is in it cannot be extended later. -/
def inlineTable (value : Scan Value) : Scan Value := do
  blanks
  if ← accept ['}'] then return .table []
  let t ← entries value ((← get).length + 1) []
  return .table (Draft.toEntries t)

/-- Reads a value that holds no others. -/
def plainValue : Scan Value := do
  match ← peek with
  | some '"' | some '\'' => return .string (← Scalar.string)
  | some 't' => expect "true".toList; return .boolean true
  | some 'f' => expect "false".toList; return .boolean false
  | _ => Scalar.number

/-- Reads a value in which values nest at most `depth` deep. -/
def value : (depth : Nat) → Scan Value
  | 0 => plainValue
  | depth + 1 => do
    match ← peek with
    | some '[' =>
      expect ['[']
      return .array (← items (value depth) ((← get).length + 1))
    | some '\x7b' =>
      expect ['\x7b']
      inlineTable (value depth)
    | _ => plainValue

/-! ## Documents -/

/-- A document that is being read: its tables, and the header that is in force. -/
structure Progress where
  root : List (String × Draft)
  header : List String

/-- Reads one line, or the lines of one entry. -/
def expression (p : Progress) : Scan Progress := do
  match ← peek with
  | some '#' => comment; lineEnd; return p
  | some '\n' | some '\r' => newline; return p
  | some '[' =>
    expect ['[']
    let isList ← accept ['[']
    let path ← key maxDepth
    expect (if isList then [']', ']'] else [']'])
    restOfLine
    match if isList then Draft.append path p.root else Draft.define path p.root with
    | some root => return ⟨root, path⟩
    | none => fail
  | _ =>
    let path ← key maxDepth
    expect ['=']
    blanks
    let v ← value maxDepth
    restOfLine
    match Draft.update false (Draft.assign path (.value v)) p.header false p.root with
    | some root => return { p with root }
    | none => fail

/-- Reads the rest of a document, in at most `n` expressions. -/
def document : Nat → Progress → Scan Progress
  | 0, _ => fail
  | n + 1, p => do
    blanks
    match ← peek with
    | none => return p
    | some _ => document n (← expression p)

/-- The entries of a document. A mark of the byte order in front does not count. -/
def parse? (text : String) : Option (List (String × Value)) :=
  let s := match text.toList with
    | '\uFEFF' :: s => s
    | s => s
  match document (s.length + 1) ⟨[], []⟩ s with
  | some (p, []) => some (Draft.toEntries p.root)
  | _ => none

end SocksProxy.Toml
