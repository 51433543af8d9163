import TreeLint.Toml.DateTime
import TreeLint.Toml.Number

/-!
# TOML documents

A document is read line by line into a table. A header names the table to which the keys below it
belong. Nothing may be defined twice: a table is opened by at most one header, a table between
braces is complete as it stands, and a dotted key adds only to tables that dotted keys made.
-/

namespace TreeLint.Toml

/-! ## Tables by path -/

/-- How a path leads through tables that are not there yet. -/
inductive Route where
  | header
  | dotted
  deriving DecidableEq

/-- How a table comes to be that a path leads through. -/
def Route.origin : Route → Origin
  | .header => .implied
  | .dotted => .dotted

/-- Whether a path may lead through a table that is there already. -/
def Route.admits (route : Route) (origin : Origin) : Bool :=
  match route, origin with
  | _, .inline => false
  | .dotted, .header => false
  | _, _ => true

/-- Changes the table that a path leads to. A path that meets an array of tables goes on in the
last one. -/
def Table.update (route : Route) (change : Table → Option Table) :
    (path : List String) → Table → Option Table
  | [], table => change table
  | key :: path, table =>
    match table.get? key with
    | none => do
      let child ← Table.update route change path ⟨route.origin, []⟩
      some (table.put key child.value)
    | some (.table origin entries) =>
      if route.admits origin then do
        let child ← Table.update route change path ⟨origin, entries⟩
        some (table.put key child.value)
      else none
    | some (.array true items) =>
      match items.getLast? with
      | some (.table origin entries) => do
        let child ← Table.update route change path ⟨origin, entries⟩
        some (table.put key (.array true (items.dropLast ++ [child.value])))
      | _ => none
    | some _ => none

/-- Adds a key that is not there yet. -/
def Table.add (key : String) (value : Value) (table : Table) : Option Table :=
  match table.get? key with
  | some _ => none
  | none => some (table.put key value)

/-- Splits a path into what leads to its last part, and the last part. -/
def splitLast? (path : List String) : Option (List String × String) :=
  path.getLast?.map fun last => (path.dropLast, last)

/-- Adds a value under a dotted key. The table that holds it has to be made by dotted keys, or to be
the one that the key starts from. -/
def Table.addDotted (path : List String) (value : Value) (table : Table) : Option Table := do
  let (front, key) ← splitLast? path
  table.update .dotted (fun inner =>
    if (inner.origin == .dotted) == front.isEmpty then none else inner.add key value) front

/-- Opens the table of a header. It may have been implied before. -/
def Table.openTable (path : List String) (table : Table) : Option Table := do
  let (front, key) ← splitLast? path
  table.update .header (fun parent =>
    match parent.get? key with
    | none => some (parent.put key (.table .header []))
    | some (.table .implied entries) => some (parent.put key (.table .header entries))
    | some _ => none) front

/-- Opens one more table of an array of tables. -/
def Table.openArray (path : List String) (table : Table) : Option Table := do
  let (front, key) ← splitLast? path
  table.update .header (fun parent =>
    match parent.get? key with
    | none => some (parent.put key (.array true [.table .header []]))
    | some (.array true items) =>
      some (parent.put key (.array true (items ++ [.table .header []])))
    | some _ => none) front

/-! ## Values -/

/-- Reads the items of an array up to its end. -/
def readItems (value : Scanner Value) : (fuel : Nat) → (done : List Value) → Scanner (List Value)
  | 0, _, _ => none
  | fuel + 1, done, text =>
    match skipLines (text.length + 1) text with
    | ']' :: rest => some (done.reverse, rest)
    | text =>
      match value text with
      | none => none
      | some (item, rest) =>
        match skipLines (rest.length + 1) rest with
        | ',' :: rest => readItems value fuel (item :: done) rest
        | ']' :: rest => some ((item :: done).reverse, rest)
        | _ => none

/-- Reads a key, an equals sign and a value. -/
def readPair (value : Scanner Value) : Scanner (List String × Value) := fun text => do
  let (path, rest) ← readKey text
  let rest ← readChar '=' rest
  let (v, rest) ← value (skipBlanks rest)
  some ((path, v), rest)

/-- Reads the pairs of a table between braces up to its end. -/
def readPairs (value : Scanner Value) : (fuel : Nat) → Table → Scanner Table
  | 0, _, _ => none
  | fuel + 1, table, text =>
    match readPair value text with
    | none => none
    | some ((path, v), rest) =>
      match table.addDotted path v with
      | none => none
      | some table =>
        match skipBlanks rest with
        | ',' :: rest => readPairs value fuel table rest
        | '\x7d' :: rest => some (table, rest)
        | _ => none

/-- Reads a value that is neither an array nor a table. -/
def readScalarValue : Scanner Value := fun text =>
  match text with
  | '"' :: _ | '\x27' :: _ => (readString text).map fun (value, rest) => (.string value, rest)
  | 't' :: 'r' :: 'u' :: 'e' :: rest => some (.boolean true, rest)
  | 'f' :: 'a' :: 'l' :: 's' :: 'e' :: rest => some (.boolean false, rest)
  | _ =>
    match readDateTime .document text with
    | some result => some result
    | none =>
      match readFloat text with
      | some result => some result
      | none => readInteger text

/-- Reads a value with at most so many containers around its parts. -/
def readValue : (depth : Nat) → Scanner Value
  | 0, text =>
    match text with
    | '[' :: _ | '\x7b' :: _ => none
    | _ => readScalarValue text
  | depth + 1, text =>
    match text with
    | '[' :: rest =>
      (readItems (readValue depth) (rest.length + 1) [] rest).map
        fun (items, rest) => (.array false items, rest)
    | '\x7b' :: rest =>
      match skipBlanks rest with
      | '\x7d' :: rest => some (.table .inline [], rest)
      | rest =>
        (readPairs (readValue depth) (rest.length + 1) ⟨.inline, []⟩ rest).map
          fun (table, rest) => (table.value, rest)
    | _ => readScalarValue text

/-! ## Lines -/

/-- A document that is being read: what is known of it, and the path of the last header. -/
structure Reading where
  root : Table
  /-- The path of the table to which keys belong. -/
  path : List String

/-- The rest of a line: blanks, a comment, and the end of the line or of the text. -/
def endLine? (text : List Char) : Option (List Char) :=
  match skipComment (skipBlanks text) with
  | [] => some []
  | text => lineEnd? text

/-- Reads a line that is not empty. -/
def readLine (reading : Reading) (text : List Char) : Option (Reading × List Char) :=
  match text with
  | '[' :: '[' :: rest => do
    let (path, rest) ← readKey rest
    let rest ← readChar ']' rest
    let rest ← readChar ']' rest
    let root ← reading.root.openArray path
    some (⟨root, path⟩, rest)
  | '[' :: rest => do
    let (path, rest) ← readKey rest
    let rest ← readChar ']' rest
    let root ← reading.root.openTable path
    some (⟨root, path⟩, rest)
  | _ => do
    let ((path, value), rest) ← readPair (readValue maxDepth) text
    let root ← reading.root.update .header (Table.addDotted path value) reading.path
    some (⟨root, reading.path⟩, rest)

/-- Reads lines up to the end of the text. -/
def readLines : (fuel : Nat) → Reading → List Char → Option Table
  | 0, _, _ => none
  | fuel + 1, reading, text =>
    match skipLines (text.length + 1) text with
    | [] => some reading.root
    | text =>
      if (skipComment text).isEmpty then some reading.root
      else
        match readLine reading text with
        | none => none
        | some (reading, rest) =>
          match endLine? rest with
          | none => none
          | some rest => readLines fuel reading rest

/-- The table that a text spells, if it is a document. -/
def parse (text : String) : Option Table :=
  let chars := match text.toList with
    | '\ufeff' :: rest => rest
    | chars => chars
  readLines (chars.length + 1) ⟨⟨.header, []⟩, []⟩ chars

end TreeLint.Toml
