import TreeLint.Dump.Basic

/-!
# The text of a dump

A dump is written as a JSON object on one line. What has its usual value is left out: an absent
source or token, and a number of children of zero. Reading fills it in again; a column that is left
out is one.
-/

namespace TreeLint

open Json

/-- The node kinds by grammar name. -/
def NodeKind.names : Names NodeKind :=
  ⟨NodeKind.all.map NodeKind.name, NodeKind.ofName?⟩

namespace DumpNode

/-! ## Writing -/

/-- A member of an object without what surrounds it. -/
def writeMember (key : String) (value : List Char) : List Char :=
  writeString key ++ ':' :: value

/-- Members with commas between them, as an object. -/
def writeObject (members : List (List Char)) : List Char :=
  '\x7b' :: (List.intercalate [','] members ++ ['\x7d'])

/-- The members of a node. -/
def writeMembers (node : DumpNode) : List (List Char) :=
  [writeMember "kind" (writeString node.kind.name)]
  ++ (match node.token with
    | some token => [writeMember "token" (writeString token)]
    | none => [])
  ++ [writeMember "line" (Text.Decimal.digits node.line),
      writeMember "column" (Text.Decimal.digits node.column)]
  ++ (if node.children = 0 then []
    else [writeMember "children" (Text.Decimal.digits node.children)])

/-- A node. -/
def write (node : DumpNode) : List Char :=
  writeObject node.writeMembers

/-! ## Reading -/

/-- The fields of a node that were read so far. -/
structure Gathered where
  kind : Option NodeKind
  token : Option (Option String)
  line : Option Nat
  column : Option Nat
  children : Option Nat

/-- Reads what follows a key. -/
def readMember (g : Gathered) (key : String) : Reader Gathered := fun text =>
  if key = "kind" then do
    let (kind, rest) ← readField key g.kind (readName NodeKind.names) text
    return ({ g with kind := some kind }, rest)
  else if key = "token" then do
    let (token, rest) ← readField key g.token (readOptional (readText "a string")) text
    return ({ g with token := some token }, rest)
  else if key = "line" then do
    let (line, rest) ← readField key g.line readWord text
    return ({ g with line := some line }, rest)
  else if key = "column" then do
    let (column, rest) ← readField key g.column readWord text
    return ({ g with column := some column }, rest)
  else if key = "children" then do
    let (children, rest) ← readField key g.children readWord text
    return ({ g with children := some children }, rest)
  else skipField g text

/-- The node that the fields make up. -/
def Gathered.node (g : Gathered) : Except Error DumpNode :=
  match g.kind, g.line with
  | none, _ => .error (.missingField "kind")
  | _, none => .error (.missingField "line")
  | some kind, some line =>
    .ok ⟨kind, g.token.getD none, line, g.column.getD 1, g.children.getD 0⟩

/-- Reads the object form. -/
def readMembers : Reader DumpNode := fun text => do
  let (g, rest) ← Json.readMembers readMember text true
    ⟨none, none, none, none, none⟩ text
  let node ← g.node
  return (node, rest)

/-- Reads the list form. -/
def readItems : Reader DumpNode := fun text => do
  let short (index : Nat) : Error := .invalidLength index "struct DumpNode with 5 elements"
  let (kind, rest) ← readNext true (readName NodeKind.names) text
  let some kind := kind | .error (short 0)
  let (token, rest) ← readNext false (readOptional (readText "a string")) rest
  let (line, rest) ← readNext false readWord rest
  let some line := line | .error (short 2)
  let (column, rest) ← readNext false readWord rest
  let (children, rest) ← readNext false readWord rest
  return (⟨kind, token.getD none, line, column.getD 1, children.getD 0⟩, rest)

/-- Reads a node. -/
def read : Reader DumpNode :=
  readRecord ⟨"DumpNode", readMembers, readItems⟩

end DumpNode

namespace Dump

/-! ## Writing -/

/-- The members of a dump. -/
def writeMembers (dump : Dump) : List (List Char) :=
  (match dump.source with
    | some source => [DumpNode.writeMember "source" (writeString source)]
    | none => [])
  ++ [DumpNode.writeMember "nodes"
      ('[' :: (List.intercalate [','] (dump.nodes.map DumpNode.write) ++ [']']))]

/-- A dump. -/
def write (dump : Dump) : List Char :=
  DumpNode.writeObject dump.writeMembers

/-- The text of a dump. -/
def text (dump : Dump) : String :=
  String.ofList dump.write

/-! ## Reading -/

/-- The fields of a dump that were read so far. -/
structure Gathered where
  source : Option (Option String)
  nodes : Option (List DumpNode)

/-- Reads what follows a key. -/
def readMember (g : Gathered) (key : String) : Reader Gathered := fun text =>
  if key = "source" then do
    let (source, rest) ← readField key g.source (readOptional (readText "path string")) text
    return ({ g with source := some source }, rest)
  else if key = "nodes" then do
    let (nodes, rest) ← readField key g.nodes (readList DumpNode.read) text
    return ({ g with nodes := some nodes }, rest)
  else skipField g text

/-- The dump that the fields make up. -/
def Gathered.dump (g : Gathered) : Except Error Dump :=
  match g.nodes with
  | none => .error (.missingField "nodes")
  | some nodes => .ok ⟨g.source.getD none, nodes⟩

/-- Reads the object form. -/
def readMembers : Reader Dump := fun text => do
  let (g, rest) ← Json.readMembers readMember text true ⟨none, none⟩ text
  let dump ← g.dump
  return (dump, rest)

/-- Reads the list form. -/
def readItems : Reader Dump := fun text => do
  let (source, rest) ← readNext true (readOptional (readText "path string")) text
  let (nodes, rest) ← readNext source.isNone (readList DumpNode.read) rest
  let some nodes := nodes | .error (.invalidLength 1 "struct TreeDump with 2 elements")
  return (⟨source.getD none, nodes⟩, rest)

/-- Reads a dump. -/
def read : Reader Dump :=
  readRecord ⟨"TreeDump", readMembers, readItems⟩

/-- The dump that a text holds. -/
def parse (text : String) : Except Error Dump :=
  readAll read text

/-! ## Loading -/

/-- Why a text does not become a tree. -/
inductive LoadError where
  | text (error : Json.Error)
  | tree (error : TreeError)
  deriving DecidableEq, Repr

/-- The wording of an error. -/
def LoadError.message : LoadError → String
  | .text error => s!"Invalid tree dump: {error.message}"
  | .tree error => error.message

/-- The wording of an error and of what caused it. -/
def LoadError.trace (error : LoadError) : List String :=
  match error with
  | .text cause => [error.message, cause.message]
  | .tree _ => [error.message]

/-- The dump that a text holds and its tree. -/
def load (text : String) : Except LoadError (Dump × SyntaxTree) :=
  match parse text with
  | .error error => .error (.text error)
  | .ok dump =>
    match dump.toTree with
    | .error error => .error (.tree error)
    | .ok tree => .ok (dump, tree)

end Dump

end TreeLint
