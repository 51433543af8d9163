import TreeLint.Tree.Basic

/-!
# Building syntax trees

A builder is told about nodes in document order: open an inner node, add a leaf, close the innermost
open node. Trouble is recorded and told at the end, when the tree is asked for; of several troubles
the first counts. After a recorded trouble no node is added any more, but nodes are still closed.
Asking for the tree clears the record and, if it succeeds, empties the builder.
-/

namespace TreeLint

/-- Why no tree comes out of a builder. -/
inductive TreeError where
  | empty
  | multipleRoots (kind : NodeKind) (line : Nat)
  | unbalancedClose
  | unclosed (count : Nat)
  | zeroLine (kind : NodeKind)
  | tooLarge
  deriving DecidableEq, Repr

/-- The wording of an error. -/
def TreeError.message : TreeError → String
  | .empty => "Syntax tree is empty"
  | .multipleRoots kind line =>
    s!"Syntax tree has more than one root ({kind.name} at line {Text.Decimal.text line})"
  | .unbalancedClose => "close() called with no open node"
  | .unclosed count => s!"{Text.Decimal.text count} node(s) left open"
  | .zeroLine kind => s!"Node {kind.name} has line 0; lines are 1-based"
  | .tooLarge => "Syntax tree exceeds 4294967295 nodes"

/-- A tree in the making. -/
structure TreeBuilder where
  nodes : Array NodeData
  /-- The places of the open nodes, innermost first. -/
  openNodes : List Nat
  /-- The first trouble since the tree was last asked for. -/
  error : Option TreeError
  deriving DecidableEq, Repr

namespace TreeBuilder

/-- A builder that was told nothing yet. -/
def empty : TreeBuilder :=
  ⟨#[], [], none⟩

instance : Inhabited TreeBuilder :=
  ⟨empty⟩

/-- The number of nodes that a tree may have. -/
def maxNodes : Nat :=
  Nat.pow 2 32

/-- Records a trouble, unless one is recorded already. -/
def fail (builder : TreeBuilder) (error : TreeError) : TreeBuilder :=
  match builder.error with
  | some _ => builder
  | none => { builder with error := some error }

/-- What keeps a node from being added. A line of zero comes before a second root. -/
def refusal? (builder : TreeBuilder) (kind : NodeKind) (line : Nat) : Option TreeError :=
  if line = 0 then some (.zeroLine kind)
  else if builder.openNodes = [] ∧ builder.nodes.size ≠ 0 then some (.multipleRoots kind line)
  else if maxNodes ≤ builder.nodes.size then some .tooLarge
  else none

/-- The place that the next child of a node will have among its siblings. -/
def nextIndex (builder : TreeBuilder) : Nat :=
  match builder.openNodes.head? with
  | none => 0
  | some parent => ((builder.nodes[parent]?).map fun data => data.children.size).getD 0

/-- The nodes with one more at the end, which is also the last child of the innermost open node. -/
def append (builder : TreeBuilder) (kind : NodeKind) (token : Option String) (line column : Nat) :
    Array NodeData :=
  let id := builder.nodes.size
  let data : NodeData :=
    { kind, token, line, column, parent := builder.openNodes.head?,
      indexInParent := builder.nextIndex, children := #[] }
  match builder.openNodes.head? with
  | none => builder.nodes.push data
  | some parent =>
    (builder.nodes.modify parent fun p => { p with children := p.children.push id }).push data

/-- Adds a node below the innermost open one. The answer says whether it was added. -/
def add (builder : TreeBuilder) (kind : NodeKind) (token : Option String) (line column : Nat) :
    TreeBuilder × Bool :=
  match builder.error with
  | some _ => (builder, false)
  | none =>
    match builder.refusal? kind line with
    | some error => (builder.fail error, false)
    | none => ({ builder with nodes := builder.append kind token line column }, true)

/-- Adds a node and leaves it open. -/
def openNode (builder : TreeBuilder) (kind : NodeKind) (token : Option String)
    (line column : Nat) : TreeBuilder :=
  match builder.add kind token line column with
  | (after, true) => { after with openNodes := builder.nodes.size :: after.openNodes }
  | (after, false) => after

/-- Adds a node that carries a token and has no children. -/
def leaf (builder : TreeBuilder) (kind : NodeKind) (token : String) (line column : Nat) :
    TreeBuilder :=
  (builder.add kind (some token) line column).1

/-- Closes the innermost open node. -/
def close (builder : TreeBuilder) : TreeBuilder :=
  match builder.openNodes with
  | [] => builder.fail .unbalancedClose
  | _ :: outer => { builder with openNodes := outer }

/-- Asks for the tree. -/
def finish (builder : TreeBuilder) : Except TreeError SyntaxTree × TreeBuilder :=
  match builder.error with
  | some error => (.error error, { builder with error := none })
  | none =>
    if h : 0 < builder.nodes.size then
      match builder.openNodes with
      | [] => (.ok ⟨builder.nodes, h⟩, { builder with nodes := #[] })
      | _ :: _ => (.error (.unclosed builder.openNodes.length), builder)
    else (.error .empty, builder)

/-- What a builder may be told before the tree is asked for. -/
inductive Call where
  | openNode (kind : NodeKind) (token : Option String) (line column : Nat)
  | leaf (kind : NodeKind) (token : String) (line column : Nat)
  | close
  deriving DecidableEq, Repr

/-- Tells a builder one thing. -/
def tell (builder : TreeBuilder) : Call → TreeBuilder
  | .openNode kind token line column => builder.openNode kind token line column
  | .leaf kind token line column => builder.leaf kind token line column
  | .close => builder.close

end TreeBuilder

end TreeLint
