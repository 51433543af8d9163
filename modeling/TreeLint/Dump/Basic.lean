import TreeLint.Json.Value
import TreeLint.Tree.Builder

/-!
# Tree dumps

A dump is a tree as a flat list: the nodes in document order, each with the number of its children,
which follow it. Because it has no nesting, a tree of any depth can be written and read back.

A tree becomes a dump by counting children (`Dump.ofTree`). A dump becomes a tree by telling a
builder about its nodes, each node being closed as soon as its last child is complete
(`Dump.toTree`).
-/

namespace TreeLint

/-- One node of a dump. -/
structure DumpNode where
  kind : NodeKind
  /-- The token text, for a node that carries one. -/
  token : Option String
  line : Nat
  column : Nat
  children : Nat
  deriving DecidableEq, Repr

/-- A tree as a flat list of nodes. -/
structure Dump where
  /-- The path of the source file, if it was recorded. -/
  source : Option String
  nodes : List DumpNode
  deriving DecidableEq, Repr

namespace Dump

/-! ## Trees -/

/-- A node with its children counted. -/
def nodeOf (node : Node) : DumpNode :=
  ⟨node.kind, node.token, node.line, node.column, node.childCount⟩

/-- The dump of a tree. -/
def ofTree (tree : SyntaxTree) (source : Option String) : Dump :=
  ⟨source, tree.toList.map nodeOf⟩

/-- A tree that is being loaded: the builder, and for each open node, innermost first, the number of
children that are still to come. -/
structure Loading where
  builder : TreeBuilder
  pending : List Nat

namespace Loading

/-- Nothing loaded yet. -/
def start : Loading :=
  ⟨.empty, []⟩

/-- Closes every innermost node that has no more children to come. -/
def settle (builder : TreeBuilder) : (pending : List Nat) → Loading
  | 0 :: outer => settle builder.close outer
  | pending => ⟨builder, pending⟩

/-- Takes one from the number of children still to come of the innermost node. -/
def expectOneLess : List Nat → List Nat
  | count :: outer => (count - 1) :: outer
  | [] => []

/-- Loads one node. -/
def next (loading : Loading) (node : DumpNode) : Loading :=
  settle (loading.builder.openNode node.kind node.token node.line node.column)
    (node.children :: expectOneLess loading.pending)

end Loading

/-- The tree of a dump. -/
def toTree (dump : Dump) : Except TreeError SyntaxTree :=
  (dump.nodes.foldl Loading.next .start).builder.finish.1

end Dump

end TreeLint
