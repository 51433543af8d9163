import TreeLint.NodeKind
import TreeLint.Text.Decimal
import TreeLint.Text.Quoted

/-!
# Syntax trees

A syntax tree is an arena: its nodes stand in one array in document order, each before its
descendants, and refer to one another by their places. The root comes first. A `Node` is a place of
one tree together with the tree, and all navigation starts from it.
-/

namespace TreeLint

/-- What the arena holds for one node. -/
structure NodeData where
  kind : NodeKind
  /-- The token text, for a node that carries one. -/
  token : Option String
  line : Nat
  column : Nat
  /-- The place of the parent; the root has none. -/
  parent : Option Nat
  /-- The place among the children of the parent. -/
  indexInParent : Nat
  /-- The places of the children, in document order. -/
  children : Array Nat
  deriving DecidableEq, Repr, Inhabited

/-- A syntax tree, which has at least one node. -/
structure SyntaxTree where
  nodes : Array NodeData
  nonempty : 0 < nodes.size

/-- A node of a tree. -/
structure Node where
  tree : SyntaxTree
  /-- The place of the node, in document order. -/
  id : Nat
  inTree : id < tree.nodes.size

namespace SyntaxTree

/-- The number of nodes. -/
def size (tree : SyntaxTree) : Nat :=
  tree.nodes.size

/-- The node at a place, if the tree has that place. -/
def node? (tree : SyntaxTree) (id : Nat) : Option Node :=
  if h : id < tree.nodes.size then some ⟨tree, id, h⟩ else none

/-- The first node. -/
def root (tree : SyntaxTree) : Node :=
  ⟨tree, 0, tree.nonempty⟩

/-- All nodes in document order. -/
def toList (tree : SyntaxTree) : List Node :=
  (List.range tree.nodes.size).filterMap tree.node?

end SyntaxTree

namespace Node

/-- What the arena holds for the node. -/
def data (node : Node) : NodeData :=
  have := node.inTree
  node.tree.nodes[node.id]

/-- The syntactic category. -/
def kind (node : Node) : NodeKind :=
  node.data.kind

/-- The token that the node itself carries. -/
def token (node : Node) : Option String :=
  node.data.token

/-- The line, counted from one. -/
def line (node : Node) : Nat :=
  node.data.line

/-- The column. -/
def column (node : Node) : Nat :=
  node.data.column

/-- The node that this one is a child of. -/
def parent? (node : Node) : Option Node :=
  node.data.parent.bind node.tree.node?

/-- The children in document order. -/
def children (node : Node) : List Node :=
  node.data.children.toList.filterMap node.tree.node?

/-- The number of children. -/
def childCount (node : Node) : Nat :=
  node.data.children.size

/-- The first child. -/
def firstChild? (node : Node) : Option Node :=
  node.data.children[0]?.bind node.tree.node?

/-- The last child. -/
def lastChild? (node : Node) : Option Node :=
  node.data.children.back?.bind node.tree.node?

/-- The first child of a kind. -/
def firstChildOf? (node : Node) (kind : NodeKind) : Option Node :=
  node.children.find? fun child => child.kind == kind

/-- The child of the same parent that comes next. -/
def nextSibling? (node : Node) : Option Node := do
  let parent ← node.parent?
  let id ← parent.data.children[node.data.indexInParent + 1]?
  node.tree.node? id

end Node

namespace SyntaxTree

/-- One past the last place of the subtree at a place, found by going from last child to last
child. A child comes after its parent, so the walk goes forward. -/
def subtreeEnd (tree : SyntaxTree) (id : Nat) : Nat :=
  match tree.nodes[id]? with
  | none => id + 1
  | some data =>
    match data.children.back? with
    | none => id + 1
    | some last => if id < last ∧ last < tree.nodes.size then tree.subtreeEnd last else id + 1
  termination_by tree.nodes.size - id

/-- The first token among the nodes from one place up to another. -/
def firstToken? (tree : SyntaxTree) (start stop : Nat) : Option String :=
  (tree.nodes.extract start stop).findSome? NodeData.token

end SyntaxTree

namespace Node

/-- The first token at or below the node, in document order. -/
def tokenValue? (node : Node) : Option String :=
  match node.token with
  | some token => some token
  | none => node.tree.firstToken? (node.id + 1) (node.tree.subtreeEnd node.id)

/-- The description of a node: its place, kind, token and line. -/
def describe (node : Node) : String :=
  let token := match node.token with
    | some token => s!"Some({Text.Quoted.quote token})"
    | none => "None"
  let id := s!"id: NodeId({Text.Decimal.text node.id})"
  let line := s!"line: {Text.Decimal.text node.line}"
  s!"Node \x7b {id}, kind: {node.kind.title}, token: {token}, {line} \x7d"

end Node

end TreeLint
