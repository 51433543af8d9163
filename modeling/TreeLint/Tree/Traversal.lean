import TreeLint.Tree.Basic

/-!
# Walking a tree

A walk goes through a tree in document order. A node is entered, then its children are walked from
first to last, and then, if anybody wants to know, it is left. What is still to do is held in a list
of visits, so that a tree of any depth can be walked.
-/

namespace TreeLint

/-- Whether a node is entered or left. -/
inductive Event where
  /-- The node is entered, before its children. -/
  | enter
  | leave
  deriving DecidableEq, Repr

/-- The written form of an event. -/
def Event.name : Event → String
  | .enter => "enter"
  | .leave => "leave"

/-- A node being entered or left. -/
structure Visit where
  event : Event
  node : Node

namespace Visit

/-- What entering a node leaves to do: its children, and then leaving it if that is wanted. -/
def below (wantsLeave : NodeKind → Bool) (node : Node) : List Visit :=
  node.children.map (Visit.mk .enter) ++ (if wantsLeave node.kind then [⟨.leave, node⟩] else [])

/-- Goes through the visits that are still to do, the next one first, and hands each on. -/
def run {σ : Type u} (wantsLeave : NodeKind → Bool) (act : σ → Visit → σ) :
    (fuel : Nat) → (todo : List Visit) → σ → σ
  | 0, _, state => state
  | _ + 1, [], state => state
  | fuel + 1, visit :: todo, state =>
    match visit.event with
    | .enter => run wantsLeave act fuel (below wantsLeave visit.node ++ todo) (act state visit)
    | .leave => run wantsLeave act fuel todo (act state visit)

end Visit

/-- Walks a tree and hands on each visit in turn. Every node is visited at most twice. -/
def SyntaxTree.walk {σ : Type u} (tree : SyntaxTree) (wantsLeave : NodeKind → Bool)
    (act : σ → Visit → σ) (state : σ) : σ :=
  Visit.run wantsLeave act (2 * tree.size) [⟨.enter, tree.root⟩] state

end TreeLint
