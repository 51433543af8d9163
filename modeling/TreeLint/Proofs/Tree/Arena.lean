import TreeLint.Tree.Basic

/-!
# Well-formed arenas

The nodes of a tree stand in one array and refer to one another by their places. Nothing in the type
of the array says that these references make a tree, so `Arena.WellFormed` says it: one root, parents
before their children, child lists that are ordered and agree with the parents and with the recorded
indices, and subtrees that are intervals of places.

`Arena.AtOrBelow` is the relation that the intervals are about. It is read off the parents alone, so
that a subtree is the same set whether or not the child lists are right.

An arena with no node is well formed. That a tree has a root is a field of `SyntaxTree`.
-/

namespace TreeLint

namespace Arena

/-- The parent that an arena records for a place. -/
def parentAt? (nodes : Array NodeData) (id : Nat) : Option Nat :=
  nodes[id]?.bind NodeData.parent

/-- A place belongs to the subtree of another: it is that place, or its parent belongs to it. -/
inductive AtOrBelow (nodes : Array NodeData) (top : Nat) : Nat → Prop
  /-- A place belongs to its own subtree. -/
  | top : AtOrBelow nodes top top
  /-- A place belongs to the subtrees that its parent belongs to. -/
  | child {id parent : Nat} : parentAt? nodes id = some parent → AtOrBelow nodes top parent →
      AtOrBelow nodes top id

/-- **An arena in document order.** The nodes of the array make one tree, or none if there is no
node, and each node stands right before its descendants. -/
structure WellFormed (nodes : Array NodeData) : Prop where
  /-- The first node is the only one without a parent. -/
  parent_none_iff : ∀ {id : Nat} {data : NodeData}, nodes[id]? = some data →
    (data.parent = none ↔ id = 0)
  /-- A parent comes before its children. -/
  parent_lt : ∀ {id parent : Nat} {data : NodeData}, nodes[id]? = some data →
    data.parent = some parent → parent < id
  /-- The children of a node are listed in document order, each once. -/
  children_sorted : ∀ {id : Nat} {data : NodeData}, nodes[id]? = some data →
    data.children.toList.Pairwise (· < ·)
  /-- The children of a node are the nodes whose parent it is. -/
  mem_children_iff : ∀ {id child : Nat} {data : NodeData}, nodes[id]? = some data →
    (child ∈ data.children ↔ ∃ childData, nodes[child]? = some childData ∧
      childData.parent = some id)
  /-- A child knows its place among the children of its parent. -/
  indexInParent_eq : ∀ {id index child : Nat} {data childData : NodeData},
    nodes[id]? = some data → data.children[index]? = some child →
    nodes[child]? = some childData → childData.indexInParent = index
  /-- The subtree of a node is an interval of places that starts at the node. -/
  subtree_interval : ∀ {id : Nat}, id < nodes.size →
    ∃ stop, ∀ place, AtOrBelow nodes id place ↔ id ≤ place ∧ place < stop
  line_pos : ∀ {id : Nat} {data : NodeData}, nodes[id]? = some data → 1 ≤ data.line

theorem parentAt?_eq_some {nodes : Array NodeData} {id parent : Nat} :
    parentAt? nodes id = some parent ↔
      ∃ data, nodes[id]? = some data ∧ data.parent = some parent :=
  Option.bind_eq_some_iff

theorem lt_size_of_parentAt? {nodes : Array NodeData} {id parent : Nat}
    (h : parentAt? nodes id = some parent) : id < nodes.size := by
  obtain ⟨data, hdata, _⟩ := parentAt?_eq_some.mp h
  exact (Array.getElem?_eq_some_iff.mp hdata).1

/-- The subtrees that hold a place hold every place below it. -/
theorem AtOrBelow.trans {nodes : Array NodeData} {top middle id : Nat}
    (upper : AtOrBelow nodes top middle) (lower : AtOrBelow nodes middle id) :
    AtOrBelow nodes top id := by
  induction lower with
  | top => exact upper
  | child hparent _ ih => exact .child hparent ih

theorem AtOrBelow.lt_size {nodes : Array NodeData} {top id : Nat} (h : AtOrBelow nodes top id)
    (htop : top < nodes.size) : id < nodes.size := by
  cases h with
  | top => exact htop
  | child hparent _ => exact lt_size_of_parentAt? hparent

namespace WellFormed

variable {nodes : Array NodeData}

theorem parentAt?_lt (wf : WellFormed nodes) {id parent : Nat}
    (h : parentAt? nodes id = some parent) : parent < id := by
  obtain ⟨data, hdata, hparent⟩ := parentAt?_eq_some.mp h
  exact wf.parent_lt hdata hparent

theorem parentAt?_lt_size (wf : WellFormed nodes) {id parent : Nat}
    (h : parentAt? nodes id = some parent) : parent < nodes.size :=
  Nat.lt_trans (wf.parentAt?_lt h) (lt_size_of_parentAt? h)

/-- A subtree has no place before its top. -/
theorem le_of_atOrBelow (wf : WellFormed nodes) {top id : Nat} (h : AtOrBelow nodes top id) :
    top ≤ id := by
  induction h with
  | top => exact Nat.le_refl top
  | child hparent _ ih => exact Nat.le_trans ih (Nat.le_of_lt (wf.parentAt?_lt hparent))

/-- A node is listed among the children of its parent, and nowhere else. -/
theorem mem_children (wf : WellFormed nodes) {id child : Nat} {data : NodeData}
    (hdata : nodes[id]? = some data) : child ∈ data.children ↔ parentAt? nodes child = some id :=
  (wf.mem_children_iff hdata).trans parentAt?_eq_some.symm

theorem lt_of_mem_children (wf : WellFormed nodes) {id child : Nat} {data : NodeData}
    (hdata : nodes[id]? = some data) (h : child ∈ data.children) : id < child :=
  wf.parentAt?_lt ((wf.mem_children hdata).mp h)

theorem lt_size_of_mem_children (wf : WellFormed nodes) {id child : Nat} {data : NodeData}
    (hdata : nodes[id]? = some data) (h : child ∈ data.children) : child < nodes.size :=
  lt_size_of_parentAt? ((wf.mem_children hdata).mp h)

/-- The subtree of a node is the node and the subtrees of its children. -/
theorem atOrBelow_iff (wf : WellFormed nodes) {id place : Nat} {data : NodeData}
    (hdata : nodes[id]? = some data) :
    AtOrBelow nodes id place ↔ place = id ∨ ∃ child ∈ data.children, AtOrBelow nodes child place := by
  constructor
  · intro h
    induction h with
    | top => exact .inl rfl
    | @child place parent hparent _ ih =>
      rcases ih with rfl | ⟨child, hmem, hbelow⟩
      · exact .inr ⟨place, (wf.mem_children hdata).mpr hparent, .top⟩
      · exact .inr ⟨child, hmem, .child hparent hbelow⟩
  · rintro (rfl | ⟨child, hmem, hbelow⟩)
    · exact .top
    · exact AtOrBelow.trans (.child ((wf.mem_children hdata).mp hmem) .top) hbelow

/-- The subtrees of two children stand one behind the other. -/
theorem subtree_lt_of_siblings (wf : WellFormed nodes) {id first second place : Nat}
    {data : NodeData} (hdata : nodes[id]? = some data) (hfirst : first ∈ data.children)
    (hsecond : second ∈ data.children) (hlt : first < second)
    (hplace : AtOrBelow nodes first place) : place < second := by
  obtain ⟨stop, hstop⟩ := wf.subtree_interval (wf.lt_size_of_mem_children hdata hfirst)
  -- the second child is outside the interval of the first, since its parent comes before the first
  have houtside : ¬ AtOrBelow nodes first second := by
    intro hbelow
    cases hbelow with
    | top => exact Nat.lt_irrefl _ hlt
    | child hparent habove =>
      have hid : parentAt? nodes second = some id := (wf.mem_children hdata).mp hsecond
      rw [hid] at hparent
      cases hparent
      exact Nat.lt_irrefl _ (Nat.lt_of_lt_of_le (wf.lt_of_mem_children hdata hfirst)
        (wf.le_of_atOrBelow habove))
  have hsecondStop : stop ≤ second := by
    refine Nat.le_of_not_lt fun hlow => houtside ?_
    exact (hstop second).mpr ⟨Nat.le_of_lt hlt, hlow⟩
  exact Nat.lt_of_lt_of_le ((hstop place).mp hplace).2 hsecondStop

end WellFormed

end Arena

end TreeLint
