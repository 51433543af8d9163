import Mathlib.Data.List.Basic
import TreeLint.Proofs.Tree.Arena

/-!
# Parents, children and ancestors

Navigation from node to node in a well-formed arena. A `Node` carries its tree, and every step of
navigation stays in it, so the facts about places in `TreeLint.Proofs.Tree.Arena` become facts about
nodes: the children of a node are the nodes whose parent it is (`Node.mem_children_iff`), and they
stand behind it.

Two things follow. `Node.subtree_induction` is induction from the children to their parent. And
`Node.ancestors` goes from a node to the root; for a child it is the parent in front of the
ancestors of the parent (`Node.ancestors_of_mem_children`).
-/

namespace TreeLint

open Arena

/-- A node of a tree is given by its place. -/
theorem Node.eq_of_id {first second : Node} (htree : first.tree = second.tree)
    (hid : first.id = second.id) : first = second := by
  cases first
  cases second
  cases htree
  cases hid
  rfl

theorem SyntaxTree.node?_eq_some {tree : SyntaxTree} {id : Nat} {node : Node} :
    tree.node? id = some node ↔ node.tree = tree ∧ node.id = id := by
  unfold SyntaxTree.node?
  constructor
  · intro h
    split at h
    · cases h
      exact ⟨rfl, rfl⟩
    · cases h
  · rintro ⟨rfl, rfl⟩
    rw [dif_pos node.inTree]

/-- The list of all nodes holds each node of the tree. -/
theorem SyntaxTree.mem_toList {tree : SyntaxTree} {node : Node} :
    node ∈ tree.toList ↔ node.tree = tree := by
  unfold SyntaxTree.toList
  rw [List.mem_filterMap]
  constructor
  · rintro ⟨id, _, hnode⟩
    exact (SyntaxTree.node?_eq_some.mp hnode).1
  · rintro rfl
    exact ⟨node.id, List.mem_range.mpr node.inTree, SyntaxTree.node?_eq_some.mpr ⟨rfl, rfl⟩⟩

/-- All nodes stand in the list in the order of their places. -/
theorem SyntaxTree.map_id_toList (tree : SyntaxTree) :
    tree.toList.map Node.id = List.range tree.nodes.size := by
  unfold SyntaxTree.toList
  rw [List.map_filterMap]
  refine (List.filterMap_congr fun id hid => ?_).trans (List.filterMap_some)
  rw [SyntaxTree.node?, dif_pos (List.mem_range.mp hid)]
  rfl

/-- The nodes of a tree are listed by their places. -/
theorem SyntaxTree.getElem?_toList (tree : SyntaxTree) (id : Nat) :
    tree.toList[id]? = tree.node? id := by
  have hlength : tree.toList.length = tree.nodes.size := by
    rw [← List.length_map Node.id, tree.map_id_toList, List.length_range]
  rcases Nat.lt_or_ge id tree.nodes.size with hlt | hge
  · obtain ⟨node, hnode⟩ : ∃ node, tree.toList[id]? = some node :=
      ⟨_, List.getElem?_eq_getElem (hlength ▸ hlt)⟩
    have hid : (tree.toList.map Node.id)[id]? = some node.id := by
      rw [List.getElem?_map, hnode]
      rfl
    rw [tree.map_id_toList, List.getElem?_range hlt, Option.some.injEq] at hid
    have htree : node.tree = tree := mem_toList.mp (List.mem_of_getElem? hnode)
    rw [hnode, node?_eq_some.mpr ⟨htree, hid.symm⟩]
  · rw [List.getElem?_eq_none (hlength ▸ hge), node?, dif_neg (Nat.not_lt_of_le hge)]

theorem SyntaxTree.toList_pairwise (tree : SyntaxTree) :
    tree.toList.Pairwise fun first second => first.id < second.id := by
  rw [← List.pairwise_map, map_id_toList]
  exact List.pairwise_lt_range

namespace Node

theorem getElem?_id (node : Node) : node.tree.nodes[node.id]? = some node.data :=
  Array.getElem?_eq_getElem node.inTree

theorem parentAt?_id (node : Node) : parentAt? node.tree.nodes node.id = node.data.parent := by
  unfold parentAt?
  rw [node.getElem?_id]
  rfl

/-- A child is a node of the same tree, at a place that its parent lists. -/
theorem mem_children {node child : Node} :
    child ∈ node.children ↔ child.tree = node.tree ∧ child.id ∈ node.data.children := by
  unfold children
  rw [List.mem_filterMap]
  constructor
  · rintro ⟨id, hid, hchild⟩
    obtain ⟨htree, rfl⟩ := SyntaxTree.node?_eq_some.mp hchild
    exact ⟨htree, Array.mem_toList_iff.mp hid⟩
  · rintro ⟨htree, hid⟩
    exact ⟨child.id, Array.mem_toList_iff.mpr hid, SyntaxTree.node?_eq_some.mpr ⟨htree, rfl⟩⟩

theorem tree_of_mem_children {node child : Node} (h : child ∈ node.children) :
    child.tree = node.tree :=
  (mem_children.mp h).1

theorem parent?_eq_some {node parent : Node} :
    node.parent? = some parent ↔ parent.tree = node.tree ∧ node.data.parent = some parent.id := by
  unfold parent?
  rw [Option.bind_eq_some_iff]
  constructor
  · rintro ⟨id, hid, hparent⟩
    obtain ⟨htree, rfl⟩ := SyntaxTree.node?_eq_some.mp hparent
    exact ⟨htree, hid⟩
  · rintro ⟨htree, hid⟩
    exact ⟨parent.id, hid, SyntaxTree.node?_eq_some.mpr ⟨htree, rfl⟩⟩

/-- A child is the first of a kind: none that comes before it is of the kind. -/
def IsFirstChild (node : Node) (kind : NodeKind) (child : Node) : Prop :=
  ∃ before after, node.children = before ++ child :: after ∧ child.kind = kind ∧
    ∀ other ∈ before, other.kind ≠ kind

/-- A node is the last child: its place is the last that the parent lists. -/
def IsLastChild (node child : Node) : Prop :=
  child.tree = node.tree ∧ node.data.children.back? = some child.id

theorem IsFirstChild.mem_children {node child : Node} {kind : NodeKind} (h : node.IsFirstChild kind child) :
    child ∈ node.children := by
  obtain ⟨before, after, hchildren, -, -⟩ := h
  rw [hchildren]
  exact List.mem_append_right _ List.mem_cons_self

theorem firstChildOf?_eq_some_iff {node child : Node} {kind : NodeKind} :
    node.firstChildOf? kind = some child ↔ node.IsFirstChild kind child := by
  unfold firstChildOf? IsFirstChild
  rw [List.find?_eq_some_iff_append]
  simp only [beq_iff_eq, Bool.not_eq_true', beq_eq_false_iff_ne]
  constructor
  · rintro ⟨hkind, before, after, hchildren, hbefore⟩
    exact ⟨before, after, hchildren, hkind, hbefore⟩
  · rintro ⟨before, after, hchildren, hkind, hbefore⟩
    exact ⟨hkind, before, after, hchildren, hbefore⟩

theorem lastChild?_eq_some_iff {node child : Node} :
    node.lastChild? = some child ↔ node.IsLastChild child := by
  unfold lastChild?
  rw [Option.bind_eq_some_iff]
  constructor
  · rintro ⟨id, hback, hchild⟩
    obtain ⟨htree, rfl⟩ := SyntaxTree.node?_eq_some.mp hchild
    exact ⟨htree, hback⟩
  · rintro ⟨htree, hback⟩
    exact ⟨child.id, hback, SyntaxTree.node?_eq_some.mpr ⟨htree, rfl⟩⟩

/-- **The children of a node are the nodes whose parent it is.** -/
theorem mem_children_iff {node child : Node} (wf : WellFormed node.tree.nodes) :
    child ∈ node.children ↔ child.parent? = some node := by
  rw [mem_children, parent?_eq_some, ← parentAt?_id]
  constructor
  · rintro ⟨htree, hid⟩
    rw [htree]
    exact ⟨rfl, (wf.mem_children node.getElem?_id).mp hid⟩
  · rintro ⟨htree, hparent⟩
    rw [← htree] at hparent
    exact ⟨htree.symm, (wf.mem_children node.getElem?_id).mpr hparent⟩

theorem id_lt_of_mem_children {node child : Node} (wf : WellFormed node.tree.nodes)
    (h : child ∈ node.children) : node.id < child.id :=
  wf.lt_of_mem_children node.getElem?_id (mem_children.mp h).2

theorem children_pairwise {node : Node} (wf : WellFormed node.tree.nodes) :
    node.children.Pairwise fun first second => first.id < second.id := by
  unfold children
  rw [List.pairwise_filterMap]
  refine (wf.children_sorted node.getElem?_id).imp fun hlt first hfirst second hsecond => ?_
  rw [(SyntaxTree.node?_eq_some.mp hfirst).2, (SyntaxTree.node?_eq_some.mp hsecond).2]
  exact hlt

/-- **Induction from the children to their parent.** It descends from a node to larger places, of
which the arena has an end. -/
@[elab_as_elim]
theorem subtree_induction {tree : SyntaxTree} (wf : WellFormed tree.nodes) {motive : Node → Prop}
    (step : ∀ node : Node, node.tree = tree → (∀ child ∈ node.children, motive child) →
      motive node) (node : Node) (htree : node.tree = tree) : motive node := by
  refine step node htree fun child hmem => ?_
  have hchild : child.tree = tree := (tree_of_mem_children hmem).trans htree
  have hlt : node.id < child.id := by
    subst htree
    exact id_lt_of_mem_children wf hmem
  exact subtree_induction wf step child hchild
termination_by tree.nodes.size - node.id
decreasing_by
  have hend := child.inTree
  rw [hchild] at hend
  omega

/-! ## Ancestors -/

/-- The proper ancestors of a node, the parent first. -/
def ancestors (node : Node) : List Node :=
  match node.parent? with
  | none => []
  | some parent => if parent.id < node.id then parent :: parent.ancestors else []
termination_by node.id

theorem ancestors_root {tree : SyntaxTree} (wf : WellFormed tree.nodes) :
    tree.root.ancestors = [] := by
  have hparent : tree.root.data.parent = none :=
    (wf.parent_none_iff tree.root.getElem?_id).mpr rfl
  rw [ancestors, parent?, hparent]
  rfl

/-- The ancestors of a child are its parent and the ancestors of its parent. -/
theorem ancestors_of_mem_children {node child : Node} (wf : WellFormed node.tree.nodes)
    (h : child ∈ node.children) : child.ancestors = node :: node.ancestors := by
  have hparent : child.parent? = some node := (mem_children_iff wf).mp h
  rw [ancestors, hparent]
  exact if_pos (id_lt_of_mem_children wf h)

theorem id_lt_of_mem_ancestors {ancestor : Node} (node : Node) (h : ancestor ∈ node.ancestors) :
    ancestor.id < node.id := by
  fun_induction ancestors node with
  | case1 node hparent => cases h
  | case2 node parent hparent hlt ih =>
    rcases List.mem_cons.mp h with rfl | h
    · exact hlt
    · exact Nat.lt_trans (ih h) hlt
  | case3 node parent hparent hlt => cases h

theorem tree_of_mem_ancestors {ancestor : Node} (node : Node) (h : ancestor ∈ node.ancestors) :
    ancestor.tree = node.tree := by
  fun_induction ancestors node with
  | case1 node hparent => cases h
  | case2 node parent hparent hlt ih =>
    have htree : parent.tree = node.tree := (parent?_eq_some.mp hparent).1
    rcases List.mem_cons.mp h with rfl | h
    · exact htree
    · exact (ih h).trans htree
  | case3 node parent hparent hlt => cases h

/-- Nodes one around the other, the innermost first: behind each of them are its ancestors. -/
def Lineage : List Node → Prop
  | [] => True
  | node :: outer => node.ancestors = outer ∧ Lineage outer

theorem lineage_ancestors (node : Node) : Lineage node.ancestors := by
  fun_induction ancestors node with
  | case1 node hparent => exact trivial
  | case2 node parent hparent hlt ih => exact ⟨rfl, ih⟩
  | case3 node parent hparent hlt => exact trivial

theorem Lineage.nodup : ∀ {path : List Node}, Lineage path → path.Nodup
  | [], _ => List.nodup_nil
  | node :: _, ⟨houter, hlineage⟩ => by
    refine List.nodup_cons.mpr ⟨fun hmem => ?_, hlineage.nodup⟩
    rw [← houter] at hmem
    exact Nat.lt_irrefl _ (id_lt_of_mem_ancestors node hmem)

end Node

end TreeLint
