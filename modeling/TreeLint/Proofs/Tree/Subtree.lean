import Mathlib.Data.List.Sort
import TreeLint.Proofs.Tree.Construction
import TreeLint.Proofs.Tree.Tour

/-!
# Subtrees and their tokens

The text of a node is the first token at or below it. It is looked up without going through the subtree:
the walk from last child to last child finds the end of the subtree, and the tokens are read off the
array up to there. **The law** (`Node.tokenValue?_exact`): this is the first token of the plain recursion
over the children (`Node.subtree`), and the walk ends at the node of the subtree that stands last.

The walk is `Node.LastWalk`, as a relation, so that its ending is something to prove. In an arena that is
well formed the end it finds bounds the interval of places that the subtree is
(`Node.atOrBelow_iff_subtreeEnd`), and so the places of the subtree are a range
(`Node.map_id_subtree`).
-/

namespace TreeLint

open Arena

/-- No child stands behind the last one. -/
theorem Arena.WellFormed.le_of_back? {nodes : Array NodeData} (wf : WellFormed nodes) {id child last : Nat}
    {data : NodeData} (hdata : nodes[id]? = some data) (hlast : data.children.back? = some last)
    (hchild : child ∈ data.children) : child ≤ last := by
  rw [← Array.getLast?_toList] at hlast
  obtain ⟨others, hothers⟩ := List.getLast?_eq_some_iff.mp hlast
  have hsorted := wf.children_sorted hdata
  rw [hothers, List.pairwise_append] at hsorted
  rw [← Array.mem_toList_iff, hothers] at hchild
  rcases List.mem_append.mp hchild with hother | heq
  · exact Nat.le_of_lt (hsorted.2.2 child hother last (List.mem_singleton_self last))
  · exact Nat.le_of_eq (List.mem_singleton.mp heq)

/-! ## The nodes of a subtree -/

/-- The nodes of the subtree of a node: the node, and then the subtrees of its children from first to
last. -/
def Node.subtree (node : Node) : List Node :=
  node :: node.children.attach.flatMap fun ⟨child, _⟩ =>
    if node.id < child.id then child.subtree else []
termination_by node.tree.nodes.size - node.id
decreasing_by
  have htree := Node.tree_of_mem_children ‹_›
  have hend := child.inTree
  rw [htree] at hend ⊢
  omega

namespace Node

/-- **The subtree is the plain recursion.** -/
theorem subtree_eq {node : Node} (wf : WellFormed node.tree.nodes) :
    node.subtree = node :: node.children.flatMap subtree := by
  rw [subtree, flatMap_attach_children wf]

/-- The nodes of a subtree are those that its tour enters, in the same order. -/
theorem subtree_eq_filterMap_tour {tree : SyntaxTree} (wf : WellFormed tree.nodes) (node : Node)
    (htree : node.tree = tree) : node.subtree = node.tour.filterMap Visit.entered? := by
  refine subtree_induction wf (fun node htree ih => ?_) node htree
  subst htree
  rw [subtree_eq wf, tour_eq wf, List.filterMap_append, List.filterMap_cons, Visit.entered?_enter,
    List.filterMap_flatMap, List.flatMap_congr ih]
  simp

/-- The nodes of a subtree are those at or below its top. -/
theorem mem_subtree {node other : Node} (wf : WellFormed node.tree.nodes) :
    other ∈ node.subtree ↔
      other.tree = node.tree ∧ AtOrBelow node.tree.nodes node.id other.id := by
  rw [subtree_eq_filterMap_tour wf node rfl, List.mem_filterMap]
  constructor
  · rintro ⟨visit, hmem, hentered⟩
    obtain rfl := Visit.entered?_eq_some.mp hentered
    exact atOrBelow_of_mem_tour wf node rfl _ hmem
  · rintro ⟨htree, hbelow⟩
    exact ⟨⟨.enter, other⟩, enter_mem_tour wf node rfl other htree hbelow, rfl⟩

/-- The nodes of a subtree are listed in document order. -/
theorem subtree_pairwise {node : Node} (wf : WellFormed node.tree.nodes) :
    node.subtree.Pairwise fun first second => first.id < second.id := by
  rw [subtree_eq_filterMap_tour wf node rfl]
  exact entered_pairwise wf node rfl

/-! ## The end of a subtree -/

theorem mem_children_of_lastChild? {node child : Node} (h : node.lastChild? = some child) :
    child ∈ node.children := by
  obtain ⟨htree, hback⟩ := lastChild?_eq_some_iff.mp h
  exact mem_children.mpr ⟨htree, Array.mem_of_back? hback⟩

/-- A node without a last child has no children. -/
theorem children_eq_empty_of_lastChild? {node : Node} (wf : WellFormed node.tree.nodes)
    (h : node.lastChild? = none) : node.data.children = #[] := by
  cases hback : node.data.children.back? with
  | none => exact Array.back?_eq_none_iff.mp hback
  | some last =>
    have hlast : last < node.tree.nodes.size :=
      wf.lt_size_of_mem_children node.getElem?_id (Array.mem_of_back? hback)
    have hchild : node.lastChild? = some ⟨node.tree, last, hlast⟩ :=
      lastChild?_eq_some_iff.mpr ⟨rfl, hback⟩
    rw [h] at hchild
    cases hchild

/-- **The walk from last child to last child**, to the node where it ends. -/
inductive LastWalk : Node → Node → Prop
  /-- It ends at a node that has no children. -/
  | done {node : Node} : node.lastChild? = none → LastWalk node node
  | down {node child last : Node} : node.lastChild? = some child → LastWalk child last →
      LastWalk node last

/-- At a node without children the end of the subtree is right behind the node. -/
theorem subtreeEnd_of_none {node : Node} (wf : WellFormed node.tree.nodes)
    (h : node.lastChild? = none) : node.tree.subtreeEnd node.id = node.id + 1 := by
  rw [SyntaxTree.subtreeEnd]
  simp only [node.getElem?_id, children_eq_empty_of_lastChild? wf h, Array.back?_empty]

/-- The subtree of a node ends where that of its last child does. -/
theorem subtreeEnd_of_some {node child : Node} (wf : WellFormed node.tree.nodes)
    (h : node.lastChild? = some child) :
    node.tree.subtreeEnd node.id = node.tree.subtreeEnd child.id := by
  obtain ⟨htree, hback⟩ := lastChild?_eq_some_iff.mp h
  have hforward : node.id < child.id := id_lt_of_mem_children wf (mem_children_of_lastChild? h)
  have hinside : child.id < node.tree.nodes.size := htree ▸ child.inTree
  conv => lhs; rw [SyntaxTree.subtreeEnd]
  simp only [node.getElem?_id, hback, if_pos (And.intro hforward hinside)]

/-- **The walk ends**, and the end of the subtree is right behind the node where it ends. -/
theorem exists_lastWalk {tree : SyntaxTree} (wf : WellFormed tree.nodes) (node : Node)
    (htree : node.tree = tree) :
    ∃ last, node.LastWalk last ∧ last.tree = tree ∧ tree.subtreeEnd node.id = last.id + 1 := by
  refine subtree_induction wf (fun node htree ih => ?_) node htree
  subst htree
  cases hlast : node.lastChild? with
  | none => exact ⟨node, .done hlast, rfl, subtreeEnd_of_none wf hlast⟩
  | some child =>
    obtain ⟨last, hwalk, htree, hend⟩ := ih child (mem_children_of_lastChild? hlast)
    exact ⟨last, .down hlast hwalk, htree, (subtreeEnd_of_some wf hlast).trans hend⟩

/-- **The subtree of a node is the interval up to the end that the walk finds.** -/
theorem atOrBelow_iff_subtreeEnd {tree : SyntaxTree} (wf : WellFormed tree.nodes) (node : Node)
    (htree : node.tree = tree) : ∀ place,
      AtOrBelow tree.nodes node.id place ↔ node.id ≤ place ∧ place < tree.subtreeEnd node.id := by
  refine subtree_induction wf (fun node htree ih => ?_) node htree
  subst htree
  intro place
  cases hlast : node.lastChild? with
  | none =>
    rw [wf.atOrBelow_iff node.getElem?_id, subtreeEnd_of_none wf hlast,
      children_eq_empty_of_lastChild? wf hlast]
    simp only [Array.not_mem_empty, false_and, exists_false, or_false]
    omega
  | some child =>
    have hmem : child ∈ node.children := mem_children_of_lastChild? hlast
    have hid : child.id ∈ node.data.children := (mem_children.mp hmem).2
    have hchild := ih child hmem
    have hforward : node.id < child.id := id_lt_of_mem_children wf hmem
    have hnonempty : child.id < node.tree.subtreeEnd child.id := ((hchild child.id).mp .top).2
    have hbelow : AtOrBelow node.tree.nodes node.id child.id :=
      (wf.atOrBelow_iff node.getElem?_id).mpr (.inr ⟨child.id, hid, .top⟩)
    rw [subtreeEnd_of_some wf hlast]
    constructor
    · intro h
      refine ⟨wf.le_of_atOrBelow h, ?_⟩
      rcases (wf.atOrBelow_iff node.getElem?_id).mp h with rfl | ⟨other, hother, hplace⟩
      · exact Nat.lt_trans hforward hnonempty
      · have hle : other ≤ child.id :=
          wf.le_of_back? node.getElem?_id (lastChild?_eq_some_iff.mp hlast).2 hother
        rcases Nat.lt_or_eq_of_le hle with hlt | rfl
        · exact Nat.lt_trans
            (wf.subtree_lt_of_siblings node.getElem?_id hother hid hlt hplace) hnonempty
        · exact ((hchild place).mp hplace).2
    · rintro ⟨hle, hlt⟩
      rcases Nat.lt_or_ge place child.id with hfront | hback
      · -- the last child is in the interval of the node, so what stands in front of it is too
        obtain ⟨stop, hstop⟩ := wf.subtree_interval node.inTree
        exact (hstop place).mpr ⟨hle, Nat.lt_trans hfront ((hstop child.id).mp hbelow).2⟩
      · exact hbelow.trans ((hchild place).mpr ⟨hback, hlt⟩)

/-- **The places of a subtree are a range.** -/
theorem map_id_subtree {node : Node} (wf : WellFormed node.tree.nodes) :
    node.subtree.map Node.id =
      List.range' node.id (node.tree.subtreeEnd node.id - node.id) := by
  have hsorted : (node.subtree.map Node.id).Pairwise (· < ·) :=
    List.pairwise_map.mpr (subtree_pairwise wf)
  refine hsorted.eq_of_mem_iff List.pairwise_lt_range' fun place => ?_
  have hplace := atOrBelow_iff_subtreeEnd wf node rfl place
  rw [List.mem_map, List.mem_range'_1]
  constructor
  · rintro ⟨other, hmem, rfl⟩
    have := hplace.mp ((mem_subtree wf).mp hmem).2
    omega
  · intro hrange
    have hbelow : AtOrBelow node.tree.nodes node.id place := hplace.mpr (by omega)
    exact ⟨⟨node.tree, place, hbelow.lt_size node.inTree⟩, (mem_subtree wf).mpr ⟨rfl, hbelow⟩, rfl⟩

/-! ## The tokens of a subtree -/

/-- The elements at a range of places are a part of the list. -/
theorem filterMap_getElem?_range' {α : Type} (elements : List α) (start count : Nat) :
    (List.range' start count).filterMap (elements[·]?) = (elements.drop start).take count := by
  induction count generalizing start with
  | zero => rfl
  | succ count ih =>
    rw [List.range'_succ, List.filterMap_cons, ih]
    cases hfirst : elements[start]? with
    | none =>
      have hend : elements.length ≤ start := List.getElem?_eq_none_iff.mp hfirst
      rw [List.drop_of_length_le hend, List.drop_of_length_le (Nat.le_succ_of_le hend)]
      simp
    | some first =>
      obtain ⟨hlt, rfl⟩ := List.getElem?_eq_some_iff.mp hfirst
      rw [List.drop_eq_getElem_cons hlt, List.take_succ_cons]

/-- The places below a node are a range that starts right behind it. -/
theorem map_id_below {node : Node} (wf : WellFormed node.tree.nodes) :
    (node.children.flatMap subtree).map Node.id =
      List.range' (node.id + 1) (node.tree.subtreeEnd node.id - (node.id + 1)) := by
  have hnonempty : node.id < node.tree.subtreeEnd node.id :=
    ((atOrBelow_iff_subtreeEnd wf node rfl node.id).mp .top).2
  have hplaces := map_id_subtree wf
  rw [subtree_eq wf, List.map_cons,
    show node.tree.subtreeEnd node.id - node.id = node.tree.subtreeEnd node.id - (node.id + 1) + 1 by
      omega, List.range'_succ] at hplaces
  exact (List.cons.inj hplaces).2

/-- **What the arena holds below a node is one part of it**, from the node to the end of its subtree. -/
theorem map_data_below {node : Node} (wf : WellFormed node.tree.nodes) :
    (node.children.flatMap subtree).map Node.data =
      (node.tree.nodes.extract (node.id + 1) (node.tree.subtreeEnd node.id)).toList := by
  have hdata : ∀ other ∈ node.children.flatMap subtree,
      node.tree.nodes.toList[other.id]? = some other.data := by
    intro other hmem
    have hother : other ∈ node.subtree := by
      rw [subtree_eq wf]
      exact List.mem_cons_of_mem _ hmem
    rw [Array.getElem?_toList, ← ((mem_subtree wf).mp hother).1]
    exact other.getElem?_id
  calc (node.children.flatMap subtree).map Node.data
      = (node.children.flatMap subtree).filterMap
          fun other => node.tree.nodes.toList[other.id]? := by
        rw [List.filterMap_congr hdata, List.filterMap_eq_map']
    _ = ((node.children.flatMap subtree).map Node.id).filterMap (node.tree.nodes.toList[·]?) := by
        rw [List.filterMap_map]
        rfl
    _ = _ := by
        rw [map_id_below wf, filterMap_getElem?_range', Array.toList_extract,
          List.extract_eq_take_drop]

/-- **The text of a node is the first token of its subtree.** -/
theorem tokenValue?_eq_findSome? {node : Node} (wf : WellFormed node.tree.nodes) :
    node.tokenValue? = node.subtree.findSome? Node.token := by
  have hbelow : node.tree.firstToken? (node.id + 1) (node.tree.subtreeEnd node.id) =
      (node.children.flatMap subtree).findSome? Node.token := by
    unfold SyntaxTree.firstToken?
    rw [← Array.findSome?_toList, ← map_data_below wf, List.findSome?_map]
    rfl
  unfold tokenValue?
  rw [subtree_eq wf, List.findSome?_cons, hbelow]
  cases node.token <;> rfl

/-- **The text of a node is the first token of the plain recursion over its children.** There is none
exactly when no node of the subtree carries a token, and it is never that of a node outside. It is found
by a walk from last child to last child, which ends, at the node of the subtree that stands last; the end
of the subtree is right behind it. -/
theorem tokenValue?_exact {tree : SyntaxTree} (built : tree.Built) (node : Node)
    (htree : node.tree = tree) :
    node.tokenValue? = node.subtree.findSome? Node.token ∧
      (node.tokenValue? = none ↔ ∀ other ∈ node.subtree, other.token = none) ∧
      (∀ text, node.tokenValue? = some text → ∃ other ∈ node.subtree, other.token = some text) ∧
      ∃ last, node.LastWalk last ∧ last ∈ node.subtree ∧
        (∀ other ∈ node.subtree, other.id ≤ last.id) ∧
        tree.subtreeEnd node.id = last.id + 1 := by
  subst htree
  have wf := built.wellFormed
  have hvalue := tokenValue?_eq_findSome? wf
  refine ⟨hvalue, ?_, fun text htext => ?_, ?_⟩
  · rw [hvalue, List.findSome?_eq_none_iff]
  · rw [hvalue] at htext
    exact List.exists_of_findSome?_eq_some htext
  · obtain ⟨last, hwalk, htree, hend⟩ := exists_lastWalk wf node rfl
    have hplaces := atOrBelow_iff_subtreeEnd wf node rfl
    rw [hend] at hplaces
    have hnonempty : node.id ≤ last.id := Nat.le_of_lt_succ ((hplaces node.id).mp .top).2
    have hlast : AtOrBelow node.tree.nodes node.id last.id :=
      (hplaces last.id).mpr ⟨hnonempty, Nat.lt_succ_self _⟩
    refine ⟨last, hwalk, (mem_subtree wf).mpr ⟨htree, hlast⟩, fun other hother => ?_, hend⟩
    exact Nat.le_of_lt_succ ((hplaces other.id).mp ((mem_subtree wf).mp hother).2).2

/-- What a builder is told of a block with an empty statement in front of a name. -/
def bareRequests : List TreeBuilder.Request :=
  [.tell (.openNode .block none 1 1), .tell (.openNode .statement none 2 3), .tell .close,
    .tell (.leaf .identifier "x" 3 3), .tell .close, .finish]

/-- The tree that comes out. -/
def bareTree : SyntaxTree where
  nodes := #[⟨.block, none, 1, 1, none, 0, #[1, 2]⟩, ⟨.statement, none, 2, 3, some 0, 0, #[]⟩,
    ⟨.identifier, some "x", 3, 3, some 0, 1, #[]⟩]
  nonempty := by decide

/-- The empty statement in it. -/
def bareStatement : Node :=
  ⟨bareTree, 1, by decide⟩

/-- The block has the name for its text, and the statement in front of the name has none. -/
theorem bareTree_texts :
    bareTree ∈ TreeBuilder.empty.trees bareRequests ∧
      bareTree.root.tree = bareTree ∧ bareTree.root.tokenValue? = some "x" ∧
      (∃ other ∈ bareTree.root.subtree, other.token = some "x") ∧
      bareStatement.tree = bareTree ∧ bareStatement.tokenValue? = none ∧
      ∀ other ∈ bareStatement.subtree, other.token = none := by
  have hmem : bareTree ∈ TreeBuilder.empty.trees bareRequests := List.mem_singleton_self bareTree
  have built : bareTree.Built := .ofRequests bareRequests hmem
  have htext : bareTree.root.tokenValue? = some "x" := by cbv
  have hnone : bareStatement.tokenValue? = none := by cbv
  obtain ⟨_, _, hsome, _⟩ := tokenValue?_exact built bareTree.root rfl
  obtain ⟨_, hbare, _⟩ := tokenValue?_exact built bareStatement rfl
  exact ⟨hmem, rfl, htext, hsome "x" htext, rfl, hnone, hbare.mp hnone⟩

end Node

end TreeLint
