import TreeLint.Proofs.Tree.Subtree

/-!
# From sibling to sibling

A node knows its place among the children of its parent since it was added, when the later children were
not there yet. The next sibling is looked up by this place. **The law** (`Node.siblings_exact`): going from
the first child to the next sibling, and on until there is none, lists the children of a node, and from a
node to its next sibling it is one step past the subtree of the node.

The walk is `Node.SiblingWalk`, as a relation, so that its ending is something to prove. Both halves come
from what well-formedness says about places: the recorded places are those in the child lists
(`Node.nextSibling?_eq_getElem?`), and what stands between two neighbouring children belongs to the first
of them (`Arena.WellFormed.atOrBelow_iff_of_neighbours`).
-/

namespace TreeLint

open Arena

/-! ## Neighbours in a child list -/

theorem lt_of_getElem? {numbers : List Nat} (hsorted : numbers.Pairwise (· < ·)) {i j a b : Nat}
    (ha : numbers[i]? = some a) (hb : numbers[j]? = some b) (hlt : i < j) : a < b := by
  obtain ⟨hi, rfl⟩ := List.getElem?_eq_some_iff.mp ha
  obtain ⟨hj, rfl⟩ := List.getElem?_eq_some_iff.mp hb
  exact List.pairwise_iff_getElem.mp hsorted i j hi hj hlt

/-- Of numbers in order, none stands between two neighbours. -/
theorem le_or_ge_of_neighbours {numbers : List Nat} (hsorted : numbers.Pairwise (· < ·)) {index : Nat}
    {first second n : Nat} (hfirst : numbers[index]? = some first)
    (hsecond : numbers[index + 1]? = some second) (hmem : n ∈ numbers) : n ≤ first ∨ second ≤ n := by
  obtain ⟨place, hplace⟩ := List.getElem?_of_mem hmem
  rcases Nat.lt_trichotomy place index with hlt | rfl | hgt
  · exact .inl (Nat.le_of_lt (lt_of_getElem? hsorted hplace hfirst hlt))
  · rw [hfirst] at hplace
    exact .inl (Nat.le_of_eq (Option.some.inj hplace).symm)
  · rcases Nat.lt_or_eq_of_le hgt with hbehind | rfl
    · exact .inr (Nat.le_of_lt (lt_of_getElem? hsorted hsecond hplace hbehind))
    · rw [hsecond] at hplace
      exact .inr (Nat.le_of_eq (Option.some.inj hplace))

/-- **The subtree of a child reaches up to the next child.** -/
theorem Arena.WellFormed.atOrBelow_iff_of_neighbours {nodes : Array NodeData} (wf : WellFormed nodes)
    {id index first second : Nat} {data : NodeData} (hdata : nodes[id]? = some data)
    (hfirst : data.children[index]? = some first) (hsecond : data.children[index + 1]? = some second)
    (place : Nat) : AtOrBelow nodes first place ↔ first ≤ place ∧ place < second := by
  have hsorted := wf.children_sorted hdata
  have hmem : first ∈ data.children := Array.mem_of_getElem? hfirst
  have hmem' : second ∈ data.children := Array.mem_of_getElem? hsecond
  rw [← Array.getElem?_toList] at hfirst hsecond
  have hlt : first < second := lt_of_getElem? hsorted hfirst hsecond (Nat.lt_succ_self index)
  have hbelow : ∀ {child : Nat}, child ∈ data.children → AtOrBelow nodes id child := fun h =>
    (wf.atOrBelow_iff hdata).mpr (.inr ⟨_, h, .top⟩)
  constructor
  · intro h
    exact ⟨wf.le_of_atOrBelow h, wf.subtree_lt_of_siblings hdata hmem hmem' hlt h⟩
  · rintro ⟨hle, hend⟩
    -- both neighbours are in the interval of their parent, so the place between them is too
    obtain ⟨stop, hstop⟩ := wf.subtree_interval (Array.getElem?_eq_some_iff.mp hdata).1
    have hplace : AtOrBelow nodes id place := (hstop place).mpr
      ⟨Nat.le_trans ((hstop first).mp (hbelow hmem)).1 hle,
        Nat.lt_trans hend ((hstop second).mp (hbelow hmem')).2⟩
    rcases (wf.atOrBelow_iff hdata).mp hplace with rfl | ⟨child, hchild, hplace⟩
    · exact absurd hle (Nat.not_le_of_lt (wf.lt_of_mem_children hdata hmem))
    · have hchildPlace := wf.le_of_atOrBelow hplace
      rcases le_or_ge_of_neighbours hsorted hfirst hsecond (Array.mem_toList_iff.mpr hchild) with
        hfront | hbehind
      · rcases Nat.lt_or_eq_of_le hfront with hfront | rfl
        · have := wf.subtree_lt_of_siblings hdata hchild hmem hfront hplace
          omega
        · exact hplace
      · omega

namespace Node

variable {node child : Node}

/-! ## Children by their places -/

theorem map_id_children (wf : WellFormed node.tree.nodes) :
    node.children.map Node.id = node.data.children.toList := by
  unfold children
  rw [List.map_filterMap]
  refine (List.filterMap_congr fun id hid => ?_).trans List.filterMap_some
  have hlt := wf.lt_size_of_mem_children node.getElem?_id (Array.mem_toList_iff.mp hid)
  rw [SyntaxTree.node?, dif_pos hlt]
  rfl

theorem length_children (wf : WellFormed node.tree.nodes) : node.children.length = node.childCount := by
  rw [← List.length_map Node.id, map_id_children wf]
  exact Array.length_toList

/-- A child is found at the place in the list that its id has in the arena. -/
theorem getElem?_children (wf : WellFormed node.tree.nodes) (index : Nat) :
    node.children[index]? = node.data.children[index]?.bind node.tree.node? := by
  have hids : (node.children.map Node.id)[index]? = node.data.children[index]? := by
    rw [map_id_children wf, Array.getElem?_toList]
  rw [← hids, List.getElem?_map]
  cases hchild : node.children[index]? with
  | none => rfl
  | some child =>
    have htree := tree_of_mem_children (List.mem_of_getElem? hchild)
    exact (SyntaxTree.node?_eq_some.mpr ⟨htree, rfl⟩).symm

theorem firstChild?_eq_head? (wf : WellFormed node.tree.nodes) :
    node.firstChild? = node.children.head? := by
  rw [List.head?_eq_getElem?, getElem?_children wf]
  rfl

theorem lastChild?_eq_getLast? (wf : WellFormed node.tree.nodes) :
    node.lastChild? = node.children.getLast? := by
  rw [List.getLast?_eq_getElem?, getElem?_children wf, length_children wf]
  rfl

/-- **The next sibling of a child is the next child.** -/
theorem nextSibling?_eq_getElem? (wf : WellFormed node.tree.nodes) {index : Nat}
    (h : node.children[index]? = some child) : child.nextSibling? = node.children[index + 1]? := by
  have hmem : child ∈ node.children := List.mem_of_getElem? h
  have htree := tree_of_mem_children hmem
  have hindex : child.data.indexInParent = index := by
    rw [getElem?_children wf, Option.bind_eq_some_iff] at h
    obtain ⟨id, hid, hchild⟩ := h
    obtain ⟨_, rfl⟩ := SyntaxTree.node?_eq_some.mp hchild
    exact wf.indexInParent_eq node.getElem?_id hid (htree ▸ child.getElem?_id)
  unfold nextSibling?
  rw [(mem_children_iff wf).mp hmem, hindex, htree, getElem?_children wf]
  rfl

/-- A node that has a next sibling is a child, and the sibling is the child behind it. -/
theorem nextSibling?_eq_some (wf : WellFormed node.tree.nodes) {next : Node}
    (h : node.nextSibling? = some next) :
    ∃ (parent : Node) (index : Nat), parent.tree = node.tree ∧ parent.children[index]? = some node ∧
      parent.children[index + 1]? = some next := by
  unfold nextSibling? at h
  obtain ⟨parent, hparent, _⟩ := Option.bind_eq_some_iff.mp h
  have htree := (parent?_eq_some.mp hparent).1
  have hmem : node ∈ parent.children := (mem_children_iff (htree ▸ wf)).mpr hparent
  obtain ⟨index, hindex⟩ := List.getElem?_of_mem hmem
  exact ⟨parent, index, htree, hindex, nextSibling?_eq_getElem? (htree ▸ wf) hindex ▸ h⟩

/-! ## The walk -/

/-- **The walk from sibling to sibling**, and the nodes it comes to. -/
inductive SiblingWalk : Option Node → List Node → Prop
  /-- It ends where no node is left. -/
  | done : SiblingWalk none []
  | next {node : Node} {rest : List Node} : SiblingWalk node.nextSibling? rest →
      SiblingWalk (some node) (node :: rest)

/-- A walk comes to the same nodes each time. -/
theorem SiblingWalk.unique {start : Option Node} {first second : List Node}
    (h : SiblingWalk start first) (h' : SiblingWalk start second) : first = second := by
  induction h generalizing second with
  | done =>
    cases h'
    rfl
  | next _ ih =>
    cases h' with
    | next h' => rw [ih h']

/-- From any child on, the walk comes to the children that are left. -/
theorem siblingWalk_drop (wf : WellFormed node.tree.nodes) (index : Nat) :
    SiblingWalk node.children[index]? (node.children.drop index) := by
  cases h : node.children[index]? with
  | none =>
    rw [List.drop_of_length_le (List.getElem?_eq_none_iff.mp h)]
    exact .done
  | some child =>
    obtain ⟨hlt, rfl⟩ := List.getElem?_eq_some_iff.mp h
    rw [List.drop_eq_getElem_cons hlt]
    refine .next ?_
    rw [nextSibling?_eq_getElem? wf h]
    exact siblingWalk_drop wf (index + 1)
termination_by node.children.length - index

/-! ## The law -/

/-- The subtree of a node that has a next sibling reaches up to it. -/
theorem mem_subtree_iff_of_nextSibling? (wf : WellFormed node.tree.nodes) {next other : Node}
    (h : node.nextSibling? = some next) :
    other ∈ node.subtree ↔ other.tree = node.tree ∧ node.id ≤ other.id ∧ other.id < next.id := by
  obtain ⟨parent, index, htree, hnode, hnext⟩ := nextSibling?_eq_some wf h
  have wf' : WellFormed parent.tree.nodes := htree ▸ wf
  have hid : ∀ {place : Nat} {child : Node}, parent.children[place]? = some child →
      parent.data.children[place]? = some child.id := by
    intro place child hchild
    rw [← Array.getElem?_toList, ← map_id_children wf', List.getElem?_map, hchild]
    rfl
  have hplaces := wf'.atOrBelow_iff_of_neighbours parent.getElem?_id (hid hnode) (hid hnext) other.id
  rw [mem_subtree wf, ← htree, hplaces]

/-- **Going from sibling to sibling lists the children, and each step is past one subtree.** From the first
child of a node, the walk comes to the children in order, each once and as many as are counted, and the
last one it comes to is the last child; their parent is the node. The root has no next sibling. If a node
has one, it has the same parent, and it stands right behind the node of the subtree that stands last. -/
theorem siblings_exact {tree : SyntaxTree} (built : tree.Built) (node : Node) (htree : node.tree = tree) :
    (∀ nodes, SiblingWalk node.firstChild? nodes ↔ nodes = node.children) ∧
      node.children.Nodup ∧ node.children.length = node.childCount ∧
      node.children.getLast? = node.lastChild? ∧
      (∀ child, child ∈ node.children ↔ child.parent? = some node) ∧
      tree.root.nextSibling? = none ∧
      ∀ next, node.nextSibling? = some next →
        (∃ parent, node.parent? = some parent ∧ next.parent? = some parent) ∧
          ∃ last ∈ node.subtree, (∀ other ∈ node.subtree, other.id ≤ last.id) ∧
            next.id = last.id + 1 := by
  subst htree
  have wf := built.wellFormed
  have hwalk : SiblingWalk node.firstChild? node.children := by
    have hall := siblingWalk_drop wf 0
    rwa [List.drop_zero, ← List.head?_eq_getElem?, ← firstChild?_eq_head? wf] at hall
  refine ⟨fun nodes => ⟨fun h => h.unique hwalk, fun h => h ▸ hwalk⟩, ?_, length_children wf,
    (lastChild?_eq_getLast? wf).symm, fun child => mem_children_iff wf, ?_, fun next hnext => ?_⟩
  · refine (children_pairwise wf).imp fun hlt heq => ?_
    rw [heq] at hlt
    exact Nat.lt_irrefl _ hlt
  · have hparent : node.tree.root.parent? = none := by
      rw [parent?, (wf.parent_none_iff node.tree.root.getElem?_id).mpr rfl]
      rfl
    rw [nextSibling?, hparent]
    rfl
  · obtain ⟨parent, index, htree, hnode, hsecond⟩ := nextSibling?_eq_some wf hnext
    have wf' : WellFormed parent.tree.nodes := htree ▸ wf
    have hmem := List.mem_of_getElem? hsecond
    refine ⟨⟨parent, (mem_children_iff wf').mp (List.mem_of_getElem? hnode),
      (mem_children_iff wf').mp hmem⟩, ?_⟩
    have hsubtree : ∀ {other : Node}, other ∈ node.subtree ↔ _ := mem_subtree_iff_of_nextSibling? wf hnext
    have hself : node ∈ node.subtree := by
      rw [subtree_eq wf]
      exact List.mem_cons_self
    have hlt : node.id < next.id := (hsubtree.mp hself).2.2
    have hend := next.inTree
    rw [(tree_of_mem_children hmem).trans htree] at hend
    refine ⟨⟨node.tree, next.id - 1, by omega⟩, hsubtree.mpr ⟨rfl, ?_, ?_⟩, fun other hother => ?_, ?_⟩
    · show node.id ≤ next.id - 1
      omega
    · show next.id - 1 < next.id
      omega
    · have := (hsubtree.mp hother).2.2
      show other.id ≤ next.id - 1
      omega
    · show next.id = next.id - 1 + 1
      omega

/-- In a block with an empty statement in front of a name, the walk comes to both. -/
theorem bareTree_siblings :
    bareTree ∈ TreeBuilder.empty.trees bareRequests ∧ bareTree.root.tree = bareTree ∧
      SiblingWalk bareTree.root.firstChild? bareTree.root.children ∧
      bareStatement.tree = bareTree ∧ ∃ next, bareStatement.nextSibling? = some next ∧
        ∃ last ∈ bareStatement.subtree, next.id = last.id + 1 := by
  have hmem : bareTree ∈ TreeBuilder.empty.trees bareRequests := List.mem_singleton_self bareTree
  have built : bareTree.Built := .ofRequests bareRequests hmem
  have hnext : bareStatement.nextSibling? = some ⟨bareTree, 2, by decide⟩ := rfl
  obtain ⟨hwalk, _⟩ := siblings_exact built bareTree.root rfl
  obtain ⟨_, _, _, _, _, _, hsteps⟩ := siblings_exact built bareStatement rfl
  obtain ⟨_, last, hlast, _, hid⟩ := hsteps _ hnext
  exact ⟨hmem, rfl, (hwalk _).mpr rfl, rfl, _, hnext, last, hlast, hid⟩

end Node

end TreeLint
