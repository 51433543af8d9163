import Mathlib.Data.List.Sort
import TreeLint.Proofs.Tree.Construction

/-!
# An arena as it grows

A builder adds the nodes of a tree one by one, so what it holds on the way is part of the arena that it
will answer: the nodes before some place, with those of their children that stand before it too
(`Arena.upTo`). The rest of the children are still to come (`Arena.owedAt`). This module says how both
change from one place to the next, read off a well-formed arena, and that adding the node at a place makes
that change (`TreeBuilder.append_eq_upTo`).

Which node the next one belongs to can be told from the children that are still to come: of the nodes on
the path to the place before, it is the innermost one to which some are
(`Arena.WellFormed.exists_parentAt?_of_owedAt`).

The arenas that builders answer have two properties that well-formedness does not give, and which loading
depends on: they are bounded in size, and their root counts as a first child (`Arena.Bounded`).
-/

namespace TreeLint

open Arena

/-! ## The nodes before a place -/

/-- A node when only the nodes before a place are there: its later children are not listed yet. -/
def NodeData.upTo (data : NodeData) (place : Nat) : NodeData :=
  { data with children := data.children.filter (· < place) }

/-- The number of children of a node that do not stand before a place. -/
def NodeData.owed (data : NodeData) (place : Nat) : Nat :=
  data.children.size - (data.upTo place).children.size

namespace Arena

/-- The nodes before a place, when no others are there. -/
def upTo (nodes : Array NodeData) (place : Nat) : Array NodeData :=
  (nodes.take place).map (·.upTo place)

/-- The number of children of the node at one place that do not stand before another. -/
def owedAt (nodes : Array NodeData) (place id : Nat) : Nat :=
  (nodes[id]?.map (·.owed place)).getD 0

theorem getElem?_upTo (nodes : Array NodeData) (place id : Nat) :
    (upTo nodes place)[id]? = if id < place then nodes[id]?.map (·.upTo place) else none := by
  unfold upTo
  rw [Array.getElem?_map, Array.take_eq_extract, Array.getElem?_extract, Nat.sub_zero, Nat.zero_add]
  by_cases hid : id < place
  · by_cases hsize : id < nodes.size
    · rw [if_pos hid, if_pos (Nat.lt_min.mpr ⟨hid, hsize⟩)]
    · have hnone : nodes[id]? = none := Array.getElem?_eq_none (Nat.le_of_not_lt hsize)
      rw [hnone, if_pos hid, ite_self]
  · rw [if_neg hid, if_neg fun h => hid (Nat.lt_min.mp h).1]
    rfl

/-- Of numbers in order, those below the next number are those below a number, and that number. -/
theorem filter_lt_succ {numbers : List Nat} (hsorted : numbers.Pairwise (· < ·)) (n : Nat) :
    numbers.filter (· < n + 1) = numbers.filter (· < n) ++ if n ∈ numbers then [n] else [] := by
  refine (hsorted.filter _).eq_of_mem_iff ?_ fun m => ?_
  · refine List.pairwise_append.mpr ⟨hsorted.filter _, ?_, fun below hbelow last hlast => ?_⟩
    · split
      · exact List.pairwise_singleton _ _
      · exact List.Pairwise.nil
    · split at hlast
      · rw [List.mem_singleton.mp hlast]
        exact of_decide_eq_true (List.mem_filter.mp hbelow).2
      · cases hlast
  · rw [List.mem_append, List.mem_filter, List.mem_filter, decide_eq_true_eq, decide_eq_true_eq,
      Nat.lt_succ_iff_lt_or_eq]
    split <;> grind

/-- Of numbers in order, as many stand before a number as are below it. -/
theorem length_filter_lt {numbers : List Nat} (hsorted : numbers.Pairwise (· < ·)) {n index : Nat}
    (hindex : numbers[index]? = some n) : (numbers.filter (· < n)).length = index := by
  induction numbers generalizing index with
  | nil => cases hindex
  | cons first rest ih =>
    obtain ⟨hfirst, hrest⟩ := List.pairwise_cons.mp hsorted
    cases index with
    | zero =>
      cases hindex
      refine List.length_eq_zero_iff.mpr (List.filter_eq_nil_iff.mpr fun later hmem => ?_)
      rcases List.mem_cons.mp hmem with rfl | hmem
      · simp
      · simpa using Nat.le_of_lt (hfirst later hmem)
    | succ index =>
      have hlt : first < n := hfirst n (List.mem_of_getElem? hindex)
      rw [List.filter_cons, if_pos (decide_eq_true hlt), List.length_cons, ih hrest hindex]

section Growth

variable {nodes : Array NodeData}

theorem size_upTo {place : Nat} (hplace : place ≤ nodes.size) : (upTo nodes place).size = place := by
  unfold upTo
  rw [Array.size_map, Array.take_eq_extract, Array.size_extract, Nat.sub_zero,
    Nat.min_eq_left hplace]

/-- Going on by one place lists one more child, at the parent of that place. -/
theorem WellFormed.upTo_succ (wf : WellFormed nodes) {id : Nat} {data : NodeData}
    (hdata : nodes[id]? = some data) (place : Nat) :
    data.upTo (place + 1) =
      if parentAt? nodes place = some id then
        { data.upTo place with children := (data.upTo place).children.push place }
      else data.upTo place := by
  have hmem : place ∈ data.children.toList ↔ parentAt? nodes place = some id :=
    Array.mem_toList_iff.trans (wf.mem_children hdata)
  have hchildren : data.children.filter (· < place + 1) =
      if parentAt? nodes place = some id then (data.children.filter (· < place)).push place
      else data.children.filter (· < place) := by
    rw [← Array.toList_inj, Array.toList_filter, filter_lt_succ (wf.children_sorted hdata) place]
    by_cases hparent : parentAt? nodes place = some id
    · rw [if_pos (hmem.mpr hparent), if_pos hparent, Array.toList_push, Array.toList_filter]
    · rw [if_neg (mt hmem.mp hparent), if_neg hparent, Array.toList_filter, List.append_nil]
  unfold NodeData.upTo
  rw [hchildren]
  split <;> rfl

/-- Nothing that stands behind a node is a child of a node before it. -/
theorem WellFormed.upTo_eq (wf : WellFormed nodes) {id place : Nat} {data : NodeData}
    (hdata : nodes[id]? = some data) (hplace : nodes.size ≤ place) : data.upTo place = data := by
  have hall : data.children.filter (· < place) = data.children := by
    refine Array.filter_eq_self.mpr fun child hmem => decide_eq_true ?_
    exact Nat.lt_of_lt_of_le (wf.lt_size_of_mem_children hdata hmem) hplace
  unfold NodeData.upTo
  rw [hall]

theorem WellFormed.upTo_size (wf : WellFormed nodes) : upTo nodes nodes.size = nodes := by
  refine Array.ext_getElem? fun id => ?_
  rw [getElem?_upTo]
  cases hdata : nodes[id]? with
  | none => exact ite_self _
  | some data =>
    have hid : id < nodes.size := (Array.getElem?_eq_some_iff.mp hdata).1
    rw [if_pos hid, Option.map_some, wf.upTo_eq hdata (Nat.le_refl _)]

/-- A node has no children yet when it is added. -/
theorem WellFormed.children_upTo_self (wf : WellFormed nodes) {place : Nat} {data : NodeData}
    (hdata : nodes[place]? = some data) : (data.upTo (place + 1)).children = #[] := by
  refine Array.filter_eq_empty_iff.mpr fun child hmem hlt => ?_
  have := wf.lt_of_mem_children hdata hmem
  have := of_decide_eq_true hlt
  omega

/-- The number of children that are listed before a child is its place among the children. -/
theorem WellFormed.size_children_upTo (wf : WellFormed nodes) {id place : Nat}
    {data child : NodeData} (hdata : nodes[id]? = some data) (hchild : nodes[place]? = some child)
    (hparent : parentAt? nodes place = some id) :
    (data.upTo place).children.size = child.indexInParent := by
  have hmem : place ∈ data.children := (wf.mem_children hdata).mpr hparent
  obtain ⟨index, hindex⟩ := Array.mem_iff_getElem?.mp hmem
  rw [wf.indexInParent_eq hdata hindex hchild]
  unfold NodeData.upTo
  rw [← Array.length_toList, Array.toList_filter]
  refine length_filter_lt (wf.children_sorted hdata) ?_
  rw [Array.getElem?_toList]
  exact hindex

/-- The children that do not stand before a place are those behind it, and the one at the place. -/
theorem WellFormed.owedAt_eq (wf : WellFormed nodes) (place id : Nat) :
    owedAt nodes place id =
      owedAt nodes (place + 1) id + if parentAt? nodes place = some id then 1 else 0 := by
  unfold owedAt
  cases hdata : nodes[id]? with
  | none =>
    have hparent : parentAt? nodes place ≠ some id := fun h =>
      Nat.not_lt_of_le (Array.getElem?_eq_none_iff.mp hdata) (wf.parentAt?_lt_size h)
    rw [if_neg hparent]
    rfl
  | some data =>
    have hle : (data.upTo (place + 1)).children.size ≤ data.children.size := Array.size_filter_le
    simp only [Option.map_some, Option.getD_some, NodeData.owed]
    rw [wf.upTo_succ hdata place] at hle ⊢
    split at hle
    · next hparent =>
      simp only [if_pos hparent, Array.size_push] at hle ⊢
      omega
    · next hparent => simp only [if_neg hparent, Nat.add_zero]

theorem WellFormed.owedAt_self (wf : WellFormed nodes) {place : Nat} {data : NodeData}
    (hdata : nodes[place]? = some data) : owedAt nodes (place + 1) place = data.children.size := by
  unfold owedAt NodeData.owed
  rw [hdata, Option.map_some, Option.getD_some, wf.children_upTo_self hdata]
  rfl

/-- A node to which children are still to come has a child that does not stand before the place. -/
theorem WellFormed.exists_child_of_owedAt (wf : WellFormed nodes) {place id : Nat}
    (h : owedAt nodes place id ≠ 0) : ∃ child, place ≤ child ∧ parentAt? nodes child = some id := by
  unfold owedAt at h
  cases hdata : nodes[id]? with
  | none =>
    rw [hdata] at h
    exact absurd rfl h
  | some data =>
    rw [hdata, Option.map_some, Option.getD_some] at h
    by_contra hnone
    have hall : data.children.filter (· < place) = data.children := by
      refine Array.filter_eq_self.mpr fun child hmem => decide_eq_true ?_
      by_contra hge
      exact hnone ⟨child, Nat.le_of_not_lt hge, (wf.mem_children hdata).mp hmem⟩
    unfold NodeData.owed NodeData.upTo at h
    rw [hall, Nat.sub_self] at h
    exact h rfl

/-- **Where the next node goes.** If children are still to come to a node before a place, then the parent
of that place is this node or stands behind it. -/
theorem WellFormed.exists_parentAt?_of_owedAt (wf : WellFormed nodes) {place id : Nat}
    (hid : id < place) (h : owedAt nodes place id ≠ 0) :
    ∃ parent, parentAt? nodes place = some parent ∧ id ≤ parent := by
  obtain ⟨child, hchild, hparent⟩ := wf.exists_child_of_owedAt h
  obtain ⟨stop, hstop⟩ := wf.subtree_interval (wf.parentAt?_lt_size hparent)
  have hlast : AtOrBelow nodes id child := .child hparent .top
  -- the subtree is an interval, so it holds the place along with the child
  have hplace : AtOrBelow nodes id place :=
    (hstop place).mpr ⟨Nat.le_of_lt hid, Nat.lt_of_le_of_lt hchild ((hstop child).mp hlast).2⟩
  cases hplace with
  | top => exact absurd hid (Nat.lt_irrefl _)
  | child hup habove => exact ⟨_, hup, wf.le_of_atOrBelow habove⟩

/-- The parent of the next place is a node at or above this one. -/
theorem WellFormed.atOrBelow_parentAt?_succ (wf : WellFormed nodes) {place parent : Nat}
    (h : parentAt? nodes (place + 1) = some parent) : AtOrBelow nodes parent place := by
  obtain ⟨stop, hstop⟩ := wf.subtree_interval (wf.parentAt?_lt_size h)
  have hbelow : AtOrBelow nodes parent (place + 1) := .child h .top
  have hle : parent ≤ place := Nat.le_of_lt_succ (wf.parentAt?_lt h)
  exact (hstop place).mpr ⟨hle, Nat.lt_of_succ_lt ((hstop (place + 1)).mp hbelow).2⟩

end Growth

end Arena

/-! ## What else builders keep -/

/-- What holds of the nodes of a builder besides that they are a well-formed arena: there is room for
them, and the root counts as a first child. -/
structure Arena.Bounded (nodes : Array NodeData) : Prop where
  size_le : nodes.size ≤ TreeBuilder.maxNodes
  indexInParent_root : ∀ {data : NodeData}, nodes[0]? = some data → data.indexInParent = 0

namespace TreeBuilder

variable {builder : TreeBuilder} {kind : NodeKind} {token : Option String} {line column : Nat}

theorem bounded_append (h : Bounded builder.nodes) (hroom : builder.nodes.size < maxNodes) :
    Bounded (builder.append kind token line column) where
  size_le := by
    rw [size_append]
    exact hroom
  indexInParent_root := by
    intro data hdata
    rcases getElem?_append_cases hdata with ⟨hsize, rfl⟩ | ⟨_, old, hold, rfl⟩
    · have hnone : ∀ parent : Nat, builder.nodes[parent]? = none := fun parent =>
        Array.getElem?_eq_none (by omega)
      show builder.nextIndex = 0
      unfold nextIndex
      cases builder.openNodes.head? with
      | none => rfl
      | some parent => simp only [hnone, Option.map_none, Option.getD_none]
    · rw [← h.indexInParent_root hold]
      split <;> rfl

theorem bounded_tell (h : Bounded builder.nodes) (call : Call) : Bounded (builder.tell call).nodes := by
  have hadd : ∀ (kind : NodeKind) (token : Option String) (line column : Nat),
      Bounded (builder.add kind token line column).1.nodes := by
    intro kind token line column
    rcases add_cases builder kind token line column with ⟨error, hadd⟩ | ⟨hadd, _, _, hroom⟩
    · rw [hadd]
      exact h
    · rw [hadd]
      exact bounded_append h hroom
  cases call with
  | openNode kind token line column =>
    have hnodes := hadd kind token line column
    show Bounded (builder.openNode kind token line column).nodes
    unfold openNode
    rcases hresult : builder.add kind token line column with ⟨after, added⟩
    rw [hresult] at hnodes
    cases added <;> exact hnodes
  | leaf kind token line column => exact hadd kind (some token) line column
  | close =>
    show Bounded builder.close.nodes
    unfold close
    split
    · unfold fail
      split <;> exact h
    · exact h

theorem bounded_empty : Bounded TreeBuilder.empty.nodes := by
  refine ⟨Nat.zero_le _, fun hdata => ?_⟩
  cases hdata

theorem bounded_finish (h : Bounded builder.nodes) :
    Bounded builder.finish.2.nodes ∧
      ∀ tree, builder.finish.1 = .ok tree → Bounded tree.nodes := by
  unfold finish
  split
  · refine ⟨h, fun tree htree => ?_⟩
    cases htree
  · split
    · split
      · refine ⟨bounded_empty, fun tree htree => ?_⟩
        cases htree
        exact h
      · refine ⟨h, fun tree htree => ?_⟩
        cases htree
    · refine ⟨h, fun tree htree => ?_⟩
      cases htree

end TreeBuilder

theorem SyntaxTree.Built.bounded {tree : SyntaxTree} (built : tree.Built) : Bounded tree.nodes := by
  cases built with
  | ofRequests requests hmem =>
    exact TreeBuilder.trees_of_invariant (P := fun builder => Bounded builder.nodes)
      TreeBuilder.bounded_tell TreeBuilder.bounded_finish TreeBuilder.bounded_empty requests tree hmem
  | ofDump dump hload =>
    have hloaded : Bounded (dump.nodes.foldl Dump.Loading.next .start).builder.nodes :=
      Dump.Loading.foldl_of_invariant (P := fun builder => Bounded builder.nodes)
        TreeBuilder.bounded_tell dump.nodes TreeBuilder.bounded_empty
    exact (TreeBuilder.bounded_finish hloaded).2 tree hload

/-! ## Adding the next node -/

namespace TreeBuilder

variable {builder : TreeBuilder} {nodes : Array NodeData}

/-- The open nodes stand in the arena from the innermost back to the root. -/
theorem Spine.pairwise (wf : WellFormed nodes) : ∀ {path : List Nat}, Spine nodes path →
    path.Pairwise (· > ·)
  | [], _ => List.Pairwise.nil
  | [inner], _ => List.pairwise_singleton _ inner
  | inner :: next :: outer, ⟨_, hparent, hrest⟩ => by
    refine List.pairwise_cons.mpr ⟨fun above hmem => ?_, hrest.pairwise wf⟩
    have habove : above ≤ next := wf.le_of_atOrBelow ((hrest.atOrBelow_iff above).mpr hmem)
    exact Nat.lt_of_le_of_lt habove (wf.parentAt?_lt hparent)

/-- **One more node.** A builder that holds the nodes of an arena before a place, and has the parent of
that place innermost, holds the nodes before the next place once the node is added. -/
theorem append_eq_upTo (wf : WellFormed nodes) (bounded : Bounded nodes) {place : Nat} {data : NodeData}
    (hdata : nodes[place]? = some data) (hnodes : builder.nodes = upTo nodes place)
    (hparent : builder.openNodes.head? = parentAt? nodes place) :
    builder.append data.kind data.token data.line data.column = upTo nodes (place + 1) := by
  have hplace : place < nodes.size := (Array.getElem?_eq_some_iff.mp hdata).1
  have hsize : builder.nodes.size = place := by
    rw [hnodes]
    exact size_upTo (Nat.le_of_lt hplace)
  have hown : parentAt? nodes place = data.parent := by
    unfold parentAt?
    rw [hdata]
    rfl
  have hindex : builder.nextIndex = data.indexInParent := by
    cases hhead : parentAt? nodes place with
    | none =>
      rw [hown] at hhead
      obtain rfl := (wf.parent_none_iff hdata).mp hhead
      rw [bounded.indexInParent_root hdata, nextIndex, hparent, hown, hhead]
    | some parent =>
      obtain ⟨above, habove⟩ : ∃ above, nodes[parent]? = some above :=
        ⟨_, Array.getElem?_eq_getElem (wf.parentAt?_lt_size hhead)⟩
      have hlisted : builder.nodes[parent]? = some (above.upTo place) := by
        rw [hnodes, getElem?_upTo, if_pos (wf.parentAt?_lt hhead), habove]
        rfl
      rw [nextIndex_eq (hparent.trans hhead) hlisted, wf.size_children_upTo habove hdata hhead]
  refine Array.ext_getElem? fun id => ?_
  rw [getElem?_append, getElem?_upTo, hsize]
  by_cases hid : id = place
  · subst hid
    rw [if_pos rfl, if_pos (Nat.lt_succ_self _), hdata, Option.map_some, hindex, hparent, hown,
      ← wf.children_upTo_self hdata]
    rfl
  · rw [if_neg hid, hnodes, getElem?_upTo, hparent]
    by_cases hlt : id < place
    · rw [if_pos hlt, if_pos (Nat.lt_succ_of_lt hlt), Option.map_map]
      refine Option.map_congr fun other hother => ?_
      rw [wf.upTo_succ hother place]
      rfl
    · have hge : ¬ id < place + 1 := by omega
      rw [if_neg hlt, if_neg hge]
      rfl

end TreeBuilder

end TreeLint
