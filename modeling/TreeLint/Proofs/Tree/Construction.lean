import TreeLint.Dump.Basic
import TreeLint.Proofs.Tree.Arena

/-!
# What comes out of a builder

A builder can be told anything in any order, and it can be asked for the tree at any time. It goes on
after a trouble, and after an answer. This module shows that every tree it ever answers is a
well-formed arena (`TreeBuilder.trees_wellFormed`), and the same of every tree that is loaded from a
dump.

The invariant is `TreeBuilder.Coherent`. It says nothing about the recorded trouble: a refused node
changes nothing else, and closing and asking are safe whether or not there was trouble. The open nodes
are a path that ends at the root (`Spine`), and the subtree of each of them reaches to the end of the
arena. So a node that is added below the innermost open node extends exactly the subtrees of the open
nodes, each at its end, and every other subtree stays as it is (`atOrBelow_append`).

Trees with more than one root, or with nodes that are still open, never come out: the first are
refused when the second root is added, the second when the tree is asked for.
-/

namespace TreeLint

open Arena

namespace TreeBuilder

/-! ## The invariant -/

/-- The open nodes of a builder, innermost first, are a path that ends at a node without a parent. -/
def Spine (nodes : Array NodeData) : List Nat → Prop
  | [] => True
  | inner :: outer => inner < nodes.size ∧ parentAt? nodes inner = outer.head? ∧ Spine nodes outer

/-- **What holds of a builder at all times.** -/
structure Coherent (builder : TreeBuilder) : Prop where
  /-- The nodes so far are a well-formed arena. -/
  arena : WellFormed builder.nodes
  /-- The open nodes are a path to the root. -/
  spine : Spine builder.nodes builder.openNodes
  /-- The subtree of an open node reaches to the end of the arena. -/
  covers : ∀ top ∈ builder.openNodes, ∀ place, top ≤ place → place < builder.nodes.size →
    AtOrBelow builder.nodes top place

/-- The places at or above the innermost open node are the open nodes. -/
theorem Spine.atOrBelow_iff {nodes : Array NodeData} :
    ∀ {inner : Nat} {outer : List Nat}, Spine nodes (inner :: outer) → ∀ (top : Nat),
      AtOrBelow nodes top inner ↔ top ∈ inner :: outer
  | inner, [], hspine, top => by
    obtain ⟨_, hparent, _⟩ := hspine
    constructor
    · intro h
      cases h with
      | top => exact List.mem_cons_self
      | child hp _ =>
        rw [hparent] at hp
        cases hp
    · intro h
      obtain rfl := List.mem_singleton.mp h
      exact .top
  | inner, next :: outer, hspine, top => by
    obtain ⟨_, hparent, hrest⟩ := hspine
    have ih := hrest.atOrBelow_iff top
    constructor
    · intro h
      cases h with
      | top => exact List.mem_cons_self
      | child hp habove =>
        rw [hparent] at hp
        cases hp
        exact List.mem_cons_of_mem _ (ih.mp habove)
    · intro h
      rcases List.mem_cons.mp h with rfl | hmem
      · exact .top
      · exact .child hparent (ih.mpr hmem)

theorem Spine.lt_size {nodes : Array NodeData} :
    ∀ {openNodes : List Nat}, Spine nodes openNodes → ∀ top ∈ openNodes, top < nodes.size
  | inner :: _, ⟨hlt, _, hrest⟩, top, hmem => by
    rcases List.mem_cons.mp hmem with rfl | hmem
    · exact hlt
    · exact hrest.lt_size top hmem

/-- A path of open nodes stays one while the arena grows and the parents stay. -/
theorem Spine.mono {nodes after : Array NodeData} (hsize : nodes.size ≤ after.size)
    (hparent : ∀ id < nodes.size, parentAt? after id = parentAt? nodes id) :
    ∀ {openNodes : List Nat}, Spine nodes openNodes → Spine after openNodes
  | [], _ => trivial
  | inner :: _, ⟨hlt, hup, hrest⟩ =>
    ⟨Nat.lt_of_lt_of_le hlt hsize, (hparent inner hlt).trans hup, hrest.mono hsize hparent⟩

/-- A builder that was told nothing is coherent. -/
theorem coherent_of_nothing {builder : TreeBuilder} (hnodes : builder.nodes = #[])
    (hopen : builder.openNodes = []) : builder.Coherent := by
  refine ⟨?_, ?_, ?_⟩
  · rw [hnodes]
    constructor <;> intros <;> simp_all
  · rw [hopen]
    exact trivial
  · intro top hmem
    rw [hopen] at hmem
    cases hmem

/-! ## Adding a node -/

section Append

variable {builder : TreeBuilder} {kind : NodeKind} {token : Option String} {line column : Nat}

/-- The arena after a node was added. The node stands last, and its parent, the innermost open node,
lists it as its last child. -/
theorem getElem?_append (id : Nat) :
    (builder.append kind token line column)[id]? =
      if id = builder.nodes.size then
        some ⟨kind, token, line, column, builder.openNodes.head?, builder.nextIndex, #[]⟩
      else builder.nodes[id]?.map fun data =>
        if builder.openNodes.head? = some id then
          { data with children := data.children.push builder.nodes.size }
        else data := by
  unfold append
  cases hhead : builder.openNodes.head? with
  | none => simp [Array.getElem?_push]
  | some parent =>
    simp only [Array.getElem?_push, Array.size_modify, Array.getElem?_modify, Option.some.injEq]
    by_cases hid : id = builder.nodes.size
    · rw [if_pos hid, if_pos hid]
    · rw [if_neg hid, if_neg hid]
      by_cases hparent : parent = id
      · simp only [if_pos hparent]
      · simp only [if_neg hparent, Option.map_id']

theorem size_append : (builder.append kind token line column).size = builder.nodes.size + 1 := by
  unfold append
  cases builder.openNodes.head? with
  | none => simp
  | some parent => simp

/-- A node of the new arena is the added one, or an old one that has at most gained a child. -/
theorem getElem?_append_cases {id : Nat} {data : NodeData}
    (h : (builder.append kind token line column)[id]? = some data) :
    (id = builder.nodes.size ∧
      data = ⟨kind, token, line, column, builder.openNodes.head?, builder.nextIndex, #[]⟩) ∨
    (id < builder.nodes.size ∧ ∃ old, builder.nodes[id]? = some old ∧
      data = if builder.openNodes.head? = some id then
        { old with children := old.children.push builder.nodes.size } else old) := by
  rw [getElem?_append] at h
  split at h
  · next hid => exact .inl ⟨hid, (Option.some.inj h).symm⟩
  · obtain ⟨old, hold, hdata⟩ := Option.map_eq_some_iff.mp h
    exact .inr ⟨(Array.getElem?_eq_some_iff.mp hold).1, old, hold, hdata.symm⟩

/-- Adding a node records its parent and no other. -/
theorem parentAt?_append (id : Nat) :
    parentAt? (builder.append kind token line column) id =
      if id = builder.nodes.size then builder.openNodes.head? else parentAt? builder.nodes id := by
  unfold parentAt?
  rw [getElem?_append]
  by_cases hid : id = builder.nodes.size
  · rw [if_pos hid, if_pos hid]
    rfl
  · rw [if_neg hid, if_neg hid, Option.bind_map]
    congr 1
    funext data
    simp only [Function.comp_apply]
    split <;> rfl

theorem Coherent.head?_lt (hb : builder.Coherent) {parent : Nat}
    (hhead : builder.openNodes.head? = some parent) : parent < builder.nodes.size :=
  hb.spine.lt_size parent (List.mem_of_head? hhead)

/-- **Which subtrees grow.** Adding a node extends the subtrees of the open nodes by the new place,
and leaves all others as they are. -/
theorem Coherent.atOrBelow_append (hb : builder.Coherent) {top place : Nat} :
    AtOrBelow (builder.append kind token line column) top place ↔
      AtOrBelow builder.nodes top place ∨ place = builder.nodes.size ∧ top ∈ builder.openNodes := by
  constructor
  · intro h
    induction h with
    | top => exact .inl .top
    | @child id parent hparent _ ih =>
      rw [parentAt?_append] at hparent
      split at hparent
      · next hid =>
        have hlt : parent < builder.nodes.size := hb.head?_lt hparent
        rcases ih with habove | ⟨hsize, _⟩
        · obtain ⟨outer, hopen⟩ := List.head?_eq_some_iff.mp hparent
          have hspine := hb.spine
          rw [hopen] at hspine ⊢
          exact .inr ⟨hid, (hspine.atOrBelow_iff top).mp habove⟩
        · omega
      · rcases ih with habove | ⟨hsize, _⟩
        · exact .inl (.child hparent habove)
        · have := hb.arena.parentAt?_lt_size hparent
          omega
  · have lift : ∀ {id : Nat}, AtOrBelow builder.nodes top id →
        AtOrBelow (builder.append kind token line column) top id := by
      intro id h
      induction h with
      | top => exact .top
      | @child id parent hparent _ ih =>
        refine .child ?_ ih
        rw [parentAt?_append, if_neg (Nat.ne_of_lt (lt_size_of_parentAt? hparent))]
        exact hparent
    rintro (h | ⟨rfl, hmem⟩)
    · exact lift h
    · cases hopen : builder.openNodes with
      | nil =>
        rw [hopen] at hmem
        cases hmem
      | cons inner outer =>
        have hspine := hb.spine
        rw [hopen] at hspine hmem
        refine .child ?_ (lift ((hspine.atOrBelow_iff top).mpr hmem))
        rw [parentAt?_append, if_pos rfl, hopen]
        rfl

theorem nextIndex_eq {parent : Nat} {data : NodeData}
    (hhead : builder.openNodes.head? = some parent) (hdata : builder.nodes[parent]? = some data) :
    builder.nextIndex = data.children.size := by
  unfold nextIndex
  simp only [hhead, hdata, Option.map_some, Option.getD_some]

/-- **Adding a node keeps the arena well formed**, if its line is not zero and it is not a second
root. -/
theorem Coherent.wellFormed_append (hb : builder.Coherent) (hline : line ≠ 0)
    (hroot : builder.openNodes = [] → builder.nodes.size = 0) :
    WellFormed (builder.append kind token line column) where
  parent_none_iff := by
    intro id data hdata
    rcases getElem?_append_cases hdata with ⟨rfl, rfl⟩ | ⟨_, old, hold, rfl⟩
    · constructor
      · intro hnone
        exact hroot (List.head?_eq_none_iff.mp hnone)
      · intro hzero
        cases hhead : builder.openNodes.head? with
        | none => rfl
        | some parent =>
          have := hb.head?_lt hhead
          omega
    · rw [← hb.arena.parent_none_iff hold]
      split <;> rfl
  parent_lt := by
    intro id parent data hdata hparent
    rcases getElem?_append_cases hdata with ⟨rfl, rfl⟩ | ⟨_, old, hold, rfl⟩
    · exact hb.head?_lt hparent
    · refine hb.arena.parent_lt hold ?_
      rw [← hparent]
      split <;> rfl
  children_sorted := by
    intro id data hdata
    rcases getElem?_append_cases hdata with ⟨rfl, rfl⟩ | ⟨_, old, hold, rfl⟩
    · exact List.Pairwise.nil
    · have hsorted := hb.arena.children_sorted hold
      split
      · rw [Array.toList_push, List.pairwise_append]
        refine ⟨hsorted, List.pairwise_singleton _ _, ?_⟩
        intro child hchild last hlast
        obtain rfl := List.mem_singleton.mp hlast
        exact hb.arena.lt_size_of_mem_children hold (Array.mem_toList_iff.mp hchild)
      · exact hsorted
  mem_children_iff := by
    intro id child data hdata
    rw [← parentAt?_eq_some, parentAt?_append]
    rcases getElem?_append_cases hdata with ⟨rfl, rfl⟩ | ⟨hid, old, hold, rfl⟩
    · -- the new node has no children, since no parent is recorded beyond the arena
      constructor
      · intro hmem
        exact absurd hmem (Array.not_mem_empty child)
      · intro hparent
        split at hparent
        · exact absurd (hb.head?_lt hparent) (Nat.lt_irrefl _)
        · exact absurd (hb.arena.parentAt?_lt_size hparent) (Nat.lt_irrefl _)
    · have hold' : child ∈ old.children ↔ parentAt? builder.nodes child = some id :=
        hb.arena.mem_children hold
      by_cases hchild : child = builder.nodes.size
      · rw [if_pos hchild]
        have hnew : child ∉ old.children := by
          intro hmem
          exact Nat.ne_of_lt (hb.arena.lt_size_of_mem_children hold hmem) hchild
        split
        · next hhead => simp [hhead, hchild]
        · next hhead => exact ⟨fun hmem => absurd hmem hnew, fun h => absurd h hhead⟩
      · rw [if_neg hchild, ← hold']
        split
        · simp [hchild]
        · exact Iff.rfl
  indexInParent_eq := by
    intro id index child data childData hdata hchild hchildData
    rcases getElem?_append_cases hdata with ⟨rfl, rfl⟩ | ⟨hid, old, hold, rfl⟩
    · cases hchild
    · have hmem : child ∈ old.children → child < builder.nodes.size :=
        hb.arena.lt_size_of_mem_children hold
      rcases getElem?_append_cases hchildData with ⟨rfl, rfl⟩ | ⟨hlt, oldChild, holdChild, rfl⟩
      · -- the new node is listed only by its parent, behind all older children
        split at hchild
        · next hhead =>
          rw [Array.getElem?_push] at hchild
          split at hchild
          · next hindex => rw [hindex]; exact nextIndex_eq hhead hold
          · exact absurd (hmem (Array.mem_of_getElem? hchild)) (Nat.lt_irrefl _)
        · exact absurd (hmem (Array.mem_of_getElem? hchild)) (Nat.lt_irrefl _)
      · have hindex : old.children[index]? = some child := by
          split at hchild
          · rw [Array.getElem?_push] at hchild
            split at hchild
            · cases hchild
              exact absurd hlt (Nat.lt_irrefl _)
            · exact hchild
          · exact hchild
        rw [← hb.arena.indexInParent_eq hold hindex holdChild]
        split <;> rfl
  subtree_interval := by
    intro id hid
    rw [size_append] at hid
    by_cases hopen : id ∈ builder.openNodes
    · -- the subtree of an open node reached to the end, and does so again
      have hlt : id < builder.nodes.size := hb.spine.lt_size id hopen
      refine ⟨builder.nodes.size + 1, fun place => ?_⟩
      rw [hb.atOrBelow_append]
      constructor
      · rintro (h | ⟨rfl, _⟩)
        · exact ⟨hb.arena.le_of_atOrBelow h, Nat.lt_succ_of_lt (h.lt_size hlt)⟩
        · exact ⟨Nat.le_of_lt hlt, Nat.lt_succ_self _⟩
      · rintro ⟨hle, hstop⟩
        rcases Nat.lt_succ_iff_lt_or_eq.mp hstop with hplace | hplace
        · exact .inl (hb.covers id hopen place hle hplace)
        · exact .inr ⟨hplace, hopen⟩
    · have hsame : ∀ place, AtOrBelow (builder.append kind token line column) id place ↔
          AtOrBelow builder.nodes id place := by
        intro place
        rw [hb.atOrBelow_append]
        simp [hopen]
      rcases Nat.lt_succ_iff_lt_or_eq.mp hid with hlt | rfl
      · obtain ⟨stop, hstop⟩ := hb.arena.subtree_interval hlt
        exact ⟨stop, fun place => (hsame place).trans (hstop place)⟩
      · refine ⟨builder.nodes.size + 1, fun place => (hsame place).trans ?_⟩
        constructor
        · intro h
          cases h with
          | top => exact ⟨Nat.le_refl _, Nat.lt_succ_self _⟩
          | child hparent habove =>
            have := hb.arena.le_of_atOrBelow habove
            have := hb.arena.parentAt?_lt_size hparent
            omega
        · rintro ⟨hle, hstop⟩
          obtain rfl : place = builder.nodes.size := by omega
          exact .top
  line_pos := by
    intro id data hdata
    rcases getElem?_append_cases hdata with ⟨rfl, rfl⟩ | ⟨_, old, hold, rfl⟩
    · exact Nat.one_le_iff_ne_zero.mpr hline
    · have := hb.arena.line_pos hold
      split <;> exact this

end Append

/-! ## One step -/

section Step

variable {builder : TreeBuilder}

theorem Coherent.withError (hb : builder.Coherent) (error : Option TreeError) :
    { builder with error := error }.Coherent :=
  ⟨hb.arena, hb.spine, hb.covers⟩

theorem Coherent.fail (hb : builder.Coherent) (error : TreeError) :
    (builder.fail error).Coherent := by
  unfold TreeBuilder.fail
  split
  · exact hb
  · exact hb.withError _

/-- **When a node is not refused**: its line is not zero, it is not a second root, and there is room for
it. -/
theorem refusal?_eq_none {kind : NodeKind} {line : Nat} :
    builder.refusal? kind line = none ↔
      line ≠ 0 ∧ (builder.openNodes = [] → builder.nodes.size = 0) ∧
        builder.nodes.size < maxNodes := by
  unfold refusal?
  constructor
  · intro h
    split at h
    · cases h
    · next hline =>
      split at h
      · cases h
      · next hroot =>
        split at h
        · cases h
        · next hroom =>
          refine ⟨hline, fun hopen => ?_, Nat.lt_of_not_le hroom⟩
          by_cases hsize : builder.nodes.size = 0
          · exact hsize
          · exact absurd ⟨hopen, hsize⟩ hroot
  · rintro ⟨hline, hroot, hroom⟩
    rw [if_neg hline, if_neg fun h => h.2 (hroot h.1), if_neg (Nat.not_le_of_lt hroom)]

/-- What adding a node can do: it is refused and nothing but the record of trouble changes, or it is
added, and then its line is not zero and it is not a second root. -/
theorem add_cases (builder : TreeBuilder) (kind : NodeKind) (token : Option String)
    (line column : Nat) :
    (∃ error, builder.add kind token line column = ({ builder with error := error }, false)) ∨
    (builder.add kind token line column =
        ({ builder with nodes := builder.append kind token line column }, true) ∧
      line ≠ 0 ∧ (builder.openNodes = [] → builder.nodes.size = 0) ∧
      builder.nodes.size < maxNodes) := by
  unfold add
  cases herror : builder.error with
  | some error => exact .inl ⟨builder.error, rfl⟩
  | none =>
    cases hrefusal : builder.refusal? kind line with
    | some error =>
      refine .inl ⟨some error, ?_⟩
      simp only [TreeBuilder.fail, herror]
    | none => exact .inr ⟨rfl, refusal?_eq_none.mp hrefusal⟩

/-- Adding a node below the innermost open one keeps a builder coherent, and so does leaving the
node open. -/
theorem Coherent.append (hb : builder.Coherent) {kind : NodeKind} {token : Option String}
    {line column : Nat} (hline : line ≠ 0) (hroot : builder.openNodes = [] → builder.nodes.size = 0)
    {openNodes : List Nat}
    (hopen : openNodes = builder.openNodes ∨ openNodes = builder.nodes.size :: builder.openNodes) :
    { builder with nodes := builder.append kind token line column, openNodes }.Coherent := by
  have hspine : Spine (builder.append kind token line column) builder.openNodes := by
    refine hb.spine.mono (by rw [size_append]; exact Nat.le_succ _) fun id hid => ?_
    rw [parentAt?_append, if_neg (Nat.ne_of_lt hid)]
  have hcovers : ∀ top ∈ builder.openNodes, ∀ place, top ≤ place →
      place < builder.nodes.size + 1 →
      AtOrBelow (builder.append kind token line column) top place := by
    intro top hmem place hle hlt
    rw [hb.atOrBelow_append]
    rcases Nat.lt_succ_iff_lt_or_eq.mp hlt with hplace | hplace
    · exact .inl (hb.covers top hmem place hle hplace)
    · exact .inr ⟨hplace, hmem⟩
  refine ⟨hb.wellFormed_append hline hroot, ?_, ?_⟩
  · rcases hopen with rfl | rfl
    · exact hspine
    · refine ⟨by rw [size_append]; exact Nat.lt_succ_self _, ?_, hspine⟩
      rw [parentAt?_append, if_pos rfl]
  · intro top hmem place hle hlt
    rw [size_append] at hlt
    rcases hopen with rfl | rfl
    · exact hcovers top hmem place hle hlt
    · rcases List.mem_cons.mp hmem with rfl | hmem
      · obtain rfl : place = builder.nodes.size := by omega
        exact .top
      · exact hcovers top hmem place hle hlt

theorem Coherent.openNode (hb : builder.Coherent) (kind : NodeKind) (token : Option String)
    (line column : Nat) : (builder.openNode kind token line column).Coherent := by
  unfold TreeBuilder.openNode
  rcases add_cases builder kind token line column with ⟨error, hadd⟩ | ⟨hadd, hline, hroot, _⟩
  · rw [hadd]
    exact hb.withError error
  · rw [hadd]
    exact hb.append hline hroot (.inr rfl)

theorem Coherent.leaf (hb : builder.Coherent) (kind : NodeKind) (token : String)
    (line column : Nat) : (builder.leaf kind token line column).Coherent := by
  unfold TreeBuilder.leaf
  rcases add_cases builder kind (some token) line column with ⟨error, hadd⟩ | ⟨hadd, hline, hroot, _⟩
  · rw [hadd]
    exact hb.withError error
  · rw [hadd]
    exact hb.append hline hroot (.inl rfl)

theorem Coherent.close (hb : builder.Coherent) : builder.close.Coherent := by
  unfold TreeBuilder.close
  split
  · exact hb.fail _
  · next inner outer hopen =>
    have hspine := hb.spine
    rw [hopen] at hspine
    refine ⟨hb.arena, hspine.2.2, fun top hmem => hb.covers top ?_⟩
    rw [hopen]
    exact List.mem_cons_of_mem _ hmem

/-- **What one call preserves.** -/
theorem Coherent.tell (hb : builder.Coherent) (call : Call) : (builder.tell call).Coherent := by
  cases call with
  | openNode kind token line column => exact hb.openNode kind token line column
  | leaf kind token line column => exact hb.leaf kind token line column
  | close => exact hb.close

/-- **What asking for the tree preserves**, and what it answers. -/
theorem Coherent.finish (hb : builder.Coherent) :
    builder.finish.2.Coherent ∧ ∀ tree, builder.finish.1 = .ok tree → WellFormed tree.nodes := by
  unfold TreeBuilder.finish
  split
  · exact ⟨hb.withError none, fun tree h => nomatch h⟩
  · split
    · split
      · next hopen =>
        refine ⟨coherent_of_nothing rfl hopen, fun tree h => ?_⟩
        cases h
        exact hb.arena
      · exact ⟨hb, fun tree h => nomatch h⟩
    · exact ⟨hb, fun tree h => nomatch h⟩

end Step

/-! ## Every run -/

/-- Something that is done with a builder. -/
inductive Request where
  | tell (call : Call)
  | finish
  deriving DecidableEq, Repr

/-- All trees that a builder answers while it serves requests one after the other. -/
def trees (builder : TreeBuilder) : List Request → List SyntaxTree
  | [] => []
  | .tell call :: rest => (builder.tell call).trees rest
  | .finish :: rest =>
    match builder.finish with
    | (.ok tree, after) => tree :: after.trees rest
    | (.error _, after) => after.trees rest

/-- **What holds at all times.** What every call and every asking for the tree preserves holds at all
times, so what it says about an answer holds of all trees that are answered. -/
theorem trees_of_invariant {P : TreeBuilder → Prop} {Q : SyntaxTree → Prop}
    (told : ∀ {builder : TreeBuilder}, P builder → ∀ call, P (builder.tell call))
    (asked : ∀ {builder : TreeBuilder}, P builder →
      P builder.finish.2 ∧ ∀ tree, builder.finish.1 = .ok tree → Q tree) :
    ∀ {builder : TreeBuilder}, P builder → ∀ (requests : List Request),
      ∀ tree ∈ builder.trees requests, Q tree
  | _, _, [], tree, hmem => nomatch hmem
  | builder, hb, .tell call :: rest, tree, hmem =>
    trees_of_invariant told asked (told hb call) rest tree hmem
  | builder, hb, .finish :: rest, tree, hmem => by
    obtain ⟨hafter, hanswer⟩ := asked hb
    unfold TreeBuilder.trees at hmem
    split at hmem
    · next answer after hfinish =>
      rw [hfinish] at hafter hanswer
      rcases List.mem_cons.mp hmem with rfl | hmem
      · exact hanswer tree rfl
      · exact trees_of_invariant told asked hafter rest tree hmem
    · next error after hfinish =>
      rw [hfinish] at hafter
      exact trees_of_invariant told asked hafter rest tree hmem

theorem Coherent.trees {builder : TreeBuilder} (hb : builder.Coherent) (requests : List Request) :
    ∀ tree ∈ builder.trees requests, WellFormed tree.nodes :=
  trees_of_invariant (fun hb => hb.tell) (fun hb => hb.finish) hb requests

theorem coherent_empty : TreeBuilder.empty.Coherent :=
  coherent_of_nothing rfl rfl

/-- **Whatever a builder is told, and whenever it is asked, the trees it answers are well-formed
arenas**: they have a root, and their nodes stand in document order. -/
theorem trees_wellFormed (requests : List Request) :
    ∀ tree ∈ TreeBuilder.empty.trees requests, 0 < tree.nodes.size ∧ WellFormed tree.nodes :=
  fun tree hmem => ⟨tree.nonempty, coherent_empty.trees requests tree hmem⟩

/-- Requests with trouble in them: a node is closed too early, the tree is asked for while the record
of that stands and again while a node is open, and a node of line zero is refused. -/
def troubledRequests : List Request :=
  [.tell .close, .finish, .tell (.openNode .block none 1 1), .tell (.leaf .octal "017" 0 4), .finish,
    .finish, .tell (.leaf .octal "017" 2 4), .tell .close, .finish]

/-- The tree that comes out of them in the end. -/
def troubledTree : SyntaxTree :=
  ⟨#[⟨.block, none, 1, 1, none, 0, #[1]⟩, ⟨.octal, some "017", 2, 4, some 0, 0, #[]⟩], by decide⟩

theorem troubledTree_mem : troubledTree ∈ TreeBuilder.empty.trees troubledRequests :=
  List.mem_singleton_self troubledTree

/-- Even troubled requests are answered with a tree, and it is well formed. -/
theorem troubledTree_wellFormed :
    troubledTree ∈ TreeBuilder.empty.trees troubledRequests ∧
      0 < troubledTree.nodes.size ∧ WellFormed troubledTree.nodes :=
  ⟨troubledTree_mem, trees_wellFormed troubledRequests troubledTree troubledTree_mem⟩

end TreeBuilder

/-! ## Trees from dumps -/

namespace Dump.Loading

theorem settle_of_invariant {P : TreeBuilder → Prop}
    (told : ∀ {builder : TreeBuilder}, P builder → ∀ call, P (builder.tell call)) :
    ∀ (pending : List Nat) {builder : TreeBuilder}, P builder →
      P (settle builder pending).builder
  | [], _, hb => hb
  | 0 :: outer, _, hb => settle_of_invariant told outer (told hb .close)
  | (_ + 1) :: _, _, hb => hb

/-- **Loading only tells the builder things**, so it preserves what every call preserves. -/
theorem foldl_of_invariant {P : TreeBuilder → Prop}
    (told : ∀ {builder : TreeBuilder}, P builder → ∀ call, P (builder.tell call)) :
    ∀ (nodes : List DumpNode) {loading : Loading}, P loading.builder →
      P (nodes.foldl next loading).builder
  | [], _, hb => hb
  | node :: rest, _, hb =>
    foldl_of_invariant told rest (settle_of_invariant told _
      (told hb (.openNode node.kind node.token node.line node.column)))

end Dump.Loading

/-- A tree that the program can have: a builder answered it, or it was loaded from a dump. -/
inductive SyntaxTree.Built (tree : SyntaxTree) : Prop
  /-- A builder answered it at some time. -/
  | ofRequests (requests : List TreeBuilder.Request) :
      tree ∈ TreeBuilder.empty.trees requests → tree.Built
  | ofDump (dump : Dump) : dump.toTree = .ok tree → tree.Built

/-- Every tree that the program can have is a well-formed arena. -/
theorem SyntaxTree.Built.wellFormed {tree : SyntaxTree} (built : tree.Built) :
    WellFormed tree.nodes := by
  cases built with
  | ofRequests requests hmem => exact TreeBuilder.coherent_empty.trees requests tree hmem
  | ofDump dump hload =>
    have hloaded : (dump.nodes.foldl Dump.Loading.next .start).builder.Coherent :=
      Dump.Loading.foldl_of_invariant (fun hb => hb.tell) dump.nodes TreeBuilder.coherent_empty
    exact hloaded.finish.2 tree hload

end TreeLint
