import TreeLint.Proofs.Tree.Growth
import TreeLint.Proofs.Tree.Navigation
import TreeLint.Proofs.Tree.Trouble

/-!
# Dumps and trees

A dump holds the nodes of a tree in document order with the number of the children of each. The places of
parents and children are left out, and loading finds them again by counting. **The law**
(`Dump.toTree_ofTree_inverse`): a tree that the program can have comes back from its dump as it was, and a
dump that loads is the dump of the tree it gives.

Each direction has its invariant. While the dump of a tree is loaded, the builder holds the nodes before
the next place, the open nodes are the path to that place, and the numbers of children still to come are
those of the tree (`Dump.Loading.Resumes`). While any dump is loaded without trouble, each node has as many
children as its record says, those still to come included (`Dump.Loading.Records`).

Which dumps load is not said, beyond that the dumps of trees do.
-/

namespace TreeLint

open Arena

/-- What a dump records of a node. -/
def NodeData.record (data : NodeData) : DumpNode :=
  ⟨data.kind, data.token, data.line, data.column, data.children.size⟩

/-! ## Loading the dump of a tree -/

namespace Dump.Loading

open TreeBuilder

variable {nodes : Array NodeData} {place : Nat} {loading : Loading}

/-- **What holds while the dump of a tree is loaded**, when the nodes before a place are loaded. -/
structure Resumes (nodes : Array NodeData) (place : Nat) (loading : Loading) : Prop where
  nodes_eq : loading.builder.nodes = upTo nodes place
  error_eq : loading.builder.error = none
  /-- The open nodes are the path to the place. -/
  spine : Spine nodes loading.builder.openNodes
  innermost : loading.builder.openNodes.head? = parentAt? nodes place
  /-- The numbers of children still to come are those of the tree. -/
  pending_eq : loading.pending = loading.builder.openNodes.map (owedAt nodes place)

/-- **Closing what is complete.** If the parent of a place is among the open nodes, closing those to which
no children are still to come leaves it innermost. -/
theorem resumes_settle (wf : WellFormed nodes) : ∀ {path : List Nat} {builder : TreeBuilder},
    builder.openNodes = path → builder.nodes = upTo nodes place → builder.error = none →
    Spine nodes path → (∀ id ∈ path, id < place) →
    (∀ parent, parentAt? nodes place = some parent → parent ∈ path) →
    Resumes nodes place (settle builder (path.map (owedAt nodes place)))
  | [], builder, hopen, hnodes, herror, hspine, _, hparent => by
    have hnone : parentAt? nodes place = none := by
      cases hfound : parentAt? nodes place with
      | none => rfl
      | some parent => exact nomatch hparent parent hfound
    have hsettle : settle builder ([].map (owedAt nodes place)) = ⟨builder, []⟩ := rfl
    rw [hsettle]
    refine ⟨hnodes, herror, ?_, ?_, ?_⟩
    · rw [hopen]
      exact hspine
    · rw [hopen, hnone]
      rfl
    · rw [hopen]
      rfl
  | inner :: outer, builder, hopen, hnodes, herror, hspine, hlt, hparent => by
    rw [List.map_cons]
    cases howed : owedAt nodes place inner with
    | zero =>
      -- nothing is still to come to the innermost node, so it is not the parent of the place
      have houter : ∀ parent, parentAt? nodes place = some parent → parent ∈ outer := by
        intro parent hfound
        rcases List.mem_cons.mp (hparent parent hfound) with rfl | hmem
        · rw [wf.owedAt_eq, if_pos hfound] at howed
          cases howed
        · exact hmem
      have hclose : builder.close = { builder with openNodes := outer } := by
        unfold TreeBuilder.close
        rw [hopen]
      rw [settle, hclose]
      exact resumes_settle wf rfl hnodes herror hspine.2.2
        (fun id hmem => hlt id (List.mem_cons_of_mem _ hmem)) houter
    | succ count =>
      have hne : owedAt nodes place inner ≠ 0 := by
        rw [howed]
        exact Nat.succ_ne_zero count
      obtain ⟨parent, hfound, hle⟩ :=
        wf.exists_parentAt?_of_owedAt (hlt inner List.mem_cons_self) hne
      have heq : parent = inner := by
        rcases List.mem_cons.mp (hparent parent hfound) with heq | hmem
        · exact heq
        · have := List.rel_of_pairwise_cons (hspine.pairwise wf) hmem
          omega
      have hsettle : settle builder ((count + 1) :: outer.map (owedAt nodes place)) =
          ⟨builder, (count + 1) :: outer.map (owedAt nodes place)⟩ := rfl
      rw [hsettle]
      refine ⟨hnodes, herror, ?_, ?_, ?_⟩
      · rw [hopen]
        exact hspine
      · rw [hopen, hfound, heq]
        rfl
      · rw [hopen, List.map_cons, howed]

theorem resumes_start (wf : WellFormed nodes) : Resumes nodes 0 .start where
  nodes_eq := by
    refine Array.ext_getElem? fun id => ?_
    rw [getElem?_upTo, if_neg (Nat.not_lt_zero id)]
    rfl
  error_eq := rfl
  spine := trivial
  innermost := by
    cases hparent : parentAt? nodes 0 with
    | none => rfl
    | some parent => exact absurd (wf.parentAt?_lt hparent) (Nat.not_lt_zero parent)
  pending_eq := rfl

/-- The node at a place takes one from what is still to come to its parent, and nothing from the other
open nodes. -/
theorem expectOneLess_owedAt (wf : WellFormed nodes) {path : List Nat} (hspine : Spine nodes path)
    (hinnermost : path.head? = parentAt? nodes place) :
    expectOneLess (path.map (owedAt nodes place)) = path.map (owedAt nodes (place + 1)) := by
  cases path with
  | nil => rfl
  | cons inner outer =>
    have hparent : parentAt? nodes place = some inner := hinnermost.symm
    have houter : outer.map (owedAt nodes place) = outer.map (owedAt nodes (place + 1)) := by
      refine List.map_congr_left fun id hmem => ?_
      have hlt : id < inner := List.rel_of_pairwise_cons (hspine.pairwise wf) hmem
      have hother : parentAt? nodes place ≠ some id := by
        rw [hparent]
        exact fun h => Nat.ne_of_gt hlt (Option.some.inj h)
      rw [wf.owedAt_eq, if_neg hother, Nat.add_zero]
    rw [List.map_cons, List.map_cons, expectOneLess, houter, wf.owedAt_eq, if_pos hparent,
      Nat.add_sub_cancel]

/-- **One step.** -/
theorem Resumes.next (h : Resumes nodes place loading) (wf : WellFormed nodes)
    (bounded : Bounded nodes) {data : NodeData} (hdata : nodes[place]? = some data) :
    Resumes nodes (place + 1) (loading.next data.record) := by
  have hplace : place < nodes.size := (Array.getElem?_eq_some_iff.mp hdata).1
  have hsize : loading.builder.nodes.size = place := by
    rw [h.nodes_eq]
    exact size_upTo (Nat.le_of_lt hplace)
  have hrefusal : loading.builder.refusal? data.kind data.line = none := by
    refine refusal?_eq_none.mpr ⟨Nat.one_le_iff_ne_zero.mp (wf.line_pos hdata), fun hopen => ?_, ?_⟩
    · have hnone : parentAt? nodes place = none := by
        rw [← h.innermost, hopen]
        rfl
      unfold parentAt? at hnone
      rw [hdata, Option.bind_some] at hnone
      rw [hsize]
      exact (wf.parent_none_iff hdata).mp hnone
    · rw [hsize]
      exact Nat.lt_of_lt_of_le hplace bounded.size_le
  have hspine : Spine nodes (place :: loading.builder.openNodes) :=
    ⟨hplace, h.innermost.symm, h.spine⟩
  have hbefore := hspine.pairwise wf
  have hpending : data.children.size :: expectOneLess loading.pending =
      (place :: loading.builder.openNodes).map (owedAt nodes (place + 1)) := by
    rw [List.map_cons, wf.owedAt_self hdata, h.pending_eq, expectOneLess_owedAt wf h.spine h.innermost]
  show Resumes nodes (place + 1)
    (settle (loading.builder.openNode data.kind data.token data.line data.column)
      (data.children.size :: expectOneLess loading.pending))
  rw [hpending, openNode_eq h.error_eq hrefusal, append_eq_upTo wf bounded hdata h.nodes_eq h.innermost,
    hsize]
  refine resumes_settle wf rfl rfl rfl hspine ?_ fun parent hparent => ?_
  · intro id hmem
    rcases List.mem_cons.mp hmem with rfl | hmem
    · exact Nat.lt_succ_self _
    · exact Nat.lt_succ_of_lt (List.rel_of_pairwise_cons hbefore hmem)
  · exact (hspine.atOrBelow_iff parent).mp (wf.atOrBelow_parentAt?_succ hparent)

/-- **Loading as many nodes of a tree as there are before a place.** -/
theorem resumes_take (wf : WellFormed nodes) (bounded : Bounded nodes) {records : List DumpNode}
    (hrecords : ∀ id : Nat, records[id]? = nodes[id]?.map NodeData.record) :
    ∀ place ≤ nodes.size, Resumes nodes place ((records.take place).foldl next .start)
  | 0, _ => resumes_start wf
  | place + 1, hplace => by
    have hdata : nodes[place]? = some nodes[place] := Array.getElem?_eq_getElem hplace
    have ih := resumes_take wf bounded hrecords place (Nat.le_of_succ_le hplace)
    rw [List.take_add_one, hrecords, hdata, Option.map_some, Option.toList_some, List.foldl_append]
    exact ih.next wf bounded hdata

end Dump.Loading

namespace Dump

/-- What the dump of a tree records of each node. -/
theorem getElem?_ofTree (tree : SyntaxTree) (source : Option String) (id : Nat) :
    (ofTree tree source).nodes[id]? = tree.nodes[id]?.map NodeData.record := by
  unfold ofTree
  rw [List.getElem?_map, SyntaxTree.getElem?_toList]
  unfold SyntaxTree.node?
  split
  · next hid =>
    rw [Array.getElem?_eq_getElem hid]
    rfl
  · next hid =>
    rw [Array.getElem?_eq_none (Nat.le_of_not_lt hid)]
    rfl

/-- **The tree of the dump of a tree.** -/
theorem toTree_ofTree {tree : SyntaxTree} (wf : WellFormed tree.nodes) (bounded : Bounded tree.nodes)
    (source : Option String) : (ofTree tree source).toTree = .ok tree := by
  have hrecords := getElem?_ofTree tree source
  have hlength : (ofTree tree source).nodes.length ≤ tree.nodes.size := by
    refine List.getElem?_eq_none_iff.mp ?_
    rw [hrecords, Array.getElem?_eq_none (Nat.le_refl _)]
    rfl
  have hloaded := Loading.resumes_take wf bounded hrecords tree.nodes.size (Nat.le_refl _)
  rw [List.take_of_length_le hlength] at hloaded
  have hnodes := hloaded.nodes_eq
  have hopen := hloaded.innermost
  have hnone : parentAt? tree.nodes tree.nodes.size = none := by
    unfold parentAt?
    rw [Array.getElem?_eq_none (Nat.le_refl _)]
    rfl
  rw [wf.upTo_size] at hnodes
  rw [hnone, List.head?_eq_none_iff] at hopen
  unfold toTree TreeBuilder.finish
  simp only [hloaded.error_eq, hopen, hnodes]
  rw [dif_pos tree.nonempty]

end Dump

/-! ## Loading any dump -/

namespace Dump.Loading

variable {done : List DumpNode} {loading : Loading}

/-- The number of children that are still to come to the node at a place. Only open nodes have any. -/
def due (loading : Loading) (id : Nat) : Nat :=
  ((loading.builder.openNodes.zip loading.pending).lookup id).getD 0

/-- **What holds while a dump is loaded without trouble**, when some records are loaded. -/
structure Records (done : List DumpNode) (loading : Loading) : Prop where
  aligned : loading.builder.openNodes.length = loading.pending.length
  nodup : loading.builder.openNodes.Nodup
  lt_size : ∀ id ∈ loading.builder.openNodes, id < loading.builder.nodes.size
  /-- Each node is as its record says, and has as many children, those still to come included. -/
  recorded : ∀ id : Nat, done[id]? = loading.builder.nodes[id]?.map fun data =>
    { data.record with children := data.children.size + loading.due id }

theorem lookup_zip_of_notMem {ids counts : List Nat} {id : Nat} (h : id ∉ ids) :
    (ids.zip counts).lookup id = none := by
  refine List.lookup_eq_none_iff.mpr fun pair hmem => ?_
  have hne : id ≠ pair.1 := fun heq => h (heq ▸ (List.of_mem_zip hmem).1)
  simpa using hne

/-- Closing a node to which no children are still to come keeps the records. -/
theorem Records.close {builder : TreeBuilder} {outer : List Nat}
    (h : Records done ⟨builder, 0 :: outer⟩) : Records done ⟨builder.close, outer⟩ := by
  obtain ⟨inner, rest, hopen⟩ : ∃ inner rest, builder.openNodes = inner :: rest :=
    List.exists_cons_of_length_eq_add_one h.aligned
  have hclose : builder.close = { builder with openNodes := rest } := by
    unfold TreeBuilder.close
    rw [hopen]
  have hnodup := h.nodup
  have hlt := h.lt_size
  simp only [hopen] at hnodup hlt
  obtain ⟨hinner, hnodup⟩ := List.nodup_cons.mp hnodup
  have hdue : due ⟨builder, 0 :: outer⟩ = due ⟨builder.close, outer⟩ := by
    funext id
    unfold due
    rw [hclose]
    simp only [hopen, List.zip_cons_cons, List.lookup_cons]
    split
    · next heq =>
      rw [eq_of_beq heq, lookup_zip_of_notMem hinner]
      rfl
    · rfl
  refine ⟨?_, ?_, ?_, ?_⟩
  · have := h.aligned
    simp only [hopen, List.length_cons] at this
    rw [hclose]
    exact Nat.succ.inj this
  · rw [hclose]
    exact hnodup
  · rw [hclose]
    exact fun id hmem => hlt id (List.mem_cons_of_mem _ hmem)
  · intro id
    rw [← hdue, h.recorded id, hclose]

/-- Closing all such nodes leaves an innermost one to which children are still to come. -/
theorem Records.settle : ∀ {pending : List Nat} {builder : TreeBuilder},
    Records done ⟨builder, pending⟩ → Records done (settle builder pending) ∧
      (Loading.settle builder pending).pending.head? ≠ some 0
  | [], _, h => ⟨h, fun hhead => nomatch hhead⟩
  | (_ + 1) :: _, _, h => ⟨h, fun hhead => nomatch hhead⟩
  | 0 :: _, _, h => h.close.settle

theorem Records.length_eq (h : Records done loading) : done.length = loading.builder.nodes.size := by
  have hend : ∀ id, done.length ≤ id ↔ loading.builder.nodes.size ≤ id := by
    intro id
    rw [← List.getElem?_eq_none_iff, h.recorded, Option.map_eq_none_iff, Array.getElem?_eq_none_iff]
  exact Nat.le_antisymm ((hend _).mpr (Nat.le_refl _)) ((hend _).mp (Nat.le_refl _))

theorem length_expectOneLess (pending : List Nat) :
    (expectOneLess pending).length = pending.length := by
  cases pending <;> rfl

/-- Taking one from the number of children still to come of the innermost node changes it for that node
and for no other. -/
theorem lookup_expectOneLess {ids counts : List Nat} (hlength : ids.length = counts.length)
    (hsettled : counts.head? ≠ some 0) (id : Nat) :
    ((ids.zip counts).lookup id).getD 0 =
      ((ids.zip (expectOneLess counts)).lookup id).getD 0 + if ids.head? = some id then 1 else 0 := by
  cases ids with
  | nil => rfl
  | cons inner outer =>
    cases counts with
    | nil => cases hlength
    | cons count rest =>
      simp only [expectOneLess, List.zip_cons_cons, List.lookup_cons, List.head?_cons,
        Option.some.injEq]
      by_cases heq : inner = id
      · have hcount : count ≠ 0 := fun hzero => hsettled (congrArg some hzero)
        simp only [heq, beq_self_eq_true, Option.getD_some, if_true]
        omega
      · have hne : (id == inner) = false := beq_eq_false_iff_ne.mpr (Ne.symm heq)
        simp only [hne, if_neg heq, Nat.add_zero]

/-- Opening a node records it, and counts it as a child of the innermost node. -/
theorem Records.openNode (h : Records done loading) (hsettled : loading.pending.head? ≠ some 0)
    (node : DumpNode) :
    Records (done ++ [node])
      ⟨⟨loading.builder.append node.kind node.token node.line node.column,
          loading.builder.nodes.size :: loading.builder.openNodes, none⟩,
        node.children :: expectOneLess loading.pending⟩ where
  aligned := by
    simp only [List.length_cons, length_expectOneLess, h.aligned]
  nodup := by
    refine List.nodup_cons.mpr ⟨fun hmem => ?_, h.nodup⟩
    exact Nat.lt_irrefl _ (h.lt_size _ hmem)
  lt_size := by
    intro id hmem
    rw [TreeBuilder.size_append]
    rcases List.mem_cons.mp hmem with rfl | hmem
    · exact Nat.lt_succ_self _
    · exact Nat.lt_succ_of_lt (h.lt_size id hmem)
  recorded := by
    intro id
    have hlength := h.length_eq
    rw [TreeBuilder.getElem?_append]
    by_cases hid : id = loading.builder.nodes.size
    · have hdue : due ⟨⟨loading.builder.append node.kind node.token node.line node.column,
          loading.builder.nodes.size :: loading.builder.openNodes, none⟩,
          node.children :: expectOneLess loading.pending⟩ id = node.children := by
        simp [due, hid]
      rw [if_pos hid, hdue, hid, ← hlength, List.getElem?_concat_length, Option.map_some]
      simp [NodeData.record]
    · have hdue : loading.due id =
          due ⟨⟨loading.builder.append node.kind node.token node.line node.column,
            loading.builder.nodes.size :: loading.builder.openNodes, none⟩,
            node.children :: expectOneLess loading.pending⟩ id +
          if loading.builder.openNodes.head? = some id then 1 else 0 := by
        have hne : (id == loading.builder.nodes.size) = false := beq_eq_false_iff_ne.mpr hid
        unfold due
        rw [lookup_expectOneLess h.aligned hsettled, List.zip_cons_cons, List.lookup_cons, hne]
      have hold : (done ++ [node])[id]? = done[id]? := by
        rcases Nat.lt_or_gt_of_ne (hlength ▸ hid) with hlt | hgt
        · exact List.getElem?_append_left hlt
        · have hend : (done ++ [node]).length ≤ id := by
            rw [List.length_append]
            exact hgt
          rw [List.getElem?_eq_none hend, List.getElem?_eq_none (Nat.le_of_lt hgt)]
      rw [if_neg hid, hold, h.recorded, Option.map_map, hdue]
      refine Option.map_congr fun data _ => ?_
      simp only [Function.comp_apply, NodeData.record]
      split
      · simp only [Array.size_push]
        congr 1
        omega
      · rfl

/-- **One step.** -/
theorem Records.next (h : Records done loading) (hsettled : loading.pending.head? ≠ some 0)
    {node : DumpNode} (herror : (loading.next node).builder.error = none) :
    Records (done ++ [node]) (loading.next node) ∧ (loading.next node).pending.head? ≠ some 0 := by
  have hopened : (loading.builder.openNode node.kind node.token node.line node.column).error = none := by
    by_contra hne
    exact settle_of_invariant (P := fun builder => builder.error ≠ none) TreeBuilder.error_tell _ hne
      herror
  obtain ⟨hnone, hrefusal⟩ := TreeBuilder.refusal?_of_openNode hopened
  unfold Loading.next
  rw [TreeBuilder.openNode_eq hnone hrefusal]
  exact (h.openNode hsettled node).settle

/-- **A whole run.** -/
theorem Records.foldl : ∀ {todo done : List DumpNode} {loading : Loading}, Records done loading →
    loading.pending.head? ≠ some 0 → (todo.foldl Loading.next loading).builder.error = none →
    Records (done ++ todo) (todo.foldl Loading.next loading)
  | [], done, loading, h, _, _ => by
    rw [List.append_nil]
    exact h
  | node :: rest, done, loading, h, hsettled, herror => by
    have hfirst : (loading.next node).builder.error = none := by
      by_contra hne
      exact foldl_of_invariant (P := fun builder => builder.error ≠ none) TreeBuilder.error_tell rest hne
        herror
    obtain ⟨hnext, hsettled⟩ := h.next hsettled hfirst
    have hrest := hnext.foldl hsettled herror
    rw [List.append_assoc] at hrest
    exact hrest

theorem records_start : Records [] .start where
  aligned := rfl
  nodup := List.nodup_nil
  lt_size := fun _ hmem => nomatch hmem
  recorded := fun _ => rfl

end Dump.Loading

namespace Dump

/-- **The dump of the tree of a dump.** -/
theorem ofTree_toTree {dump : Dump} {tree : SyntaxTree} (h : dump.toTree = .ok tree) :
    ofTree tree dump.source = dump := by
  obtain ⟨herror, hopen, hnodes⟩ := TreeBuilder.finish_eq_ok_iff.mp h
  have hrecords := Loading.records_start.foldl (fun hhead => nomatch hhead) herror
  rw [List.nil_append] at hrecords
  have hdue : ∀ id, (dump.nodes.foldl Loading.next .start).due id = 0 := by
    intro id
    unfold Loading.due
    rw [hopen]
    rfl
  have hlist : (ofTree tree dump.source).nodes = dump.nodes := by
    refine List.ext_getElem? fun id => ?_
    rw [getElem?_ofTree, hrecords.recorded, hnodes]
    simp only [hdue, Nat.add_zero]
    rfl
  calc ofTree tree dump.source
      = ⟨dump.source, (ofTree tree dump.source).nodes⟩ := rfl
    _ = dump := by rw [hlist]

/-! ## The law -/

/-- **Dumps and trees are inverse to each other.** A tree that the program can have comes back from its
dump, with all its places, and a dump that loads comes back from its tree. -/
theorem toTree_ofTree_inverse :
    (∀ tree : SyntaxTree, tree.Built → ∀ source, (ofTree tree source).toTree = .ok tree) ∧
      ∀ (dump : Dump) (tree : SyntaxTree), dump.toTree = .ok tree → ofTree tree dump.source = dump :=
  ⟨fun _ built source => toTree_ofTree built.wellFormed built.bounded source,
    fun _ _ h => ofTree_toTree h⟩

/-- A dump in which a complete node is followed by a sibling. -/
def forkedDump : Dump :=
  ⟨some "A.as", [⟨.block, none, 1, 1, 2⟩, ⟨.statement, none, 2, 3, 1⟩, ⟨.octal, some "017", 2, 7, 0⟩,
    ⟨.identifier, some "x", 3, 3, 0⟩]⟩

/-- The tree of it. -/
def forkedTree : SyntaxTree where
  nodes := #[⟨.block, none, 1, 1, none, 0, #[1, 3]⟩, ⟨.statement, none, 2, 3, some 0, 0, #[2]⟩,
    ⟨.octal, some "017", 2, 7, some 1, 0, #[]⟩, ⟨.identifier, some "x", 3, 3, some 0, 1, #[]⟩]
  nonempty := by decide

/-- A tree that came out of troubled requests, and a dump that loads: both come back. -/
theorem forkedDump_inverse :
    (TreeBuilder.troubledTree.Built ∧
      (ofTree TreeBuilder.troubledTree none).toTree = .ok TreeBuilder.troubledTree) ∧
    forkedDump.toTree = .ok forkedTree ∧ ofTree forkedTree (some "A.as") = forkedDump := by
  have built : TreeBuilder.troubledTree.Built := .ofRequests _ TreeBuilder.troubledTree_mem
  have hload : forkedDump.toTree = .ok forkedTree := rfl
  exact ⟨⟨built, toTree_ofTree_inverse.1 _ built none⟩, hload,
    toTree_ofTree_inverse.2 forkedDump forkedTree hload⟩

end Dump

end TreeLint
