import Mathlib.Data.List.Sort
import TreeLint.Proofs.Tree.Navigation
import TreeLint.Tree.Traversal

/-!
# The tour of a tree

`Node.tour` is the plain recursion: a node is entered, its children are toured from first to last, and
the node is left. `SyntaxTree.walk` holds what is still to do in a list, leaves out the visits of nodes
that nobody wants to hear of being left, and has a clock. **They agree** (`SyntaxTree.walk_eq_foldl`): a
walk over a well-formed tree hands on the visits of the tour, less those that are left out, in the
order of the tour.

`Visit.run_tour` carries it. It says what the stack does from the moment a node is on top to the moment
the rest of the stack is back, for any rest, so the induction over the tree needs no other invariant.
The clock is set to twice the number of nodes. That this is enough is a fact about the tour: it enters
each node of the tree once (`SyntaxTree.filterMap_entered_tour`), in document order, and it leaves as
many nodes as it enters.

The last part is about the nodes that are open at a visit: those that were entered and not yet left are
the ancestors of the visited node (`Node.leads_tour`).
-/

namespace TreeLint

open Arena

/-- The visits to a node and to all nodes below it. -/
def Node.tour (node : Node) : List Visit :=
  ⟨.enter, node⟩ :: node.children.attach.flatMap (fun ⟨child, _⟩ =>
    if node.id < child.id then child.tour else []) ++ [⟨.leave, node⟩]
termination_by node.tree.nodes.size - node.id
decreasing_by
  have htree := Node.tree_of_mem_children ‹_›
  have hend := child.inTree
  rw [htree] at hend ⊢
  omega

/-- The visits to all nodes of a tree. -/
def SyntaxTree.tour (tree : SyntaxTree) : List Visit :=
  tree.root.tour

/-- The children of a node stand behind it, so a recursion over them may ask for that in order to be seen
to end. -/
theorem Node.flatMap_attach_children {β : Type u} {node : Node} (wf : WellFormed node.tree.nodes)
    (recur : Node → List β) :
    node.children.attach.flatMap (fun ⟨child, _⟩ =>
      if node.id < child.id then recur child else []) = node.children.flatMap recur := by
  have hall : ∀ child ∈ node.children.attach,
      (if node.id < child.1.id then recur child.1 else []) = recur child.1 :=
    fun child _ => if_pos (id_lt_of_mem_children wf child.2)
  rw [List.flatMap_congr hall, ← List.flatMap_map Subtype.val recur, List.attach_map_subtype_val]

/-- **The tour is the plain recursion.** -/
theorem Node.tour_eq {node : Node} (wf : WellFormed node.tree.nodes) :
    node.tour = ⟨.enter, node⟩ :: node.children.flatMap Node.tour ++ [⟨.leave, node⟩] := by
  rw [tour, flatMap_attach_children wf]

/-! ## The walk -/

namespace Visit

/-- Whether a walk hands on a visit: it does so when a node is entered, and when a node is left of
which somebody wants to know. -/
def isHandedOn (wantsLeave : NodeKind → Bool) (visit : Visit) : Bool :=
  visit.event == .enter || wantsLeave visit.node.kind

variable {σ : Type u} {wantsLeave : NodeKind → Bool} {act : σ → Visit → σ}

/-- The visits of the tour of a node that a walk hands on. -/
def handed (wantsLeave : NodeKind → Bool) (node : Node) : List Visit :=
  node.tour.filter (isHandedOn wantsLeave)

theorem handed_eq {node : Node} (wf : WellFormed node.tree.nodes) :
    handed wantsLeave node = ⟨.enter, node⟩ :: node.children.flatMap (handed wantsLeave) ++
      (if wantsLeave node.kind then [⟨.leave, node⟩] else []) := by
  unfold handed
  rw [Node.tour_eq wf, List.filter_append, List.filter_cons_of_pos rfl, List.filter_flatMap]
  congr 1
  cases hleave : wantsLeave node.kind with
  | true => exact List.filter_cons_of_pos hleave
  | false => exact List.filter_cons_of_neg (by simp [isHandedOn, hleave])

/-- A walk through nodes that are to be entered one after the other, if it is known what a walk does
at each of them. -/
theorem run_forest {nodes : List Node}
    (each : ∀ node ∈ nodes, ∀ (fuel : Nat) (todo : List Visit) (state : σ),
      run wantsLeave act ((handed wantsLeave node).length + fuel) (⟨.enter, node⟩ :: todo) state =
        run wantsLeave act fuel todo ((handed wantsLeave node).foldl act state))
    (fuel : Nat) (todo : List Visit) (state : σ) :
    run wantsLeave act ((nodes.flatMap (handed wantsLeave)).length + fuel)
        (nodes.map (Visit.mk .enter) ++ todo) state =
      run wantsLeave act fuel todo ((nodes.flatMap (handed wantsLeave)).foldl act state) := by
  induction nodes generalizing state with
  | nil => simp
  | cons node rest ih =>
    have hrest := ih fun other hmem => each other (List.mem_cons_of_mem _ hmem)
    rw [List.flatMap_cons, List.length_append, Nat.add_assoc, List.map_cons, List.cons_append,
      each node List.mem_cons_self, hrest, List.foldl_append]

/-- **The stack of a walk.** With a node on top that is to be entered, the stack hands on the visits
of its tour and then goes on with what was below, whatever that is. -/
theorem run_tour {tree : SyntaxTree} (wf : WellFormed tree.nodes) (node : Node)
    (htree : node.tree = tree) :
    ∀ (fuel : Nat) (todo : List Visit) (state : σ),
      run wantsLeave act ((handed wantsLeave node).length + fuel) (⟨.enter, node⟩ :: todo) state =
        run wantsLeave act fuel todo ((handed wantsLeave node).foldl act state) := by
  refine Node.subtree_induction wf (fun node htree ih => ?_) node htree
  subst htree
  intro fuel todo state
  rw [handed_eq wf, List.cons_append, List.length_cons, List.length_append,
    show ∀ m k : Nat, m + k + 1 + fuel = (m + (k + fuel)) + 1 by omega]
  show run wantsLeave act _ (below wantsLeave node ++ todo) (act state ⟨.enter, node⟩) = _
  unfold below
  rw [List.append_assoc, run_forest ih, List.foldl_cons, List.foldl_append]
  -- only the visit of leaving the node itself is left to do, if it is wanted
  cases wantsLeave node.kind with
  | false => simp
  | true =>
    simp only [if_pos, List.length_singleton, List.singleton_append, List.foldl_cons,
      List.foldl_nil]
    rw [Nat.add_comm 1 fuel]
    rfl

end Visit

/-! ## The order of the visits -/

/-- The node that a visit enters, if it enters one. -/
def Visit.entered? (visit : Visit) : Option Node :=
  if visit.event = .enter then some visit.node else none

@[simp]
theorem Visit.entered?_enter (node : Node) : entered? ⟨.enter, node⟩ = some node :=
  rfl

@[simp]
theorem Visit.entered?_leave (node : Node) : entered? ⟨.leave, node⟩ = none :=
  rfl

theorem Visit.entered?_eq_some {visit : Visit} {node : Node} :
    visit.entered? = some node ↔ visit = ⟨.enter, node⟩ := by
  obtain ⟨event, visited⟩ := visit
  cases event <;> simp [entered?]

namespace Node

/-- The tour of a node visits the nodes of its subtree, and no others. -/
theorem atOrBelow_of_mem_tour {tree : SyntaxTree} (wf : WellFormed tree.nodes) (node : Node)
    (htree : node.tree = tree) : ∀ visit ∈ node.tour,
      visit.node.tree = tree ∧ AtOrBelow tree.nodes node.id visit.node.id := by
  refine subtree_induction wf (fun node htree ih => ?_) node htree
  subst htree
  intro visit hmem
  rw [tour_eq wf] at hmem
  rcases List.mem_append.mp hmem with hmem | hmem
  · rcases List.mem_cons.mp hmem with rfl | hmem
    · exact ⟨rfl, .top⟩
    · obtain ⟨child, hchild, hvisit⟩ := List.mem_flatMap.mp hmem
      obtain ⟨hvisitTree, hbelow⟩ := ih child hchild visit hvisit
      refine ⟨hvisitTree, (wf.atOrBelow_iff node.getElem?_id).mpr (.inr ⟨child.id, ?_, hbelow⟩)⟩
      exact (mem_children.mp hchild).2
  · obtain rfl := List.mem_singleton.mp hmem
    exact ⟨rfl, .top⟩

/-- The tour of a node enters every node of its subtree. -/
theorem enter_mem_tour {tree : SyntaxTree} (wf : WellFormed tree.nodes) (node : Node)
    (htree : node.tree = tree) : ∀ other : Node, other.tree = tree →
      AtOrBelow tree.nodes node.id other.id → ⟨.enter, other⟩ ∈ node.tour := by
  refine subtree_induction wf (fun node htree ih => ?_) node htree
  subst htree
  intro other hother hbelow
  rw [tour_eq wf]
  refine List.mem_append_left _ ?_
  rcases (wf.atOrBelow_iff node.getElem?_id).mp hbelow with hid | ⟨id, hmem, hbelow⟩
  · obtain rfl := eq_of_id hother hid
    exact List.mem_cons_self
  · have hid : id < node.tree.nodes.size := wf.lt_size_of_mem_children node.getElem?_id hmem
    have hchild : (⟨node.tree, id, hid⟩ : Node) ∈ node.children := mem_children.mpr ⟨rfl, hmem⟩
    exact List.mem_cons_of_mem _ (List.mem_flatMap.mpr ⟨_, hchild, ih _ hchild other hother hbelow⟩)

/-- Two visits of a tour, the first before the second: they differ, and if both enter a node, the
second enters one that stands behind. -/
def Before (first second : Visit) : Prop :=
  first ≠ second ∧
    (first.event = .enter → second.event = .enter → first.node.id < second.node.id)

theorem before_of_lt {first second : Visit} (h : first.node.id < second.node.id) :
    Before first second :=
  ⟨fun heq => Nat.lt_irrefl _ (heq ▸ h), fun _ _ => h⟩

/-- **The order of a tour.** No visit comes twice, and nodes are entered in document order. -/
theorem tour_pairwise {tree : SyntaxTree} (wf : WellFormed tree.nodes) (node : Node)
    (htree : node.tree = tree) : node.tour.Pairwise Before := by
  refine subtree_induction wf (fun node htree ih => ?_) node htree
  subst htree
  -- everything visited below the node stands behind it
  have hbehind : ∀ visit ∈ node.children.flatMap tour, node.id < visit.node.id := by
    intro visit hmem
    obtain ⟨child, hchild, hvisit⟩ := List.mem_flatMap.mp hmem
    have hbelow := (atOrBelow_of_mem_tour wf child (tree_of_mem_children hchild) visit hvisit).2
    exact Nat.lt_of_lt_of_le (id_lt_of_mem_children wf hchild) (wf.le_of_atOrBelow hbelow)
  rw [tour_eq wf, List.pairwise_append, List.pairwise_cons]
  refine ⟨⟨fun visit hmem => before_of_lt (hbehind visit hmem), ?_⟩,
    List.pairwise_singleton _ _, ?_⟩
  · refine List.pairwise_flatMap.mpr ⟨ih, ?_⟩
    refine (children_pairwise wf).imp_of_mem fun {first second} hfirst hsecond hlt => ?_
    intro early hearly late hlate
    have hfirstBelow :=
      (atOrBelow_of_mem_tour wf first (tree_of_mem_children hfirst) early hearly).2
    have hsecondBelow :=
      (atOrBelow_of_mem_tour wf second (tree_of_mem_children hsecond) late hlate).2
    refine before_of_lt (Nat.lt_of_lt_of_le ?_ (wf.le_of_atOrBelow hsecondBelow))
    exact wf.subtree_lt_of_siblings node.getElem?_id (mem_children.mp hfirst).2
      (mem_children.mp hsecond).2 hlt hfirstBelow
  · intro visit hmem last hlast
    obtain rfl := List.mem_singleton.mp hlast
    refine ⟨?_, fun _ hleave => nomatch hleave⟩
    rcases List.mem_cons.mp hmem with rfl | hmem
    · exact fun heq => nomatch congrArg Visit.event heq
    · intro heq
      have := hbehind visit hmem
      rw [heq] at this
      exact Nat.lt_irrefl _ this

/-- The nodes that a tour enters stand one behind the other. -/
theorem entered_pairwise {tree : SyntaxTree} (wf : WellFormed tree.nodes) (node : Node)
    (htree : node.tree = tree) : (node.tour.filterMap Visit.entered?).Pairwise
      fun first second => first.id < second.id := by
  rw [List.pairwise_filterMap]
  refine (tour_pairwise wf node htree).imp fun {first second} h early hearly late hlate => ?_
  obtain rfl := Visit.entered?_eq_some.mp hearly
  obtain rfl := Visit.entered?_eq_some.mp hlate
  exact h.2 rfl rfl

/-- Tours one after the other leave as many nodes as they enter, if each of them does. -/
theorem length_flatMap_tour {nodes : List Node} (each : ∀ node ∈ nodes,
    node.tour.length = 2 * (node.tour.filterMap Visit.entered?).length) :
    (nodes.flatMap tour).length = 2 * ((nodes.flatMap tour).filterMap Visit.entered?).length := by
  induction nodes with
  | nil => rfl
  | cons node rest ih =>
    have hnode := each node List.mem_cons_self
    have hrest := ih fun other hmem => each other (List.mem_cons_of_mem _ hmem)
    rw [List.flatMap_cons, List.filterMap_append, List.length_append, List.length_append, hnode,
      hrest]
    omega

/-- A tour leaves as many nodes as it enters. -/
theorem length_tour {tree : SyntaxTree} (wf : WellFormed tree.nodes) (node : Node)
    (htree : node.tree = tree) :
    node.tour.length = 2 * (node.tour.filterMap Visit.entered?).length := by
  refine subtree_induction wf (fun node htree ih => ?_) node htree
  subst htree
  have hchildren := length_flatMap_tour ih
  rw [tour_eq wf]
  simp only [List.cons_append, List.filterMap_cons, Visit.entered?_enter, List.filterMap_append,
    Visit.entered?_leave, List.filterMap_nil, List.append_nil, List.length_cons, List.length_append,
    List.length_nil]
  omega

end Node

namespace SyntaxTree

variable {tree : SyntaxTree}

theorem nodup_tour (wf : WellFormed tree.nodes) : tree.tour.Nodup :=
  (Node.tour_pairwise wf tree.root rfl).imp fun h => h.1

theorem tree_of_mem_tour (wf : WellFormed tree.nodes) {visit : Visit} (h : visit ∈ tree.tour) :
    visit.node.tree = tree :=
  (Node.atOrBelow_of_mem_tour wf tree.root rfl visit h).1

/-- Every node belongs to the subtree of the root. -/
theorem atOrBelow_root (wf : WellFormed tree.nodes) (id : Nat) (hid : id < tree.nodes.size) :
    AtOrBelow tree.nodes 0 id := by
  have hdata : tree.nodes[id]? = some tree.nodes[id] := Array.getElem?_eq_getElem hid
  cases hparent : tree.nodes[id].parent with
  | none =>
    obtain rfl := (wf.parent_none_iff hdata).mp hparent
    exact .top
  | some parent =>
    have hlt : parent < id := wf.parent_lt hdata hparent
    exact .child (parentAt?_eq_some.mpr ⟨_, hdata, hparent⟩)
      (atOrBelow_root wf parent (Nat.lt_trans hlt hid))

/-- **The tour of a tree enters its nodes in document order, each once.** -/
theorem filterMap_entered_tour (wf : WellFormed tree.nodes) :
    tree.tour.filterMap Visit.entered? = tree.toList := by
  have hsorted := Node.entered_pairwise wf tree.root rfl
  have : Std.Irrefl fun first second : Node => first.id < second.id :=
    ⟨fun node => Nat.lt_irrefl node.id⟩
  refine hsorted.eq_of_mem_iff tree.toList_pairwise fun node => ?_
  rw [List.mem_filterMap, mem_toList]
  constructor
  · rintro ⟨visit, hmem, hentered⟩
    obtain rfl := Visit.entered?_eq_some.mp hentered
    exact tree_of_mem_tour wf hmem
  · rintro rfl
    refine ⟨⟨.enter, node⟩, ?_, rfl⟩
    exact Node.enter_mem_tour wf node.tree.root rfl node rfl (atOrBelow_root wf node.id node.inTree)

/-- The clock of a walk does not run out: there are at most two visits to each node. -/
theorem length_handed_root (wf : WellFormed tree.nodes) (wantsLeave : NodeKind → Bool) :
    (Visit.handed wantsLeave tree.root).length ≤ 2 * tree.size := by
  have hentered : (tree.tour.filterMap Visit.entered?).length = tree.size := by
    rw [filterMap_entered_tour wf, ← List.length_map Node.id, map_id_toList, List.length_range]
    rfl
  calc (Visit.handed wantsLeave tree.root).length
      ≤ tree.tour.length := List.length_filter_le _ _
    _ = 2 * (tree.tour.filterMap Visit.entered?).length := Node.length_tour wf tree.root rfl
    _ = 2 * tree.size := by rw [hentered]

/-- **A walk hands on the tour.** It goes through the visits of the tour in their order and leaves out
only those of nodes being left of which nobody wants to know. -/
theorem walk_eq_foldl {σ : Type u} (wf : WellFormed tree.nodes) (wantsLeave : NodeKind → Bool)
    (act : σ → Visit → σ) (state : σ) :
    tree.walk wantsLeave act state =
      (tree.tour.filter (Visit.isHandedOn wantsLeave)).foldl act state := by
  obtain ⟨spare, hspare⟩ := Nat.exists_eq_add_of_le (length_handed_root wf wantsLeave)
  unfold walk
  rw [hspare, Visit.run_tour wf tree.root rfl spare [] state]
  cases spare <;> rfl

end SyntaxTree

/-! ## The open nodes -/

namespace Visit

/-- The nodes that are open before a visit, the innermost first. -/
def path (visit : Visit) : List Node :=
  match visit.event with
  | .enter => visit.node.ancestors
  | .leave => visit.node :: visit.node.ancestors

/-- The nodes that are open after a visit, the innermost first. -/
def pathAfter (visit : Visit) : List Node :=
  match visit.event with
  | .enter => visit.node :: visit.node.ancestors
  | .leave => visit.node.ancestors

/-- Visits that lead from some open nodes to others, each going on where the one before stopped. -/
def Leads : List Node → List Visit → List Node → Prop
  | start, [], stop => start = stop
  | start, visit :: rest, stop => visit.path = start ∧ Leads visit.pathAfter rest stop

theorem Leads.append : ∀ {first : List Visit} {second : List Visit} {start middle stop : List Node},
    Leads start first middle → Leads middle second stop → Leads start (first ++ second) stop
  | [], _, _, _, _, rfl, hsecond => hsecond
  | _ :: _, _, _, _, _, hfirst, hsecond => ⟨hfirst.1, hfirst.2.append hsecond⟩

theorem leads_flatMap {path : List Node} : ∀ {nodes : List Node},
    (∀ node ∈ nodes, Leads path node.tour path) → Leads path (nodes.flatMap Node.tour) path
  | [], _ => rfl
  | _ :: _, each => (each _ List.mem_cons_self).append
      (leads_flatMap fun node hmem => each node (List.mem_cons_of_mem _ hmem))

end Visit

/-- **The tour of a node opens and closes what is below it**, and in the end the same nodes are open as
in the beginning. -/
theorem Node.leads_tour {tree : SyntaxTree} (wf : WellFormed tree.nodes) (node : Node)
    (htree : node.tree = tree) : Visit.Leads node.ancestors node.tour node.ancestors := by
  refine subtree_induction wf (fun node htree ih => ?_) node htree
  subst htree
  have hbelow : Visit.Leads (node :: node.ancestors) (node.children.flatMap tour)
      (node :: node.ancestors) := by
    refine Visit.leads_flatMap fun child hmem => ?_
    have hchild := ih child hmem
    rw [ancestors_of_mem_children wf hmem] at hchild
    exact hchild
  have hleave : Visit.Leads (node :: node.ancestors) [⟨.leave, node⟩] node.ancestors := ⟨rfl, rfl⟩
  rw [tour_eq wf]
  exact ⟨rfl, hbelow.append hleave⟩

namespace SyntaxTree

variable {tree : SyntaxTree}

theorem leads_tour (wf : WellFormed tree.nodes) : Visit.Leads [] tree.tour [] := by
  have h := Node.leads_tour wf tree.root rfl
  rw [Node.ancestors_root wf] at h
  exact h

/-- What comes of a tour, if nothing comes of leaving a node, is what comes of the nodes in document
order. -/
theorem flatMap_tour {ε : Type} (wf : WellFormed tree.nodes) {outcome : Visit → List ε}
    (hleave : ∀ node, outcome ⟨.leave, node⟩ = []) :
    tree.tour.flatMap outcome = tree.toList.flatMap fun node => outcome ⟨.enter, node⟩ := by
  rw [← filterMap_entered_tour wf, List.filterMap_eq_flatMap_toList, List.flatMap_assoc]
  refine List.flatMap_congr fun visit _ => ?_
  obtain ⟨event, node⟩ := visit
  cases event with
  | enter => exact (List.flatMap_singleton _ _).symm
  | leave => exact hleave node

end SyntaxTree

end TreeLint
