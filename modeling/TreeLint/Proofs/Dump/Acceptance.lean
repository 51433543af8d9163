import Mathlib.Algebra.Ring.Int.Defs
import Mathlib.Data.List.Infix
import TreeLint.Proofs.Tree.Trouble

/-!
# Which dumps load

A dump says of each node how many children follow it, so whether its nodes spell one tree can be told by
counting: every node fills one place and announces as many as it has children (`Dump.balance`). The first
tree of a list is complete as soon as one more place was filled than announced (`Dump.Completes`), and a
node is unfinished if the tree that starts with it is not complete at the end (`Dump.unfinished`). This
module shows that a dump loads exactly if its nodes spell one tree, and which error it is if they do not
(`Dump.toTree_exact`).

While a dump is loaded, the builder knows which nodes are open, and the numbers of children still to come
are kept beside it. As long as nothing is wrong the two move together: the open nodes are the unfinished
ones, and the places that are missing to an open node are what is still to come to it and to the open nodes
inside it (`Dump.Loading.Awaits`). After a first error they part, but by then the note of it stands.

Which tree comes out is said in `TreeLint.Proofs.Dump.Inverse`.
-/

namespace TreeLint

namespace Dump

/-! ## Counting children -/

/-- The number of children that nodes announce, less the number of the nodes. -/
def balance (nodes : List DumpNode) : Int :=
  (nodes.map fun node => (node.children : Int) - 1).sum

/-- The nodes begin with a complete tree. -/
def Completes (nodes : List DumpNode) : Prop :=
  ∃ start ∈ nodes.inits, balance start = -1

instance (nodes : List DumpNode) : Decidable (Completes nodes) :=
  inferInstanceAs (Decidable (∃ start ∈ nodes.inits, balance start = -1))

/-- **The places of the nodes that are not complete at the end.** -/
def unfinished (nodes : List DumpNode) : List Nat :=
  (List.range nodes.length).filter fun place => ¬ Completes (nodes.drop place)

/-- **What is wrong about a node** after some nodes with which nothing was wrong. -/
def offence? (earlier : List DumpNode) (node : DumpNode) : Option TreeError :=
  if node.line = 0 then some (.zeroLine node.kind)
  else if Completes earlier then some (.multipleRoots node.kind node.line)
  else if TreeBuilder.maxNodes ≤ earlier.length then some .tooLarge
  else none

theorem offence?_eq_none {earlier : List DumpNode} {node : DumpNode} :
    offence? earlier node = none ↔
      node.line ≠ 0 ∧ ¬ Completes earlier ∧ earlier.length < TreeBuilder.maxNodes := by
  unfold offence?
  split_ifs with hline hcompletes hroom
  · simp [hline]
  · simp [hcompletes]
  · simp [hroom]
  · simp [hline, hcompletes, Nat.lt_of_not_le hroom]

theorem balance_append (first second : List DumpNode) :
    balance (first ++ second) = balance first + balance second := by
  unfold balance
  rw [List.map_append, List.sum_append]

theorem balance_singleton (node : DumpNode) : balance [node] = (node.children : Int) - 1 := by
  simp [balance]

theorem balance_concat (nodes : List DumpNode) (node : DumpNode) :
    balance (nodes ++ [node]) = balance nodes + node.children - 1 := by
  rw [balance_append, balance_singleton]
  omega

theorem balance_drop_concat {nodes : List DumpNode} {place : Nat} (hplace : place ≤ nodes.length)
    (node : DumpNode) :
    balance ((nodes ++ [node]).drop place) = balance (nodes.drop place) + node.children - 1 := by
  rw [List.drop_append_of_le_length hplace, balance_concat]

theorem not_completes_nil : ¬ Completes [] := by
  decide

/-- One more node completes the first tree if it fills the last place. -/
theorem completes_concat (nodes : List DumpNode) (node : DumpNode) :
    Completes (nodes ++ [node]) ↔ Completes nodes ∨ balance (nodes ++ [node]) = -1 := by
  unfold Completes
  simp only [List.mem_inits, List.prefix_concat_iff]
  constructor
  · rintro ⟨start, rfl | hstart, hbalance⟩
    · exact .inr hbalance
    · exact .inl ⟨start, hstart, hbalance⟩
  · rintro (⟨start, hstart, hbalance⟩ | hbalance)
    · exact ⟨start, .inr hstart, hbalance⟩
    · exact ⟨_, .inl rfl, hbalance⟩

theorem Completes.mono {start nodes : List DumpNode} (hstart : start <+: nodes) (h : Completes start) :
    Completes nodes := by
  obtain ⟨part, hpart, hbalance⟩ := h
  rw [List.mem_inits] at hpart
  exact ⟨part, (List.mem_inits _ _).mpr (hpart.trans hstart), hbalance⟩

/-- **As long as the first tree is not complete, no more places were filled than announced.** A node fills
one place only, so the balance cannot fall below zero without passing minus one. -/
theorem not_completes_iff (nodes : List DumpNode) :
    ¬ Completes nodes ↔ ∀ start, start <+: nodes → 0 ≤ balance start := by
  induction nodes using List.reverseRecOn with
  | nil =>
    simp only [not_completes_nil, not_false_eq_true, List.prefix_nil, forall_eq, true_iff]
    exact Int.le_refl 0
  | append_singleton nodes node ih =>
    rw [completes_concat, not_or, ih]
    simp only [List.prefix_concat_iff]
    constructor
    · rintro ⟨hnodes, hbalance⟩ start (rfl | hstart)
      · have hbefore := hnodes nodes List.prefix_rfl
        rw [balance_concat] at hbalance ⊢
        omega
      · exact hnodes start hstart
    · intro h
      refine ⟨fun start hstart => h start (.inr hstart), fun hbalance => ?_⟩
      have hall := h _ (.inl rfl)
      omega

/-- Every sum but the last, if there is a node. -/
theorem not_completes_dropLast_iff {nodes : List DumpNode} (hne : nodes ≠ []) :
    ¬ Completes nodes.dropLast ↔ ∀ count < nodes.length, 0 ≤ balance (nodes.take count) := by
  have hpos : 0 < nodes.length := List.length_pos_of_ne_nil hne
  rw [not_completes_iff]
  constructor
  · intro h count hcount
    refine h _ ?_
    rw [List.dropLast_eq_take]
    exact List.take_prefix_take_left (Nat.le_sub_one_of_lt hcount)
  · intro h start hstart
    have hlength := hstart.length_le
    rw [List.length_dropLast] at hlength
    rw [List.prefix_iff_eq_take.mp (hstart.trans (List.dropLast_prefix nodes))]
    exact h _ (by omega)

/-- One more node completes those of the unfinished nodes, itself among them, to which no place is missing
then. -/
theorem unfinished_concat (nodes : List DumpNode) (node : DumpNode) :
    unfinished (nodes ++ [node]) = (unfinished nodes ++ [nodes.length]).filter fun place =>
      balance ((nodes ++ [node]).drop place) ≠ -1 := by
  have hplace : ∀ place ≤ nodes.length, ¬ Completes ((nodes ++ [node]).drop place) ↔
      ¬ Completes (nodes.drop place) ∧ balance ((nodes ++ [node]).drop place) ≠ -1 := by
    intro place hplace
    rw [List.drop_append_of_le_length hplace, completes_concat, not_or]
  unfold unfinished
  rw [List.length_append, List.length_singleton, List.range_succ, List.filter_append, List.filter_append,
    List.filter_filter]
  congr 1
  · refine List.filter_congr fun place hmem => ?_
    simp only [hplace place (Nat.le_of_lt (List.mem_range.mp hmem)), ← Bool.decide_and, and_comm]
  · refine List.filter_congr fun place hmem => ?_
    rw [List.mem_singleton.mp hmem]
    simp only [hplace nodes.length (Nat.le_refl _), List.drop_length, not_completes_nil, not_false_eq_true,
      true_and]

theorem lt_length_of_mem_unfinished {nodes : List DumpNode} {place : Nat} (h : place ∈ unfinished nodes) :
    place < nodes.length :=
  List.mem_range.mp (List.mem_filter.mp h).1

/-- **When the first tree is complete, so is everything in it.** If a node stood unfinished inside, no place
would be missing before it and none be filled too many from it on. -/
theorem unfinished_eq_nil_iff {nodes : List DumpNode} {node : DumpNode} (h : ¬ Completes nodes) :
    unfinished (nodes ++ [node]) = [] ↔ Completes (nodes ++ [node]) := by
  constructor
  · intro hnil
    by_contra hroot
    have hmem : 0 ∈ unfinished (nodes ++ [node]) := by
      refine List.mem_filter.mpr ⟨List.mem_range.mpr ?_, decide_eq_true hroot⟩
      rw [List.length_append]
      exact Nat.succ_pos _
    rw [hnil] at hmem
    cases hmem
  · intro hroot
    have hbalance : balance (nodes ++ [node]) = -1 :=
      ((completes_concat nodes node).mp hroot).resolve_left h
    refine List.eq_nil_iff_forall_not_mem.mpr fun place hmem => ?_
    have hopen := of_decide_eq_true (List.mem_filter.mp hmem).2
    have hlength := lt_length_of_mem_unfinished hmem
    rw [List.length_append] at hlength
    have hbefore : 0 ≤ balance ((nodes ++ [node]).take place) := by
      rw [List.take_append_of_le_length (Nat.le_of_lt_succ hlength)]
      exact (not_completes_iff nodes).mp h _ (List.take_prefix place nodes)
    have hbehind := (not_completes_iff _).mp hopen _ List.prefix_rfl
    rw [← List.take_append_drop place (nodes ++ [node]), balance_append] at hbalance
    omega

/-! ## Open nodes and what they await -/

namespace Loading

variable {done : List DumpNode} {loading : Loading}

/-- **What open nodes await**, innermost first: the places that are missing to each are as many as are
still to come to it and to the open nodes inside it. -/
def Awaits (done : List DumpNode) (inside : Nat) : (openNodes pending : List Nat) → Prop
  | [], [] => True
  | place :: outer, count :: counts =>
    balance (done.drop place) + 1 = (inside + count : Nat) ∧ Awaits done (inside + count) outer counts
  | _, _ => False

/-- A node that is added fills one place of each open node, and adds those that it announces. -/
theorem Awaits.concat {node : DumpNode} : ∀ {openNodes pending : List Nat} {inside after : Nat},
    Awaits done inside openNodes pending → (∀ place ∈ openNodes, place ≤ done.length) →
    after + 1 = inside + node.children → Awaits (done ++ [node]) after openNodes pending
  | [], [], _, _, _, _, _ => trivial
  | place :: outer, count :: counts, inside, after, ⟨hplace, houter⟩, hle, hinside => by
    refine ⟨?_, houter.concat (fun other hmem => hle other (List.mem_cons_of_mem _ hmem)) (by omega)⟩
    rw [balance_drop_concat (hle place List.mem_cons_self)]
    omega

/-- If something is still to come inside, all open nodes are unfinished. -/
theorem Awaits.filter_eq : ∀ {openNodes pending : List Nat} {inside : Nat},
    Awaits done inside openNodes pending → 0 < inside →
    openNodes.filter (fun place => balance (done.drop place) ≠ -1) = openNodes
  | [], [], _, _, _ => rfl
  | place :: outer, count :: counts, inside, ⟨hplace, houter⟩, hinside => by
    have hne : balance (done.drop place) ≠ -1 := by omega
    rw [List.filter_cons_of_pos (by simpa using hne), houter.filter_eq (by omega)]

/-- **Closing what is complete.** The nodes that stay open are those to which places are missing. -/
theorem Awaits.settle : ∀ {openNodes pending : List Nat} (builder : TreeBuilder),
    builder.openNodes = openNodes → Awaits done 0 openNodes pending →
    ∃ rest, Loading.settle builder pending =
        ⟨{ builder with
            openNodes := openNodes.filter fun place => balance (done.drop place) ≠ -1 }, rest⟩ ∧
      Awaits done 0 (openNodes.filter fun place => balance (done.drop place) ≠ -1) rest ∧
      rest.head? ≠ some 0
  | [], [], builder, hopen, _ => by
    refine ⟨[], ?_, trivial, nofun⟩
    rw [Loading.settle, List.filter_nil, ← hopen]
    nofun
  | place :: outer, 0 :: counts, builder, hopen, ⟨hplace, houter⟩ => by
    have hzero : balance (done.drop place) = -1 := by omega
    have hclose : builder.close = { builder with openNodes := outer } := by
      unfold TreeBuilder.close
      rw [hopen]
    have houtside : builder.close.openNodes = outer := by rw [hclose]
    obtain ⟨rest, hsettle, hrest⟩ := Awaits.settle builder.close houtside houter
    refine ⟨rest, ?_, ?_⟩
    · rw [Loading.settle, hsettle, hclose, List.filter_cons_of_neg (by simpa using hzero)]
    · rw [List.filter_cons_of_neg (by simpa using hzero)]
      exact hrest
  | place :: outer, (count + 1) :: counts, builder, hopen, h => by
    have hmissing := h.1
    have hne : balance (done.drop place) ≠ -1 := by omega
    have hall : (place :: outer).filter (fun place => balance (done.drop place) ≠ -1) = place :: outer := by
      rw [List.filter_cons_of_pos (by simpa using hne), h.2.filter_eq (by omega)]
    refine ⟨(count + 1) :: counts, ?_, ?_, nofun⟩
    · rw [hall, ← hopen]
      rfl
    · rw [hall]
      exact h

/-! ## Loading -/

/-- **What holds while a dump is loaded and nothing is wrong.** -/
structure Loads (done : List DumpNode) (loading : Loading) : Prop where
  error_eq : loading.builder.error = none
  size_eq : loading.builder.nodes.size = done.length
  /-- The open nodes are the unfinished ones, innermost first. -/
  openNodes_eq : loading.builder.openNodes = (unfinished done).reverse
  awaits : Awaits done 0 loading.builder.openNodes loading.pending
  settled : loading.pending.head? ≠ some 0
  /-- Nothing is open exactly if nothing was loaded or a tree is complete. -/
  openNodes_eq_nil_iff : loading.builder.openNodes = [] ↔ done = [] ∨ Completes done

theorem loads_start : Loads [] .start where
  error_eq := rfl
  size_eq := rfl
  openNodes_eq := rfl
  awaits := trivial
  settled := nofun
  openNodes_eq_nil_iff := ⟨fun _ => .inl rfl, fun _ => rfl⟩

/-- What is wrong about a node is why the builder refuses it. -/
theorem Loads.refusal?_eq (h : Loads done loading) (node : DumpNode) :
    loading.builder.refusal? node.kind node.line = offence? done node := by
  have hroot : loading.builder.openNodes = [] ∧ done.length ≠ 0 ↔ Completes done := by
    rw [h.openNodes_eq_nil_iff, Ne, List.length_eq_zero_iff]
    constructor
    · rintro ⟨hnil | hcompletes, hne⟩
      · exact absurd hnil hne
      · exact hcompletes
    · intro hcompletes
      refine ⟨.inr hcompletes, ?_⟩
      rintro rfl
      exact not_completes_nil hcompletes
  unfold TreeBuilder.refusal? offence?
  simp only [h.size_eq, hroot]

/-- Opening a node: it awaits the children that it announces, and the nodes around it one less. -/
theorem Awaits.openNode {openNodes pending : List Nat} (h : Awaits done 0 openNodes pending)
    (hsettled : pending.head? ≠ some 0) (hle : ∀ place ∈ openNodes, place ≤ done.length)
    (node : DumpNode) :
    Awaits (done ++ [node]) 0 (done.length :: openNodes) (node.children :: expectOneLess pending) := by
  refine ⟨?_, ?_⟩
  · rw [List.drop_left, balance_singleton]
    omega
  · rw [Nat.zero_add]
    match openNodes, pending, h with
    | [], [], _ => exact trivial
    | place :: outer, count :: counts, ⟨hplace, houter⟩ =>
      have hcount : count ≠ 0 := fun hzero => hsettled (congrArg some hzero)
      refine ⟨?_, houter.concat (fun other hmem => hle other (List.mem_cons_of_mem _ hmem)) (by omega)⟩
      rw [balance_drop_concat (hle place List.mem_cons_self)]
      omega

/-- **One node** with which nothing is wrong is loaded. -/
theorem Loads.next (h : Loads done loading) {node : DumpNode} (hnode : offence? done node = none) :
    Loads (done ++ [node]) (loading.next node) := by
  have hrefusal : loading.builder.refusal? node.kind node.line = none := by
    rw [h.refusal?_eq, hnode]
  have hincomplete : ¬ Completes done := (offence?_eq_none.mp hnode).2.1
  have hle : ∀ place ∈ loading.builder.openNodes, place ≤ done.length := by
    intro place hmem
    rw [h.openNodes_eq, List.mem_reverse] at hmem
    exact Nat.le_of_lt (lt_length_of_mem_unfinished hmem)
  -- what stays open of the nodes that were open, the new one among them, is what is unfinished now
  have hopen : (done.length :: loading.builder.openNodes).filter (fun place =>
      balance ((done ++ [node]).drop place) ≠ -1) = (unfinished (done ++ [node])).reverse := by
    rw [unfinished_concat, ← List.filter_reverse, List.reverse_append, h.openNodes_eq]
    rfl
  obtain ⟨rest, hsettle, hawaits, hsettled⟩ := (h.awaits.openNode h.settled hle node).settle
    ⟨loading.builder.append node.kind node.token node.line node.column,
      done.length :: loading.builder.openNodes, none⟩ rfl
  have hnext : loading.next node = ⟨⟨loading.builder.append node.kind node.token node.line node.column,
      (unfinished (done ++ [node])).reverse, none⟩, rest⟩ := by
    unfold Loading.next
    rw [TreeBuilder.openNode_eq h.error_eq hrefusal, h.size_eq, hsettle, hopen]
  rw [hopen] at hawaits
  rw [hnext]
  refine ⟨rfl, ?_, rfl, hawaits, hsettled, ?_⟩
  · rw [TreeBuilder.size_append, h.size_eq, List.length_append]
    rfl
  · rw [List.reverse_eq_nil_iff, unfinished_eq_nil_iff hincomplete]
    simp

/-- **One node** with which something is wrong is noted. -/
theorem Loads.error_next (h : Loads done loading) {node : DumpNode} {error : TreeError}
    (hnode : offence? done node = some error) : (loading.next node).builder.error = some error := by
  rw [← h.refusal?_eq] at hnode
  have hopened := (TreeBuilder.error_of_refusal? h.error_eq hnode node.token node.column).1
  exact settle_of_invariant (P := fun builder => builder.error = some error)
    (fun hnoted call => TreeBuilder.error_tell_eq hnoted call) _ hopened

/-- **Loading notes the first node with which something is wrong.** -/
theorem notesFirst :
    NotesFirst offence? Loading.next (fun loading => loading.builder.error) Loads where
  note?_eq := fun h => h.error_eq
  keeps := fun h => h.next
  notes := fun h => h.error_next
  stands := by
    intro loading node error hnoted
    exact foldl_of_invariant (P := fun builder => builder.error = some error)
      (fun hnoted call => TreeBuilder.error_tell_eq hnoted call) [node] hnoted

end Loading

/-! ## The law -/

/-- **Nothing is wrong with nodes** exactly if no line is zero, no tree is complete before the last node,
and there are not too many. -/
theorem inoffensive_iff (nodes : List DumpNode) :
    Inoffensive offence? nodes ↔ (∀ node ∈ nodes, node.line ≠ 0) ∧ ¬ Completes nodes.dropLast ∧
      nodes.length ≤ TreeBuilder.maxNodes := by
  induction nodes using List.reverseRecOn with
  | nil => simp [inoffensive_nil, not_completes_nil]
  | append_singleton nodes node ih =>
    rw [inoffensive_concat, ih, offence?_eq_none, List.dropLast_concat, List.length_append,
      List.length_singleton]
    constructor
    · rintro ⟨⟨hlines, _, _⟩, hline, hnodes, hroom⟩
      refine ⟨fun other hmem => ?_, hnodes, hroom⟩
      rcases List.mem_append.mp hmem with hmem | hmem
      · exact hlines other hmem
      · rw [List.mem_singleton.mp hmem]
        exact hline
    · rintro ⟨hlines, hnodes, hroom⟩
      refine ⟨⟨fun other hmem => hlines other (List.mem_append_left _ hmem), ?_, Nat.le_of_succ_le hroom⟩,
        hlines node (List.mem_append_right _ (List.mem_singleton_self node)), hnodes, hroom⟩
      exact fun hcompletes => hnodes (hcompletes.mono (List.dropLast_prefix nodes))

/-- **Nodes that spell one tree.** -/
theorem spells_iff (nodes : List DumpNode) :
    Inoffensive offence? nodes ∧ Completes nodes ↔
      nodes ≠ [] ∧ (∀ node ∈ nodes, 1 ≤ node.line) ∧
        (∀ count < nodes.length, 0 ≤ balance (nodes.take count)) ∧ balance nodes = -1 ∧
        nodes.length ≤ TreeBuilder.maxNodes := by
  rcases List.eq_nil_or_concat nodes with rfl | ⟨earlier, last, rfl⟩
  · simp [not_completes_nil]
  · rw [List.concat_eq_append]
    have hne : earlier ++ [last] ≠ [] := List.append_ne_nil_of_right_ne_nil _ (List.cons_ne_nil _ _)
    rw [inoffensive_iff, ← not_completes_dropLast_iff hne, List.dropLast_concat, completes_concat]
    simp only [Nat.one_le_iff_ne_zero]
    tauto

theorem offence?_ne_unbalancedClose (earlier : List DumpNode) (node : DumpNode) :
    offence? earlier node ≠ some .unbalancedClose := by
  unfold offence?
  split_ifs <;> nofun

section Answers

variable {dump : Dump}

/-- The builder after all nodes of a dump, if nothing is wrong with them. -/
theorem loads_of_inoffensive (h : Inoffensive offence? dump.nodes) :
    Loading.Loads dump.nodes (dump.nodes.foldl Loading.next .start) :=
  Loading.notesFirst.keeps_foldl Loading.loads_start h

theorem error_foldl_eq_none_iff :
    (dump.nodes.foldl Loading.next .start).builder.error = none ↔ Inoffensive offence? dump.nodes :=
  Loading.notesFirst.note?_foldl_eq_none_iff Loading.loads_start

/-- A tree comes out if nothing is wrong and one is complete. -/
theorem exists_toTree_eq_ok_iff :
    (∃ tree, dump.toTree = .ok tree) ↔ Inoffensive offence? dump.nodes ∧ Completes dump.nodes := by
  constructor
  · rintro ⟨tree, htree⟩
    obtain ⟨herror, hopen, hnodes⟩ := TreeBuilder.finish_eq_ok_iff.mp htree
    have hinoffensive := error_foldl_eq_none_iff.mp herror
    have hloads := loads_of_inoffensive hinoffensive
    refine ⟨hinoffensive, (hloads.openNodes_eq_nil_iff.mp hopen).resolve_left fun hnil => ?_⟩
    have hsize := hloads.size_eq
    rw [hnodes, hnil] at hsize
    exact Nat.ne_of_gt tree.nonempty hsize
  · rintro ⟨hinoffensive, hcompletes⟩
    have hloads := loads_of_inoffensive hinoffensive
    have hpos : 0 < dump.nodes.length := by
      refine List.length_pos_of_ne_nil fun hnil => ?_
      rw [hnil] at hcompletes
      exact not_completes_nil hcompletes
    rw [← hloads.size_eq] at hpos
    refine ⟨⟨_, hpos⟩, TreeBuilder.finish_eq_ok_iff.mpr ⟨hloads.error_eq, ?_, rfl⟩⟩
    exact hloads.openNodes_eq_nil_iff.mpr (.inr hcompletes)

/-- **Which error comes out**: the first thing that is wrong, or, if nothing is, that there is no node or
how many are unfinished. -/
theorem toTree_eq_error_iff {error : TreeError} :
    dump.toTree = .error error ↔ FirstOffence offence? dump.nodes error ∨
      Inoffensive offence? dump.nodes ∧ (dump.nodes = [] ∧ error = .empty ∨
        unfinished dump.nodes ≠ [] ∧ error = .unclosed (unfinished dump.nodes).length) := by
  have hnotes : (dump.nodes.foldl Loading.next .start).builder.error = some error ↔
      FirstOffence offence? dump.nodes error :=
    Loading.notesFirst.note?_foldl_eq_some_iff Loading.loads_start
  unfold toTree
  rw [TreeBuilder.finish_eq_error_iff, hnotes, error_foldl_eq_none_iff]
  refine or_congr_right (and_congr_right fun hinoffensive => ?_)
  have hloads := loads_of_inoffensive hinoffensive
  have hsome : unfinished dump.nodes ≠ [] → dump.nodes ≠ [] := by
    intro hne hnil
    rw [hnil] at hne
    exact hne rfl
  rw [hloads.size_eq, hloads.openNodes_eq, List.length_reverse]
  simp only [Ne, List.length_eq_zero_iff]
  grind

end Answers

/-- **A dump loads exactly if its nodes spell one tree**: there are some, their lines are from one on, and
no more places are filled than announced until the last node fills the last one. Otherwise there is no
node, or the first node of line zero or beside a complete tree is refused, or, if there is none, the
unfinished nodes are counted. Nothing is ever closed that is not open. -/
theorem toTree_exact (dump : Dump) :
    ((∃ tree, dump.toTree = .ok tree) ↔
      dump.nodes ≠ [] ∧ (∀ node ∈ dump.nodes, 1 ≤ node.line) ∧
        (∀ count < dump.nodes.length, 0 ≤ balance (dump.nodes.take count)) ∧
        balance dump.nodes = -1 ∧ dump.nodes.length ≤ TreeBuilder.maxNodes) ∧
    (∀ error, dump.toTree = .error error ↔
      dump.nodes = [] ∧ error = .empty ∨ FirstOffence offence? dump.nodes error ∨
        Inoffensive offence? dump.nodes ∧ unfinished dump.nodes ≠ [] ∧
          error = .unclosed (unfinished dump.nodes).length) ∧
    dump.toTree ≠ .error .unbalancedClose := by
  refine ⟨exists_toTree_eq_ok_iff.trans (spells_iff dump.nodes), fun error => ?_, fun hload => ?_⟩
  · have hnil : dump.nodes = [] → Inoffensive offence? dump.nodes := by
      intro hnil
      rw [hnil]
      exact inoffensive_nil
    rw [toTree_eq_error_iff]
    grind
  · rcases toTree_eq_error_iff.mp hload with hfirst | ⟨_, ⟨_, hempty⟩ | ⟨_, hunclosed⟩⟩
    · obtain ⟨earlier, node, later, _, _, hnode⟩ := hfirst
      exact offence?_ne_unbalancedClose earlier node hnode
    · cases hempty
    · cases hunclosed

/-- A node that lacks a child is unfinished, and a node behind a complete tree is a second root. -/
example :
    unfinished [⟨.block, none, 1, 1, 2⟩, ⟨.octal, some "017", 2, 7, 0⟩] = [0] ∧
    offence? [⟨.block, none, 1, 1, 1⟩, ⟨.octal, some "017", 2, 7, 0⟩] ⟨.octal, some "010", 3, 7, 0⟩ =
      some (.multipleRoots .octal 3) := by
  decide

end Dump

end TreeLint
