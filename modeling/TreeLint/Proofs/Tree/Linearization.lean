import TreeLint.Proofs.Tree.Trouble

/-!
# Trees told call by call

A tree can be told to a builder in one way only: a node is opened, its children are told in order, and it
is closed; a token node is told in one call (`Outline.calls`). This module shows that a builder answers a
tree exactly if it was told one in this way, and that the arena it answers is then the tree in pre-order
(`Outline.tree`), with the lists of children and the places that the tree gives (`TreeBuilder.finish_exact`).

Both directions are an induction of their own. Telling a tree is followed along the tree: the calls of a
subtree put its nodes behind the arena and its root among the children of the innermost open node, and
leave everything else as it was (`Outline.foldl_calls`). That calls with which nothing is wrong tell a tree,
or the beginning of one, is shown along the calls: the beginning is a path of open nodes, each with those of
its children that are complete (`Frame`).

Which error is answered otherwise was settled in `TreeLint.Proofs.Tree.Trouble`.
-/

namespace TreeLint

open TreeBuilder

/-- **An ordered tree as it is told to a builder.** -/
inductive Outline where
  /-- A node that is opened and closed. It may have no children. -/
  | inner (kind : NodeKind) (token : Option String) (line column : Nat) (children : List Outline)
  /-- A node that carries a token and has no children. -/
  | leaf (kind : NodeKind) (token : String) (line column : Nat)

namespace Outline

/-! ## Calls and arenas -/

mutual
/-- **The calls that tell a tree**, depth first. -/
def calls : Outline → List Call
  | .inner kind token line column children =>
    .openNode kind token line column :: (callsAll children ++ [.close])
  | .leaf kind token line column => [.leaf kind token line column]
/-- The calls that tell trees one after the other. -/
def callsAll : List Outline → List Call
  | [] => []
  | outline :: rest => outline.calls ++ callsAll rest
end

mutual
/-- The number of nodes of a tree. -/
def size : Outline → Nat
  | .inner _ _ _ _ children => sizeAll children + 1
  | .leaf .. => 1
/-- The number of nodes of several trees. -/
def sizeAll : List Outline → Nat
  | [] => 0
  | outline :: rest => outline.size + sizeAll rest
end

/-- The places of the roots of trees that stand one after the other from a place on. -/
def places (place : Nat) : List Outline → List Nat
  | [] => []
  | outline :: rest => place :: places (place + outline.size) rest

mutual
/-- **The nodes of a tree in pre-order**, if its root stands at a place and is a certain child of its
parent. -/
def layout (parent : Option Nat) (index place : Nat) : Outline → List NodeData
  | .inner kind token line column children =>
    ⟨kind, token, line, column, parent, index, (places (place + 1) children).toArray⟩ ::
      layoutAll place 0 (place + 1) children
  | .leaf kind token line column => [⟨kind, some token, line, column, parent, index, #[]⟩]
/-- The nodes of trees that are children of one parent, the first of them a certain one. -/
def layoutAll (parent index place : Nat) : List Outline → List NodeData
  | [] => []
  | outline :: rest =>
    outline.layout (some parent) index place ++ layoutAll parent (index + 1) (place + outline.size) rest
end

mutual
theorem length_layout : ∀ (outline : Outline) (parent : Option Nat) (index place : Nat),
    (outline.layout parent index place).length = outline.size
  | .inner kind token line column children, parent, index, place => by
    rw [layout, List.length_cons, length_layoutAll children, size]
  | .leaf .., _, _, _ => rfl
theorem length_layoutAll : ∀ (outlines : List Outline) (parent index place : Nat),
    (layoutAll parent index place outlines).length = sizeAll outlines
  | [], _, _, _ => rfl
  | outline :: rest, parent, index, place => by
    rw [layoutAll, List.length_append, length_layout outline, length_layoutAll rest, sizeAll]
end

theorem size_pos : ∀ outline : Outline, 0 < outline.size
  | .inner .. => Nat.succ_pos _
  | .leaf .. => Nat.one_pos

/-- **The arena of a tree.** -/
def tree (outline : Outline) : SyntaxTree where
  nodes := (outline.layout none 0 0).toArray
  nonempty := by
    rw [List.size_toArray, length_layout]
    exact outline.size_pos

theorem callsAll_append (first second : List Outline) :
    callsAll (first ++ second) = callsAll first ++ callsAll second := by
  induction first with
  | nil => rfl
  | cons outline rest ih => rw [List.cons_append, callsAll, callsAll, ih, List.append_assoc]

/-! ## Counting -/

mutual
/-- A tree is told with as many nodes as it has. -/
theorem nodeCount_calls : ∀ outline : Outline, nodeCount outline.calls = outline.size
  | .inner kind token line column children => by
    rw [calls, nodeCount_cons_of_some rfl, nodeCount_append, nodeCount_callsAll children]
    rfl
  | .leaf kind token line column => rfl
theorem nodeCount_callsAll : ∀ outlines : List Outline, nodeCount (callsAll outlines) = sizeAll outlines
  | [] => rfl
  | outline :: rest => by
    rw [callsAll, sizeAll, nodeCount_append, nodeCount_calls outline, nodeCount_callsAll rest]
end

mutual
/-- Telling a tree closes as many nodes as it opens. -/
theorem countP_opens_calls : ∀ outline : Outline,
    outline.calls.countP Call.opens = outline.calls.countP Call.closes
  | .inner kind token line column children => by
    have hchildren := countP_opens_callsAll children
    rw [calls, List.countP_cons_of_pos rfl, List.countP_cons_of_neg Bool.false_ne_true,
      List.countP_append, List.countP_append, hchildren]
    rfl
  | .leaf kind token line column => rfl
theorem countP_opens_callsAll : ∀ outlines : List Outline,
    (callsAll outlines).countP Call.opens = (callsAll outlines).countP Call.closes
  | [] => rfl
  | outline :: rest => by
    rw [callsAll, List.countP_append, List.countP_append, countP_opens_calls outline,
      countP_opens_callsAll rest]
end

theorem openCount_calls (outline : Outline) : openCount outline.calls = 0 := by
  unfold openCount
  rw [countP_opens_calls, Nat.sub_self]

theorem nodeCount_calls_ne_zero (outline : Outline) : nodeCount outline.calls ≠ 0 := by
  rw [nodeCount_calls]
  exact Nat.ne_of_gt outline.size_pos

end Outline

/-! ## Telling a tree -/

namespace TreeBuilder

/-- The nodes after some places were added to the children of one of them. -/
def adopt (nodes : Array NodeData) (parent : Option Nat) (ids : List Nat) : Array NodeData :=
  match parent with
  | none => nodes
  | some id => nodes.modify id fun data => { data with children := data.children ++ ids.toArray }

section Adopt

variable {nodes : Array NodeData}

theorem getElem?_adopt (nodes : Array NodeData) (parent : Option Nat) (ids : List Nat) (id : Nat) :
    (adopt nodes parent ids)[id]? = nodes[id]?.map fun data =>
      if parent = some id then { data with children := data.children ++ ids.toArray } else data := by
  unfold adopt
  cases parent with
  | none => simp
  | some parent =>
    simp only [Array.getElem?_modify, Option.some.injEq]
    by_cases hparent : parent = id
    · simp only [if_pos hparent]
    · simp only [if_neg hparent, Option.map_id']

@[simp] theorem size_adopt (nodes : Array NodeData) (parent : Option Nat) (ids : List Nat) :
    (adopt nodes parent ids).size = nodes.size := by
  unfold adopt
  cases parent with
  | none => rfl
  | some parent => exact Array.size_modify

theorem adopt_nil (nodes : Array NodeData) (parent : Option Nat) : adopt nodes parent [] = nodes := by
  refine Array.ext_getElem? fun id => ?_
  rw [getElem?_adopt]
  simp

/-- Children that are added in two goes. -/
theorem adopt_adopt (nodes : Array NodeData) (parent : Option Nat) (first second : List Nat) :
    adopt (adopt nodes parent first) parent second = adopt nodes parent (first ++ second) := by
  refine Array.ext_getElem? fun id => ?_
  rw [getElem?_adopt, getElem?_adopt, getElem?_adopt, Option.map_map]
  refine Option.map_congr fun data _ => ?_
  simp only [Function.comp_apply]
  split
  · simp
  · rfl

/-- Nodes behind the parent do not notice. -/
theorem adopt_append {parent : Nat} (hparent : parent < nodes.size) (added : Array NodeData)
    (ids : List Nat) : adopt (nodes ++ added) (some parent) ids = adopt nodes (some parent) ids ++ added := by
  refine Array.ext_getElem? fun id => ?_
  rw [getElem?_adopt, Array.getElem?_append, Array.getElem?_append, size_adopt, getElem?_adopt]
  by_cases hid : id < nodes.size
  · rw [if_pos hid, if_pos hid]
  · have hne : some parent ≠ some id := fun heq => hid (Option.some.inj heq ▸ hparent)
    rw [if_neg hid, if_neg hid]
    simp [hne]

/-- Children of the last node. -/
theorem adopt_push (nodes : Array NodeData) (data : NodeData) (ids : List Nat) :
    adopt (nodes.push data) (some nodes.size) ids =
      nodes.push { data with children := data.children ++ ids.toArray } := by
  refine Array.ext_getElem? fun id => ?_
  rw [getElem?_adopt, Array.getElem?_push, Array.getElem?_push]
  by_cases hid : id = nodes.size
  · simp [hid]
  · have hne : some nodes.size ≠ some id := fun heq => hid (Option.some.inj heq).symm
    simp [hid, hne]

/-- **Adding a node** puts it behind the others and among the children of the innermost open node. -/
theorem append_eq_adopt (builder : TreeBuilder) (kind : NodeKind) (token : Option String)
    (line column : Nat) :
    builder.append kind token line column =
      (adopt builder.nodes builder.openNodes.head? [builder.nodes.size]).push
        ⟨kind, token, line, column, builder.openNodes.head?, builder.nextIndex, #[]⟩ := by
  refine Array.ext_getElem? fun id => ?_
  rw [getElem?_append, Array.getElem?_push, size_adopt, getElem?_adopt]
  simp

/-- A node that got more children expects the next one behind them. -/
theorem nextIndex_adopt {builder : TreeBuilder} {parent : Nat}
    (hhead : builder.openNodes.head? = some parent) (hparent : parent < builder.nodes.size)
    (ids : List Nat) (added : Array NodeData) :
    nextIndex ⟨adopt builder.nodes (some parent) ids ++ added, builder.openNodes, none⟩ =
      builder.nextIndex + ids.length := by
  have hsize : parent < (adopt builder.nodes (some parent) ids).size := by
    rw [size_adopt]
    exact hparent
  unfold nextIndex
  simp only [hhead]
  rw [Array.getElem?_append_left hsize, getElem?_adopt, Array.getElem?_eq_getElem hparent]
  simp

end Adopt

/-- **A builder that is ready for calls**: it has no note, its innermost open node is there, and neither a
line of zero nor a node too many is ahead. -/
structure Ready (builder : TreeBuilder) (calls : List Call) : Prop where
  error_eq : builder.error = none
  innermost_lt : ∀ parent, builder.openNodes.head? = some parent → parent < builder.nodes.size
  lines_ne : ∀ line ∈ calls.filterMap Call.line?, line ≠ 0
  room : builder.nodes.size + nodeCount calls ≤ maxNodes

section Ready

variable {builder after : TreeBuilder} {first second : List Call}

/-- A builder that is ready for calls is ready for the first of them. -/
theorem Ready.left (h : Ready builder (first ++ second)) : Ready builder first where
  error_eq := h.error_eq
  innermost_lt := h.innermost_lt
  lines_ne := by
    intro line hmem
    refine h.lines_ne line ?_
    rw [List.filterMap_append]
    exact List.mem_append_left _ hmem
  room := by
    have hroom := h.room
    rw [nodeCount_append] at hroom
    omega

/-- A builder that was told the first of the calls for which it was ready is ready for the others. -/
theorem Ready.right (h : Ready builder (first ++ second)) (herror : after.error = none)
    (hopen : ∀ parent, after.openNodes.head? = some parent → parent < after.nodes.size)
    (hsize : after.nodes.size = builder.nodes.size + nodeCount first) : Ready after second where
  error_eq := herror
  innermost_lt := hopen
  lines_ne := by
    intro line hmem
    refine h.lines_ne line ?_
    rw [List.filterMap_append]
    exact List.mem_append_right _ hmem
  room := by
    have hroom := h.room
    rw [nodeCount_append] at hroom
    omega

/-- A builder that is ready for a node refuses it at most as a second root. -/
theorem Ready.refusal?_eq_none {call : Call} (h : Ready builder (call :: second)) {line : Nat}
    (hline : call.line? = some line) (hroot : builder.openNodes = [] → builder.nodes.size = 0)
    (kind : NodeKind) : builder.refusal? kind line = none := by
  have hroom := h.room
  rw [nodeCount_cons_of_some hline] at hroom
  refine TreeBuilder.refusal?_eq_none.mpr ⟨h.lines_ne line ?_, hroot, by omega⟩
  rw [List.filterMap_cons_some hline]
  exact List.mem_cons_self

/-- Opening a node for which a builder is ready. -/
theorem Ready.openNode {kind : NodeKind} {token : Option String} {line column : Nat}
    (h : Ready builder (.openNode kind token line column :: second))
    (hroot : builder.openNodes = [] → builder.nodes.size = 0) :
    builder.openNode kind token line column =
        ⟨builder.append kind token line column, builder.nodes.size :: builder.openNodes, none⟩ ∧
      Ready (builder.openNode kind token line column) second := by
  have hopened : builder.openNode kind token line column =
      ⟨builder.append kind token line column, builder.nodes.size :: builder.openNodes, none⟩ :=
    openNode_eq h.error_eq (h.refusal?_eq_none rfl hroot kind)
  refine ⟨hopened, ?_⟩
  rw [← List.singleton_append] at h
  rw [hopened]
  refine h.right rfl ?_ size_append
  rintro parent ⟨⟩
  rw [size_append]
  exact Nat.lt_succ_self _

end Ready

end TreeBuilder

namespace Outline

mutual
/-- **Telling a tree** puts its nodes behind the others and its root among the children of the innermost
open node, and leaves the same nodes open. -/
theorem foldl_calls : ∀ (outline : Outline) {builder : TreeBuilder}, Ready builder outline.calls →
    (builder.openNodes = [] → builder.nodes.size = 0) →
    outline.calls.foldl tell builder =
      ⟨adopt builder.nodes builder.openNodes.head? [builder.nodes.size] ++
          (outline.layout builder.openNodes.head? builder.nextIndex builder.nodes.size).toArray,
        builder.openNodes, none⟩
  | .inner kind token line column children, builder, h, hroot => by
    obtain ⟨hopened, hready⟩ := h.openNode hroot
    have hindex : (builder.openNode kind token line column).nextIndex = 0 := by
      unfold nextIndex
      rw [hopened]
      simp [getElem?_append]
    -- the children are told to the node that was just opened; what is left is to close it
    have hchildren := foldl_callsAll children hready.left (by rw [hopened]; rfl)
    rw [hindex] at hchildren
    rw [calls, List.foldl_cons, List.foldl_append]
    show TreeBuilder.close ((callsAll children).foldl tell (builder.openNode kind token line column)) = _
    rw [hchildren, hopened]
    simp only [TreeBuilder.close, append_eq_adopt, layout, Array.size_push, size_adopt]
    have hlast := adopt_push (adopt builder.nodes builder.openNodes.head? [builder.nodes.size])
      ⟨kind, token, line, column, builder.openNodes.head?, builder.nextIndex, #[]⟩
      (places (builder.nodes.size + 1) children)
    rw [size_adopt] at hlast
    rw [hlast]
    simp
  | .leaf kind token line column, builder, h, hroot => by
    have hrefusal : builder.refusal? kind line = none := h.refusal?_eq_none rfl hroot kind
    show builder.leaf kind token line column = _
    rw [leaf_eq h.error_eq hrefusal, append_eq_adopt]
    rfl
/-- Telling children of the innermost open node. -/
theorem foldl_callsAll : ∀ (outlines : List Outline) {builder : TreeBuilder} {parent : Nat},
    Ready builder (callsAll outlines) → builder.openNodes.head? = some parent →
    (callsAll outlines).foldl tell builder =
      ⟨adopt builder.nodes (some parent) (places builder.nodes.size outlines) ++
          (layoutAll parent builder.nextIndex builder.nodes.size outlines).toArray,
        builder.openNodes, none⟩
  | [], builder, parent, h, hhead => by
    rw [callsAll, places, layoutAll, adopt_nil, ← h.error_eq]
    simp
  | outline :: rest, builder, parent, h, hhead => by
    have hparent : parent < builder.nodes.size := h.innermost_lt parent hhead
    -- a node is open, so the tree is no second root
    have hfirst := foldl_calls outline h.left fun hopen => by
      rw [hopen] at hhead
      cases hhead
    rw [hhead] at hfirst
    have hsize : (outline.calls.foldl tell builder).nodes.size = builder.nodes.size + outline.size := by
      rw [hfirst]
      simp [length_layout]
    have hindex : (outline.calls.foldl tell builder).nextIndex = builder.nextIndex + 1 := by
      rw [hfirst]
      exact nextIndex_adopt hhead hparent _ _
    have hready : Ready (outline.calls.foldl tell builder) (callsAll rest) := by
      refine h.right ?_ ?_ ?_
      · rw [hfirst]
      · intro inner hinner
        have hlt : inner < builder.nodes.size := h.innermost_lt inner (by rw [← hinner, hfirst])
        rw [hsize]
        exact Nat.lt_add_right _ hlt
      · rw [hsize, nodeCount_calls]
    have hinnermost : (outline.calls.foldl tell builder).openNodes.head? = some parent := by
      rw [hfirst]
      exact hhead
    rw [callsAll, List.foldl_append, foldl_callsAll rest hready hinnermost, hindex, hsize, hfirst]
    dsimp only
    rw [adopt_append (by rw [size_adopt]; exact hparent), adopt_adopt, layoutAll, places]
    simp
end

/-- **A tree that is told to a new builder is answered.** -/
theorem finish_told_calls (outline : Outline)
    (hlines : ∀ line ∈ outline.calls.filterMap Call.line?, line ≠ 0)
    (hroom : nodeCount outline.calls ≤ maxNodes) :
    (told outline.calls).finish.1 = .ok outline.tree := by
  have hready : Ready TreeBuilder.empty outline.calls := by
    refine ⟨rfl, fun parent hhead => ?_, hlines, ?_⟩
    · cases hhead
    · show 0 + _ ≤ _
      rw [Nat.zero_add]
      exact hroom
  have htold := outline.foldl_calls hready fun _ => rfl
  refine finish_eq_ok_iff.mpr ?_
  unfold told
  rw [htold]
  exact ⟨rfl, rfl, Array.empty_append⟩

end Outline

/-! ## Reading calls back -/

/-- An open node with those of its children that are complete. -/
structure Frame where
  kind : NodeKind
  token : Option String
  line : Nat
  column : Nat
  children : List Outline

namespace Frame

/-- The calls that tell an open node and its complete children. -/
def calls (frame : Frame) : List Call :=
  .openNode frame.kind frame.token frame.line frame.column :: Outline.callsAll frame.children

/-- The calls that tell open nodes, innermost first. -/
def callsAll (frames : List Frame) : List Call :=
  frames.reverse.flatMap Frame.calls

/-- The tree of an open node when it is closed. -/
def closed (frame : Frame) : Outline :=
  .inner frame.kind frame.token frame.line frame.column frame.children

/-- An open node with one more complete child. -/
def adopt (frame : Frame) (child : Outline) : Frame :=
  { frame with children := frame.children ++ [child] }

theorem callsAll_cons (frame : Frame) (frames : List Frame) :
    callsAll (frame :: frames) = callsAll frames ++ frame.calls := by
  unfold callsAll
  rw [List.reverse_cons, List.flatMap_append, List.flatMap_singleton]

theorem calls_closed (frame : Frame) : frame.closed.calls = frame.calls ++ [.close] := by
  unfold closed calls
  rw [Outline.calls, List.cons_append]

theorem calls_adopt (frame : Frame) (child : Outline) :
    (frame.adopt child).calls = frame.calls ++ child.calls := by
  unfold adopt calls
  rw [Outline.callsAll_append, List.cons_append, Outline.callsAll, Outline.callsAll, List.append_nil]

/-- Open nodes leave one more node open each. -/
theorem openCount_callsAll (frames : List Frame) : openCount (callsAll frames) = frames.length := by
  have hbalance : (callsAll frames).countP Call.opens =
      (callsAll frames).countP Call.closes + frames.length := by
    induction frames with
    | nil => rfl
    | cons frame frames ih =>
      have hchildren := Outline.countP_opens_callsAll frame.children
      have hopens : frame.calls.countP Call.opens = frame.calls.countP Call.closes + 1 := by
        unfold calls
        rw [List.countP_cons_of_pos rfl, List.countP_cons_of_neg Bool.false_ne_true, hchildren]
      rw [callsAll_cons, List.countP_append, List.countP_append, ih, hopens, List.length_cons]
      omega
  unfold openCount
  rw [hbalance, Nat.add_sub_cancel_left]

end Frame

namespace TreeBuilder

variable {calls : List Call}

/-- **Calls that tell a tree or the beginning of one.** -/
inductive Spells (calls : List Call) : Prop
  | whole (outline : Outline) : calls = outline.calls → Spells calls
  | part (frames : List Frame) : calls = Frame.callsAll frames → Spells calls

/-- When a tree is told next, it is the whole or it becomes a child of the innermost open node. -/
theorem spells_append_calls (frames : List Frame) (outline : Outline) :
    Spells (Frame.callsAll frames ++ outline.calls) := by
  cases frames with
  | nil => exact .whole outline rfl
  | cons frame frames =>
    refine .part (frame.adopt outline :: frames) ?_
    rw [Frame.callsAll_cons, Frame.callsAll_cons, Frame.calls_adopt, List.append_assoc]

/-- Something is wrong with every call behind a whole tree. -/
theorem offence?_calls_ne_none (outline : Outline) (call : Call) : offence? outline.calls call ≠ none := by
  have hopen := outline.openCount_calls
  have hnode : ∀ (kind : NodeKind) (line : Nat), nodeOffence? outline.calls kind line ≠ none := by
    intro kind line hnone
    exact outline.nodeCount_calls_ne_zero ((nodeOffence?_eq_none.mp hnone).2.1 hopen)
  cases call with
  | openNode kind token line column => exact hnode kind line
  | leaf kind token line column => exact hnode kind line
  | close =>
    unfold offence?
    rw [if_pos hopen]
    exact Option.some_ne_none _

/-- **One call** with which nothing is wrong goes on with the beginning of a tree. -/
theorem Spells.concat (h : Spells calls) {call : Call} (hcall : offence? calls call = none) :
    Spells (calls ++ [call]) := by
  cases h with
  | whole outline heq =>
    rw [heq] at hcall
    exact absurd hcall (offence?_calls_ne_none outline call)
  | part frames heq =>
    subst heq
    cases call with
    | openNode kind token line column =>
      refine .part (⟨kind, token, line, column, []⟩ :: frames) ?_
      rw [Frame.callsAll_cons]
      rfl
    | leaf kind token line column => exact spells_append_calls frames (.leaf kind token line column)
    | close =>
      cases frames with
      | nil => cases hcall
      | cons frame frames =>
        rw [Frame.callsAll_cons, List.append_assoc, ← Frame.calls_closed]
        exact spells_append_calls frames frame.closed

/-- **All calls.** Calls with which nothing is wrong tell a tree or the beginning of one. -/
theorem spells_of_inoffensive (h : Inoffensive offence? calls) : Spells calls := by
  induction calls using List.reverseRecOn with
  | nil => exact .part [] rfl
  | append_singleton calls call ih =>
    obtain ⟨hcalls, hcall⟩ := inoffensive_concat.mp h
    exact (ih hcalls).concat hcall

/-- If nothing is wrong with calls and they leave nothing open, they tell a tree. -/
theorem exists_outline (h : Inoffensive offence? calls) (hnodes : nodeCount calls ≠ 0)
    (hopen : openCount calls = 0) : ∃ outline : Outline, outline.calls = calls := by
  cases spells_of_inoffensive h with
  | whole outline heq => exact ⟨outline, heq.symm⟩
  | part frames heq =>
    rw [heq, Frame.openCount_callsAll, List.length_eq_zero_iff] at hopen
    rw [heq, hopen] at hnodes
    exact absurd rfl hnodes

/-- A call with which nothing is wrong adds no line of zero and no node too many. -/
theorem bounds_of_offence? {call : Call} {line : Nat} (hcall : offence? calls call = none)
    (hline : call.line? = some line) : line ≠ 0 ∧ nodeCount calls < maxNodes := by
  cases call with
  | openNode kind token line column =>
    cases hline
    obtain ⟨hpos, _, hroom⟩ := nodeOffence?_eq_none.mp hcall
    exact ⟨hpos, hroom⟩
  | leaf kind token line column =>
    cases hline
    obtain ⟨hpos, _, hroom⟩ := nodeOffence?_eq_none.mp hcall
    exact ⟨hpos, hroom⟩
  | close => cases hline

/-- Calls with which nothing is wrong have no line of zero and not too many nodes. -/
theorem bounds_of_inoffensive (h : Inoffensive offence? calls) :
    (∀ line ∈ calls.filterMap Call.line?, line ≠ 0) ∧ nodeCount calls ≤ maxNodes := by
  induction calls using List.reverseRecOn with
  | nil =>
    refine ⟨fun line hmem => ?_, Nat.zero_le _⟩
    cases hmem
  | append_singleton calls call ih =>
    obtain ⟨hcalls, hcall⟩ := inoffensive_concat.mp h
    obtain ⟨hlines, hcount⟩ := ih hcalls
    rw [List.filterMap_append, nodeCount_append]
    cases hline : call.line? with
    | none =>
      rw [List.filterMap_cons_none hline, List.filterMap_nil, List.append_nil,
        nodeCount_cons_of_none hline]
      exact ⟨hlines, hcount⟩
    | some line =>
      obtain ⟨hpos, hroom⟩ := bounds_of_offence? hcall hline
      rw [List.filterMap_cons_some hline, nodeCount_cons_of_some hline]
      refine ⟨fun other hmem => ?_, hroom⟩
      rcases List.mem_append.mp hmem with hmem | hmem
      · exact hlines other hmem
      · rw [List.mem_singleton.mp hmem]
        exact hpos

/-- Calls that are answered with a tree tell one. -/
theorem exists_outline_of_finish {tree : SyntaxTree} (h : (told calls).finish.1 = .ok tree) :
    ∃ outline : Outline, outline.calls = calls ∧ (∀ line ∈ calls.filterMap Call.line?, line ≠ 0) ∧
      nodeCount calls ≤ maxNodes := by
  obtain ⟨herror, hopen, hnodes⟩ := finish_eq_ok_iff.mp h
  have hcalls : Inoffensive offence? calls := error_told_eq_none_iff.mp herror
  have hkeeps := keepsUp_told hcalls
  have hsome : nodeCount calls ≠ 0 := by
    rw [← hkeeps.size_eq, hnodes]
    exact Nat.ne_of_gt tree.nonempty
  have hclosed : openCount calls = 0 := by
    rw [← hkeeps.length_eq, hopen]
    rfl
  obtain ⟨outline, hspelled⟩ := exists_outline hcalls hsome hclosed
  exact ⟨outline, hspelled, bounds_of_inoffensive hcalls⟩

/-! ## The law -/

/-- **A builder accepts exactly the trees that are told to it call by call.** It answers a tree if the calls
tell one, with lines from one on and not too many nodes, and the answer is the arena of that tree. Otherwise
it answers the first thing that is wrong, or, if nothing is, that there is no node or how many are open. -/
theorem finish_exact (calls : List Call) :
    (∀ tree : SyntaxTree, (told calls).finish.1 = .ok tree ↔
      ∃ outline : Outline, outline.calls = calls ∧ outline.tree = tree ∧
        (∀ line ∈ calls.filterMap Call.line?, 1 ≤ line) ∧ nodeCount calls ≤ maxNodes) ∧
    ∀ error : TreeError, (told calls).finish.1 = .error error ↔
      FirstOffence offence? calls error ∨ Inoffensive offence? calls ∧
        (nodeCount calls = 0 ∧ error = .empty ∨ nodeCount calls ≠ 0 ∧ openCount calls ≠ 0 ∧
          error = .unclosed (openCount calls)) := by
  refine ⟨fun tree => ?_, fun error => finish_told_eq_error_iff⟩
  simp only [Nat.one_le_iff_ne_zero]
  constructor
  · intro h
    obtain ⟨outline, rfl, hlines, hroom⟩ := exists_outline_of_finish h
    rw [outline.finish_told_calls hlines hroom] at h
    exact ⟨outline, rfl, Except.ok.inj h, hlines, hroom⟩
  · rintro ⟨outline, rfl, rfl, hlines, hroom⟩
    exact outline.finish_told_calls hlines hroom

/-- A node with a child that has a child, and with a second child. -/
example :
    let outline : Outline :=
      .inner .block none 1 1 [.inner .statement none 2 3 [.leaf .octal "017" 2 7], .leaf .identifier "x" 3 3]
    outline.calls = [.openNode .block none 1 1, .openNode .statement none 2 3, .leaf .octal "017" 2 7,
      .close, .leaf .identifier "x" 3 3, .close] ∧
    outline.tree.nodes = #[⟨.block, none, 1, 1, none, 0, #[1, 3]⟩, ⟨.statement, none, 2, 3, some 0, 0, #[2]⟩,
      ⟨.octal, some "017", 2, 7, some 1, 0, #[]⟩, ⟨.identifier, some "x", 3, 3, some 0, 1, #[]⟩] :=
  ⟨rfl, rfl⟩

end TreeBuilder

end TreeLint
