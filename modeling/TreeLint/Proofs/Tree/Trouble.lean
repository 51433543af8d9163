import Mathlib.Data.List.Induction
import TreeLint.Proofs.Tree.Construction

/-!
# What a builder takes exception to

A builder that is told something wrong makes a note of it and goes on, and when it is asked for the tree
it answers with the first note. What is wrong about a call can be told from the calls before it, by counting
(`TreeBuilder.offence?`): closing with nothing open, a node of line zero, a node beside a complete tree, a
node too many. The error that is answered is the first thing that is wrong, or, if nothing is, that no node
was added or that some are open (`TreeBuilder.finish_told_eq_error_iff`).

Once there is a note the state no longer follows what it is told, since a builder refuses nodes and still
closes them. So the state is described only as long as there is none, and after that only the note is.
That this suffices holds of every machine that takes items one by one and lets its first note stand
(`NotesFirst`), and is shown once for all of them.

Which trees a builder answers is the subject of `TreeLint.Proofs.Tree.Linearization`.
-/

namespace TreeLint

/-! ## The first offence -/

section Offences

variable {Item Note State : Type} (offence? : List Item → Item → Option Note)

/-- Items with which nothing is wrong, each after those before it. -/
def Inoffensive (items : List Item) : Prop :=
  ∀ earlier item later, items = earlier ++ item :: later → offence? earlier item = none

/-- **The first item with which something is wrong**, and what it is. -/
def FirstOffence (items : List Item) (note : Note) : Prop :=
  ∃ earlier item later, items = earlier ++ item :: later ∧ Inoffensive offence? earlier ∧
    offence? earlier item = some note

/-- **A machine that notes the first offence.** As long as nothing is wrong its states keep a relation to
the items, and a note stands. -/
structure NotesFirst (step : State → Item → State) (note? : State → Option Note)
    (Keeps : List Item → State → Prop) : Prop where
  note?_eq : ∀ {done state}, Keeps done state → note? state = none
  keeps : ∀ {done state item}, Keeps done state → offence? done item = none →
    Keeps (done ++ [item]) (step state item)
  notes : ∀ {done state item note}, Keeps done state → offence? done item = some note →
    note? (step state item) = some note
  stands : ∀ {state item note}, note? state = some note → note? (step state item) = some note

variable {offence?}

theorem inoffensive_nil : Inoffensive offence? [] := by
  intro earlier item later h
  simp at h

theorem inoffensive_concat {items : List Item} {item : Item} :
    Inoffensive offence? (items ++ [item]) ↔
      Inoffensive offence? items ∧ offence? items item = none := by
  constructor
  · intro h
    refine ⟨fun earlier other later heq => ?_, h items item [] rfl⟩
    refine h earlier other (later ++ [item]) ?_
    rw [heq, List.append_assoc]
    rfl
  · rintro ⟨hitems, hitem⟩ earlier other later heq
    rcases List.eq_nil_or_concat later with rfl | ⟨rest, last, rfl⟩
    · obtain ⟨rfl, hother⟩ := List.append_inj' heq rfl
      cases hother
      exact hitem
    · rw [List.concat_eq_append, ← List.cons_append, ← List.append_assoc] at heq
      obtain ⟨rfl, _⟩ := List.append_inj' heq rfl
      exact hitems earlier other rest rfl

/-- Either nothing is wrong with items, or there is a first one with which something is. -/
theorem inoffensive_or_firstOffence (items : List Item) :
    Inoffensive offence? items ∨ ∃ note, FirstOffence offence? items note := by
  induction items using List.reverseRecOn with
  | nil => exact .inl inoffensive_nil
  | append_singleton items item ih =>
    rcases ih with hitems | ⟨note, earlier, other, later, rfl, hearlier, hother⟩
    · cases hitem : offence? items item with
      | none => exact .inl (inoffensive_concat.mpr ⟨hitems, hitem⟩)
      | some note => exact .inr ⟨note, items, item, [], rfl, hitems, hitem⟩
    · refine .inr ⟨note, earlier, other, later ++ [item], ?_, hearlier, hother⟩
      rw [List.append_assoc]
      rfl

namespace NotesFirst

variable {step : State → Item → State} {note? : State → Option Note} {Keeps : List Item → State → Prop}
  {start : State} {items : List Item}

/-- **A run without offence** keeps the relation. -/
theorem keeps_foldl (h : NotesFirst offence? step note? Keeps) (hstart : Keeps [] start)
    (hitems : Inoffensive offence? items) : Keeps items (items.foldl step start) := by
  induction items using List.reverseRecOn with
  | nil => exact hstart
  | append_singleton items item ih =>
    obtain ⟨hitems, hitem⟩ := inoffensive_concat.mp hitems
    rw [List.foldl_append]
    exact h.keeps (ih hitems) hitem

theorem stands_foldl (h : NotesFirst offence? step note? Keeps) {note : Note} :
    ∀ (items : List Item) {state : State}, note? state = some note →
      note? (items.foldl step state) = some note
  | [], _, hnote => hnote
  | _ :: rest, _, hnote => h.stands_foldl rest (h.stands hnote)

/-- **A run with an offence** ends with the note of the first. -/
theorem note?_foldl (h : NotesFirst offence? step note? Keeps) (hstart : Keeps [] start) {note : Note}
    (hitems : FirstOffence offence? items note) : note? (items.foldl step start) = some note := by
  obtain ⟨earlier, item, later, rfl, hearlier, hitem⟩ := hitems
  rw [List.foldl_append, List.foldl_cons]
  exact h.stands_foldl later (h.notes (h.keeps_foldl hstart hearlier) hitem)

theorem note?_foldl_eq_some_iff (h : NotesFirst offence? step note? Keeps) (hstart : Keeps [] start)
    {note : Note} :
    note? (items.foldl step start) = some note ↔ FirstOffence offence? items note := by
  constructor
  · intro hnote
    rcases inoffensive_or_firstOffence items with hitems | ⟨first, hfirst⟩
    · rw [h.note?_eq (h.keeps_foldl hstart hitems)] at hnote
      cases hnote
    · rw [h.note?_foldl hstart hfirst] at hnote
      cases hnote
      exact hfirst
  · exact h.note?_foldl hstart

theorem note?_foldl_eq_none_iff (h : NotesFirst offence? step note? Keeps) (hstart : Keeps [] start) :
    note? (items.foldl step start) = none ↔ Inoffensive offence? items := by
  constructor
  · intro hnote
    rcases inoffensive_or_firstOffence items with hitems | ⟨first, hfirst⟩
    · exact hitems
    · rw [h.note?_foldl hstart hfirst] at hnote
      cases hnote
  · exact fun hitems => h.note?_eq (h.keeps_foldl hstart hitems)

end NotesFirst

end Offences

namespace TreeBuilder

variable {builder : TreeBuilder}

/-! ## Notes -/

/-- A node that is not refused is added and left open. -/
theorem openNode_eq {kind : NodeKind} {token : Option String} {line column : Nat}
    (herror : builder.error = none) (hrefusal : builder.refusal? kind line = none) :
    builder.openNode kind token line column =
      ⟨builder.append kind token line column, builder.nodes.size :: builder.openNodes, none⟩ := by
  unfold openNode add
  simp only [herror, hrefusal]

/-- A leaf that is not refused is added. -/
theorem leaf_eq {kind : NodeKind} {token : String} {line column : Nat}
    (herror : builder.error = none) (hrefusal : builder.refusal? kind line = none) :
    builder.leaf kind token line column =
      ⟨builder.append kind (some token) line column, builder.openNodes, none⟩ := by
  unfold leaf add
  simp only [herror, hrefusal]

/-- A node that is refused is noted, whether it was to be left open or not. -/
theorem error_of_refusal? {kind : NodeKind} {line : Nat} {error : TreeError}
    (herror : builder.error = none) (hrefusal : builder.refusal? kind line = some error)
    (token : Option String) (column : Nat) :
    (builder.openNode kind token line column).error = some error ∧
      (builder.add kind token line column).1.error = some error := by
  unfold openNode add
  simp only [herror, hrefusal, fail, and_self]

/-- A node that is opened without trouble was not refused. -/
theorem refusal?_of_openNode {kind : NodeKind} {token : Option String} {line column : Nat}
    (h : (builder.openNode kind token line column).error = none) :
    builder.error = none ∧ builder.refusal? kind line = none := by
  cases herror : builder.error with
  | some error =>
    unfold openNode add at h
    simp only [herror, reduceCtorEq] at h
  | none =>
    cases hrefusal : builder.refusal? kind line with
    | some error =>
      rw [(error_of_refusal? herror hrefusal token column).1] at h
      cases h
    | none => exact ⟨rfl, rfl⟩

/-- **The first note stands** until the tree is asked for. -/
theorem error_tell_eq {error : TreeError} (h : builder.error = some error) (call : Call) :
    (builder.tell call).error = some error := by
  cases call with
  | openNode kind token line column =>
    show (builder.openNode kind token line column).error = _
    unfold openNode add
    simp only [h]
  | leaf kind token line column =>
    show (builder.leaf kind token line column).error = _
    unfold leaf add
    simp only [h]
  | close =>
    show builder.close.error = _
    unfold close
    split
    · unfold fail
      rw [h]
      exact h
    · exact h

/-- Trouble stays on record until the tree is asked for. -/
theorem error_tell (h : builder.error ≠ none) (call : Call) : (builder.tell call).error ≠ none := by
  obtain ⟨error, herror⟩ := Option.ne_none_iff_exists'.mp h
  rw [error_tell_eq herror call]
  exact Option.some_ne_none error

/-! ## Answers -/

/-- **When a builder answers a tree**: no trouble is on record and nothing is open, and the tree has the
nodes of the builder. -/
theorem finish_eq_ok_iff {tree : SyntaxTree} :
    builder.finish.1 = .ok tree ↔
      builder.error = none ∧ builder.openNodes = [] ∧ builder.nodes = tree.nodes := by
  unfold finish
  constructor
  · intro h
    split at h
    · cases h
    · next herror =>
      split at h
      · split at h
        · next hopen =>
          cases h
          exact ⟨herror, hopen, rfl⟩
        · cases h
      · cases h
  · rintro ⟨herror, hopen, hnodes⟩
    obtain ⟨nodes, nonempty⟩ := tree
    cases hnodes
    simp only [herror, hopen]
    rw [dif_pos nonempty]

/-- **When a builder answers an error**: it is the one on record, or there is none and no node was added
or some are open. -/
theorem finish_eq_error_iff {error : TreeError} :
    builder.finish.1 = .error error ↔ builder.error = some error ∨ builder.error = none ∧
      (builder.nodes.size = 0 ∧ error = .empty ∨ builder.nodes.size ≠ 0 ∧
        builder.openNodes.length ≠ 0 ∧ error = .unclosed builder.openNodes.length) := by
  unfold finish
  cases builder.error with
  | some noted => simp
  | none =>
    by_cases hsize : builder.nodes.size = 0
    · simp [hsize, eq_comm]
    · have hpos : 0 < builder.nodes.size := Nat.pos_of_ne_zero hsize
      cases hopen : builder.openNodes with
      | nil => simp [hsize, hpos]
      | cons inner outer => simp [hsize, hpos, eq_comm]

/-! ## Counting calls -/

/-- Whether a call leaves a node open. -/
def Call.opens : Call → Bool
  | .openNode .. => true
  | _ => false

/-- Whether a call closes a node. -/
def Call.closes : Call → Bool
  | .close => true
  | _ => false

/-- The line of the node that a call adds. -/
def Call.line? : Call → Option Nat
  | .openNode _ _ line _ => some line
  | .leaf _ _ line _ => some line
  | .close => none

/-- The number of nodes that calls add. -/
def nodeCount (calls : List Call) : Nat :=
  calls.countP fun call => call.line?.isSome

/-- The number of nodes that calls leave open, if each that they close was open. -/
def openCount (calls : List Call) : Nat :=
  calls.countP Call.opens - calls.countP Call.closes

theorem nodeCount_append (first second : List Call) :
    nodeCount (first ++ second) = nodeCount first + nodeCount second :=
  List.countP_append ..

theorem nodeCount_cons_of_some {call : Call} {line : Nat} (h : call.line? = some line)
    (calls : List Call) : nodeCount (call :: calls) = nodeCount calls + 1 := by
  unfold nodeCount
  rw [List.countP_cons_of_pos]
  rw [h]
  rfl

theorem nodeCount_cons_of_none {call : Call} (h : call.line? = none) (calls : List Call) :
    nodeCount (call :: calls) = nodeCount calls := by
  unfold nodeCount
  rw [List.countP_cons_of_neg]
  rw [h]
  exact Bool.false_ne_true

/-- What is wrong about adding a node after some calls. A line of zero comes before a second root. -/
def nodeOffence? (earlier : List Call) (kind : NodeKind) (line : Nat) : Option TreeError :=
  if line = 0 then some (.zeroLine kind)
  else if openCount earlier = 0 ∧ nodeCount earlier ≠ 0 then some (.multipleRoots kind line)
  else if maxNodes ≤ nodeCount earlier then some .tooLarge
  else none

/-- **What is wrong about a call** after some calls with which nothing was wrong. -/
def offence? (earlier : List Call) : Call → Option TreeError
  | .openNode kind _ line _ => nodeOffence? earlier kind line
  | .leaf kind _ line _ => nodeOffence? earlier kind line
  | .close => if openCount earlier = 0 then some .unbalancedClose else none

theorem nodeOffence?_eq_none {earlier : List Call} {kind : NodeKind} {line : Nat} :
    nodeOffence? earlier kind line = none ↔
      line ≠ 0 ∧ (openCount earlier = 0 → nodeCount earlier = 0) ∧ nodeCount earlier < maxNodes := by
  unfold nodeOffence?
  split_ifs with hline hroot hroom
  · simp [hline]
  · simp [hroot.1, hroot.2]
  · simp [hroom]
  · simp only [true_iff]
    refine ⟨hline, fun hopen => ?_, Nat.lt_of_not_le hroom⟩
    by_contra hnodes
    exact hroot ⟨hopen, hnodes⟩

/-! ## Keeping up -/

/-- **A builder that keeps up with calls**: it has no note, and its counts are those of the calls. -/
structure KeepsUp (calls : List Call) (builder : TreeBuilder) : Prop where
  error_eq : builder.error = none
  size_eq : builder.nodes.size = nodeCount calls
  balance_eq : builder.openNodes.length + calls.countP Call.closes = calls.countP Call.opens

variable {calls : List Call}

theorem KeepsUp.length_eq (h : KeepsUp calls builder) : builder.openNodes.length = openCount calls := by
  have := h.balance_eq
  unfold openCount
  omega

/-- What is wrong about adding a node is why a builder that keeps up refuses it. -/
theorem KeepsUp.refusal?_eq (h : KeepsUp calls builder) (kind : NodeKind) (line : Nat) :
    builder.refusal? kind line = nodeOffence? calls kind line := by
  unfold refusal? nodeOffence?
  rw [← h.length_eq, ← h.size_eq]
  simp only [List.length_eq_zero_iff]

/-- **One call.** A builder keeps up with a call if nothing is wrong with it, and notes what is wrong if
something is. -/
theorem KeepsUp.tell (h : KeepsUp calls builder) (call : Call) :
    (offence? calls call = none → KeepsUp (calls ++ [call]) (builder.tell call)) ∧
      ∀ error, offence? calls call = some error → (builder.tell call).error = some error := by
  have hbalance := h.balance_eq
  cases call with
  | openNode kind token line column =>
    have hrefusal : builder.refusal? kind line =
        offence? calls (.openNode kind token line column) := h.refusal?_eq kind line
    rw [← hrefusal]
    refine ⟨fun hnone => ?_, fun error hsome => (error_of_refusal? h.error_eq hsome token column).1⟩
    show KeepsUp _ (builder.openNode kind token line column)
    rw [openNode_eq h.error_eq hnone]
    refine ⟨rfl, ?_, ?_⟩
    · simp [size_append, nodeCount, Call.line?, h.size_eq]
    · simp [Call.opens, Call.closes]
      omega
  | leaf kind token line column =>
    have hrefusal : builder.refusal? kind line =
        offence? calls (.leaf kind token line column) := h.refusal?_eq kind line
    rw [← hrefusal]
    refine ⟨fun hnone => ?_, fun error hsome =>
      (error_of_refusal? h.error_eq hsome (some token) column).2⟩
    show KeepsUp _ (builder.leaf kind token line column)
    rw [leaf_eq h.error_eq hnone]
    refine ⟨rfl, ?_, ?_⟩
    · simp [size_append, nodeCount, Call.line?, h.size_eq]
    · simpa [Call.opens, Call.closes] using hbalance
  | close =>
    have hlength := h.length_eq
    show (offence? calls .close = none → KeepsUp _ builder.close) ∧ _
    unfold offence? TreeBuilder.tell close
    cases hopen : builder.openNodes with
    | nil =>
      rw [hopen, List.length_nil] at hlength
      rw [if_pos hlength.symm]
      refine ⟨fun hnone => absurd hnone (Option.some_ne_none _), fun error hsome => ?_⟩
      cases hsome
      simp only [fail, h.error_eq]
    | cons inner outer =>
      rw [hopen, List.length_cons] at hlength
      have hne : openCount calls ≠ 0 := by omega
      rw [if_neg hne]
      refine ⟨fun _ => ⟨h.error_eq, ?_, ?_⟩, fun error hsome =>
        absurd hsome.symm (Option.some_ne_none error)⟩
      · simpa [nodeCount, Call.line?] using h.size_eq
      · rw [hopen, List.length_cons] at hbalance
        simp [Call.opens, Call.closes]
        omega

/-- The builder that was told some calls, one after the other. -/
def told (calls : List Call) : TreeBuilder :=
  calls.foldl tell empty

/-- **A builder notes the first call with which something is wrong.** -/
theorem notesFirst : NotesFirst offence? tell TreeBuilder.error KeepsUp where
  note?_eq := fun h => h.error_eq
  keeps := fun h => (h.tell _).1
  notes := fun h => (h.tell _).2 _
  stands := fun h => error_tell_eq h _

theorem keepsUp_empty : KeepsUp [] TreeBuilder.empty :=
  ⟨rfl, rfl, rfl⟩

theorem keepsUp_told (h : Inoffensive offence? calls) : KeepsUp calls (told calls) :=
  notesFirst.keeps_foldl keepsUp_empty h

theorem error_told_eq_none_iff : (told calls).error = none ↔ Inoffensive offence? calls :=
  notesFirst.note?_foldl_eq_none_iff keepsUp_empty

/-- **Which error is answered**: the first thing that is wrong, or, if nothing is, that no node was added
or that some are open. -/
theorem finish_told_eq_error_iff {error : TreeError} :
    (told calls).finish.1 = .error error ↔
      FirstOffence offence? calls error ∨ Inoffensive offence? calls ∧
        (nodeCount calls = 0 ∧ error = .empty ∨ nodeCount calls ≠ 0 ∧ openCount calls ≠ 0 ∧
          error = .unclosed (openCount calls)) := by
  rw [finish_eq_error_iff, error_told_eq_none_iff]
  refine or_congr (notesFirst.note?_foldl_eq_some_iff keepsUp_empty) (and_congr_right fun hcalls => ?_)
  rw [(keepsUp_told hcalls).size_eq, (keepsUp_told hcalls).length_eq]

end TreeBuilder

end TreeLint
