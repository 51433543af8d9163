import Mathlib.Data.List.Forall2
import TreeLint.Proofs.Dump.Inverse

/-!
# Counting down the children

A dump is loaded node by node. Each node takes one from the number of children that are still to come to the
innermost open node, and a node to which none are to come is closed at once. **The law** (`Dump.countsDown`):
whatever the dump, one is never taken from zero, closing comes to an end, and as long as there is no trouble
the numbers are what the records of the open nodes announce, less the children that the nodes have.

The first part holds with trouble as well as without. It is about the innermost number alone: further out
there may be zeros, as the first child of a node takes its place away before that child is complete. A zero
comes to be innermost only when what is inside it is closed, and then it is closed in the same go
(`Dump.Loading.closeOne?_settle`).

The last part is the invariant `Dump.Loading.Records`, read off for the open nodes.
-/

namespace TreeLint

namespace Dump

namespace Loading

variable {loading after : Loading} {turns : Nat}

/-! ## Closing -/

/-- One turn of closing. There is none if children are still to come to the innermost node, or if no node is
open. -/
def closeOne? (loading : Loading) : Option Loading :=
  match loading.pending with
  | 0 :: outer => some ⟨loading.builder.close, outer⟩
  | _ => none

/-- **Turns of closing**, one after the other. -/
inductive Closes : Loading → Nat → Loading → Prop
  | done (loading : Loading) : Closes loading 0 loading
  | turn {loading between after : Loading} {turns : Nat} :
      closeOne? loading = some between → Closes between turns after → Closes loading (turns + 1) after

theorem closeOne?_eq_some (h : closeOne? loading = some after) :
    loading.pending = 0 :: after.pending ∧ after.builder = loading.builder.close := by
  unfold closeOne? at h
  split at h
  · next outer hpending =>
    cases h
    exact ⟨hpending, rfl⟩
  · cases h

/-- Each turn uses up a number. -/
theorem Closes.length_eq (h : Closes loading turns after) :
    after.pending.length + turns = loading.pending.length := by
  induction h with
  | done loading => rfl
  | turn hturn _ ih =>
    rw [(closeOne?_eq_some hturn).1, List.length_cons, ← ih]
    omega

/-- Closing settles everything. -/
theorem exists_closes_settle : ∀ (pending : List Nat) (builder : TreeBuilder),
    ∃ turns, Closes ⟨builder, pending⟩ turns (settle builder pending)
  | [], builder => ⟨0, .done _⟩
  | (_ + 1) :: _, builder => ⟨0, .done _⟩
  | 0 :: outer, builder => by
    obtain ⟨turns, hrest⟩ := exists_closes_settle outer builder.close
    exact ⟨turns + 1, .turn rfl hrest⟩

/-- When everything is settled, there is nothing to close. -/
theorem closeOne?_settle : ∀ (pending : List Nat) (builder : TreeBuilder),
    closeOne? (settle builder pending) = none
  | [], _ => rfl
  | (_ + 1) :: _, _ => rfl
  | 0 :: outer, builder => closeOne?_settle outer builder.close

/-- If there is nothing to close, children are still to come to the innermost node. -/
theorem one_le_of_closeOne? (h : closeOne? loading = none) {count : Nat} {outer : List Nat}
    (hpending : loading.pending = count :: outer) : 1 ≤ count := by
  cases count with
  | zero =>
    unfold closeOne? at h
    rw [hpending] at h
    cases h
  | succ count => exact Nat.succ_pos count

/-- Trouble stays while nodes are closed. -/
theorem Closes.error_eq_none (h : Closes loading turns after) (herror : after.builder.error = none) :
    loading.builder.error = none := by
  induction h with
  | done loading => exact herror
  | turn hturn _ ih =>
    have hclosed := ih herror
    rw [(closeOne?_eq_some hturn).2] at hclosed
    by_contra hne
    exact TreeBuilder.error_tell hne .close hclosed

/-- **Closing keeps the records**, turn by turn. -/
theorem Closes.records {done : List DumpNode} (h : Closes loading turns after)
    (hrecords : Records done loading) : Records done after := by
  induction h with
  | done loading => exact hrecords
  | @turn loading between after turns hturn _ ih =>
    obtain ⟨hpending, hbuilder⟩ := closeOne?_eq_some hturn
    have hzero : Records done ⟨loading.builder, 0 :: between.pending⟩ := by
      rw [← hpending]
      exact hrecords
    refine ih ?_
    have hclose := hzero.close
    rw [← hbuilder] at hclose
    exact hclose

/-! ## The numbers -/

/-- **The numbers are right.** Each open node has one, and it is what the record of the node announces, less
the children that the node has. -/
def Counts (records : List DumpNode) (loading : Loading) : Prop :=
  List.Forall₂ (fun id count => ∃ record data, records[id]? = some record ∧
      loading.builder.nodes[id]? = some data ∧ count + data.children.size = record.children)
    loading.builder.openNodes loading.pending

theorem lookup_zip_of_getElem? {ids counts : List Nat} (hnodup : ids.Nodup) {place id count : Nat}
    (hid : ids[place]? = some id) (hcount : counts[place]? = some count) :
    (ids.zip counts).lookup id = some count := by
  induction ids generalizing counts place with
  | nil => cases hid
  | cons first ids ih =>
    obtain ⟨hfirst, hnodup⟩ := List.nodup_cons.mp hnodup
    cases counts with
    | nil => cases hcount
    | cons number counts =>
      rw [List.zip_cons_cons, List.lookup_cons]
      cases place with
      | zero =>
        cases hid
        cases hcount
        rw [beq_self_eq_true]
      | succ place =>
        have hne : id ≠ first := fun heq => hfirst (heq ▸ List.mem_of_getElem? hid)
        rw [beq_eq_false_iff_ne.mpr hne]
        exact ih hnodup hid hcount

theorem Records.counts {done records : List DumpNode} (h : Records done loading)
    (hbegins : done <+: records) : Counts records loading := by
  refine List.forall₂_iff_get.mpr ⟨h.aligned, fun place hid hcount => ?_⟩
  have hlookup := lookup_zip_of_getElem? h.nodup (List.getElem?_eq_getElem hid)
    (List.getElem?_eq_getElem hcount)
  have hdue : loading.due loading.builder.openNodes[place] = loading.pending[place] := by
    unfold due
    rw [hlookup]
    rfl
  have hdata := Array.getElem?_eq_getElem (h.lt_size _ (List.getElem_mem hid))
  have hrecord := h.recorded loading.builder.openNodes[place]
  rw [hdata, Option.map_some, hdue] at hrecord
  obtain ⟨rest, rfl⟩ := hbegins
  rw [← List.getElem?_append_left (List.getElem?_eq_some_iff.mp hrecord).1] at hrecord
  exact ⟨_, _, hrecord, hdata, Nat.add_comm _ _⟩

end Loading

/-! ## The law -/

/-- A dump loaded up to a place. -/
def loadedTo (dump : Dump) (place : Nat) : Loading :=
  (dump.nodes.take place).foldl Loading.next .start

/-- A node that was just opened: one less is to come to the node around it, and to itself as many as it
announces. What is complete is not closed yet. -/
def Loading.opened (loading : Loading) (node : DumpNode) : Loading :=
  ⟨loading.builder.openNode node.kind node.token node.line node.column,
    node.children :: Loading.expectOneLess loading.pending⟩

theorem loadedTo_succ {dump : Dump} {place : Nat} {node : DumpNode} (hnode : dump.nodes[place]? = some node) :
    dump.loadedTo (place + 1) = (dump.loadedTo place).next node := by
  unfold loadedTo
  rw [List.take_add_one, hnode, Option.toList_some, List.foldl_append]
  rfl

/-- **What it is to count the children down.** -/
structure CountsDown (dump : Dump) : Prop where
  /-- The tree is asked for when all nodes are loaded. -/
  toTree_eq : dump.toTree = (dump.loadedTo dump.nodes.length).builder.finish.1
  /-- Whenever a node is next, children are still to come to the innermost open node, trouble or not. -/
  expected : ∀ place count outer, (dump.loadedTo place).pending = count :: outer → 1 ≤ count
  /-- Closing comes to an end: it has no more turns than there are numbers. -/
  closing_le : ∀ place node turns after, dump.nodes[place]? = some node →
    Loading.Closes ((dump.loadedTo place).opened node) turns after →
      turns ≤ ((dump.loadedTo place).opened node).pending.length
  /-- The next node is next when there is nothing more to close. -/
  closing_ends : ∀ place node, dump.nodes[place]? = some node → ∃ turns,
    Loading.Closes ((dump.loadedTo place).opened node) turns (dump.loadedTo (place + 1)) ∧
      Loading.closeOne? (dump.loadedTo (place + 1)) = none
  /-- As long as there is no trouble, each open node has its number, and it is right. -/
  aligned : ∀ place, (dump.loadedTo place).builder.error = none →
    (dump.loadedTo place).pending.length = (dump.loadedTo place).builder.openNodes.length ∧
      (dump.loadedTo place).Counts dump.nodes
  /-- So it is at each turn of closing. -/
  aligned_closing : ∀ place node turns after, dump.nodes[place]? = some node →
    Loading.Closes ((dump.loadedTo place).opened node) turns after → after.builder.error = none →
      after.pending.length = after.builder.openNodes.length ∧ after.Counts dump.nodes

section

variable {dump : Dump} {place : Nat}

theorem closeOne?_loadedTo (dump : Dump) (place : Nat) : Loading.closeOne? (dump.loadedTo place) = none := by
  unfold loadedTo
  rcases List.eq_nil_or_concat (dump.nodes.take place) with hnil | ⟨earlier, last, hlast⟩
  · rw [hnil]
    rfl
  · rw [hlast, List.concat_eq_append, List.foldl_append]
    exact Loading.closeOne?_settle _ _

theorem records_loadedTo (herror : (dump.loadedTo place).builder.error = none) :
    Loading.Records (dump.nodes.take place) (dump.loadedTo place) :=
  Loading.records_start.foldl (fun hhead => nomatch hhead) herror

/-- The records after a node was opened without trouble. -/
theorem records_opened {node : DumpNode} (hnode : dump.nodes[place]? = some node)
    (herror : ((dump.loadedTo place).opened node).builder.error = none) :
    Loading.Records (dump.nodes.take (place + 1)) ((dump.loadedTo place).opened node) := by
  obtain ⟨hnone, hrefusal⟩ := TreeBuilder.refusal?_of_openNode herror
  have hsettled : (dump.loadedTo place).pending.head? ≠ some 0 := by
    intro hhead
    obtain ⟨outer, hpending⟩ := List.head?_eq_some_iff.mp hhead
    exact Nat.not_succ_le_zero 0 (Loading.one_le_of_closeOne? (closeOne?_loadedTo dump place) hpending)
  have hopened := (records_loadedTo hnone).openNode hsettled node
  rw [List.take_add_one, hnode, Option.toList_some]
  unfold Loading.opened
  rw [TreeBuilder.openNode_eq hnone hrefusal]
  exact hopened

end

/-- **Loading counts the children down**, and never below zero. -/
theorem countsDown (dump : Dump) : dump.CountsDown where
  toTree_eq := by
    unfold toTree loadedTo
    rw [List.take_length]
  expected := fun place _ _ hpending =>
    Loading.one_le_of_closeOne? (closeOne?_loadedTo dump place) hpending
  closing_le := by
    intro place node turns after _ hcloses
    have hlength := hcloses.length_eq
    omega
  closing_ends := by
    intro place node hnode
    rw [loadedTo_succ hnode]
    obtain ⟨turns, hcloses⟩ := Loading.exists_closes_settle
      ((dump.loadedTo place).opened node).pending ((dump.loadedTo place).opened node).builder
    exact ⟨turns, hcloses, Loading.closeOne?_settle _ _⟩
  aligned := by
    intro place herror
    have hcounts := (records_loadedTo herror).counts (List.take_prefix place dump.nodes)
    exact ⟨hcounts.length_eq.symm, hcounts⟩
  aligned_closing := by
    intro place node turns after hnode hcloses herror
    have hopened := records_opened hnode (hcloses.error_eq_none herror)
    have hcounts := (hcloses.records hopened).counts (List.take_prefix (place + 1) dump.nodes)
    exact ⟨hcounts.length_eq.symm, hcounts⟩

/-- A node of line zero is refused below an open one, and the numbers go on without it. Outside of the
innermost number there is a zero. -/
example :
    (loadedTo ⟨none, [⟨.block, none, 1, 1, 1⟩, ⟨.octal, none, 0, 1, 2⟩]⟩ 2).pending = [2, 0] ∧
    (loadedTo ⟨none, [⟨.block, none, 1, 1, 1⟩, ⟨.octal, none, 0, 1, 2⟩]⟩ 2).builder.openNodes = [0] := by
  decide

end Dump

end TreeLint
