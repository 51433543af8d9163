import TreeLint.Dump.Text
import TreeLint.Proofs.Json.ReadBack

/-!
# The text of a dump is read back

**The law**: a dump whose numbers fit a word is what its text is read as (`Dump.parse_text_eq`). It is
assembled from the readers' own law: each member of a node takes the fields gathered so far to the ones
with its own filled in, and what the writer leaves out (an absent token or source, a number of children
of zero) is what the reader fills in for a field that never came.

The numbers have to fit a word because a larger one is read as floating point; no dump in memory holds
one. Nothing is said of the other texts that are read as a dump.
-/

namespace TreeLint

open Json

namespace DumpNode

/-- The numbers of a node fit a word. -/
def FitsWords (node : DumpNode) : Prop :=
  node.line ≤ Text.Decimal.maxWord ∧ node.column ≤ Text.Decimal.maxWord ∧
    node.children ≤ Text.Decimal.maxWord

instance (node : DumpNode) : Decidable node.FitsWords :=
  inferInstanceAs (Decidable (_ ∧ _ ∧ _))

/-- The fields that are gathered from what is written for a node. -/
def gathered (node : DumpNode) : Gathered :=
  ⟨some node.kind, node.token.map some, some node.line, some node.column,
    if node.children = 0 then none else some node.children⟩

/-- What was left out is filled in as it was. -/
theorem node_gathered (node : DumpNode) : node.gathered.node = .ok node := by
  obtain ⟨kind, token, line, column, children⟩ := node
  cases token <;> by_cases h : children = 0 <;> simp [gathered, Gathered.node, h]

section Members

variable {kind : Option NodeKind} {token : Option (Option String)} {line column children : Option Nat}

theorem readsBack_kind (value : NodeKind) :
    ReadsBack (readMember ⟨none, token, line, column, children⟩ "kind")
      (':' :: writeString value.name) ⟨some value, token, line, column, children⟩ := by
  have hname : ReadsBack (readName NodeKind.names) (writeString value.name) value :=
    readsBack_name (NodeKind.ofName?_name value)
  exact (hname.field "kind").map fun value => Gathered.mk (some value) token line column children

theorem readsBack_token (value : String) :
    ReadsBack (readMember ⟨kind, none, line, column, children⟩ "token")
      (':' :: writeString value) ⟨kind, some (some value), line, column, children⟩ :=
  ((readsBack_optionalText "a string" value).field "token").map
    fun value => Gathered.mk kind (some value) line column children

theorem readsBack_line {value : Nat} (h : value ≤ Text.Decimal.maxWord) :
    ReadsBack (readMember ⟨kind, token, none, column, children⟩ "line")
      (':' :: Text.Decimal.digits value) ⟨kind, token, some value, column, children⟩ :=
  ((readsBack_word h).field "line").map
    fun value => Gathered.mk kind token (some value) column children

theorem readsBack_column {value : Nat} (h : value ≤ Text.Decimal.maxWord) :
    ReadsBack (readMember ⟨kind, token, line, none, children⟩ "column")
      (':' :: Text.Decimal.digits value) ⟨kind, token, line, some value, children⟩ :=
  ((readsBack_word h).field "column").map
    fun value => Gathered.mk kind token line (some value) children

theorem readsBack_children {value : Nat} (h : value ≤ Text.Decimal.maxWord) :
    ReadsBack (readMember ⟨kind, token, line, column, none⟩ "children")
      (':' :: Text.Decimal.digits value) ⟨kind, token, line, column, some value⟩ :=
  ((readsBack_word h).field "children").map
    fun value => Gathered.mk kind token line column (some value)

end Members

/-- **The members of a node** lead from nothing gathered to its fields. -/
theorem gathers_writeMembers {node : DumpNode} (h : node.FitsWords) :
    Gathers readMember ⟨none, none, none, none, none⟩ node.writeMembers node.gathered := by
  obtain ⟨kind, token, line, column, children⟩ := node
  obtain ⟨hline, hcolumn, hchildren⟩ := h
  -- What follows the token, whether there is one or not.
  have hnumbers : ∀ token : Option String,
      Gathers readMember ⟨some kind, token.map some, none, none, none⟩
        ([writeMember "line" (Text.Decimal.digits line),
          writeMember "column" (Text.Decimal.digits column)]
          ++ if children = 0 then [] else [writeMember "children" (Text.Decimal.digits children)])
        (gathered ⟨kind, token, line, column, children⟩) := by
    intro token
    refine .cons (readsBack_line hline) (.cons (readsBack_column hcolumn) ?_)
    unfold gathered
    by_cases hzero : children = 0
    · rw [if_pos hzero, if_pos hzero]
      exact .nil
    · rw [if_neg hzero, if_neg hzero]
      exact .cons (readsBack_children hchildren) .nil
  unfold writeMembers
  rw [List.append_assoc, List.append_assoc]
  refine .cons (readsBack_kind kind) ?_
  cases token with
  | none => exact hnumbers none
  | some token => exact .cons (readsBack_token token) (hnumbers (some token))

/-- **A node is read back** from what is written for it. -/
theorem readsBack_write {node : DumpNode} (h : node.FitsWords) : ReadsBack read node.write node := by
  refine readsBack_record fun rest => ?_
  simp only [readMembers, readMembers_of_gathers (gathers_writeMembers h) rest, node_gathered, bind,
    Except.bind, pure, Except.pure]

end DumpNode

namespace Dump

/-- The numbers of a dump fit a word. -/
def FitsWords (dump : Dump) : Prop :=
  ∀ node ∈ dump.nodes, node.FitsWords

instance (dump : Dump) : Decidable dump.FitsWords :=
  inferInstanceAs (Decidable (∀ node ∈ dump.nodes, node.FitsWords))

theorem readsBack_source (value : String) {nodes : Option (List DumpNode)} :
    ReadsBack (readMember ⟨none, nodes⟩ "source") (':' :: writeString value)
      ⟨some (some value), nodes⟩ :=
  ((readsBack_optionalText "path string" value).field "source").map
    fun value => Gathered.mk (some value) nodes

theorem readsBack_nodes {nodes : List DumpNode} (h : ∀ node ∈ nodes, node.FitsWords)
    {source : Option (Option String)} :
    ReadsBack (readMember ⟨source, none⟩ "nodes")
      (':' :: '[' :: (List.intercalate [','] (nodes.map DumpNode.write) ++ [']']))
      ⟨source, some nodes⟩ := by
  have hitems : ∀ node ∈ nodes, ReadsBackItem DumpNode.read DumpNode.write node := fun node hnode =>
    ⟨DumpNode.readsBack_write (h node hnode), _, rfl⟩
  exact ((readsBack_list hitems).field "nodes").map fun nodes => Gathered.mk source (some nodes)

/-- **The members of a dump** lead from nothing gathered to its fields. -/
theorem gathers_writeMembers {dump : Dump} (h : dump.FitsWords) :
    Gathers readMember ⟨none, none⟩ dump.writeMembers ⟨dump.source.map some, some dump.nodes⟩ := by
  obtain ⟨source, nodes⟩ := dump
  cases source with
  | none => exact .cons (readsBack_nodes h) .nil
  | some source => exact .cons (readsBack_source source) (.cons (readsBack_nodes h) .nil)

/-- **A dump is read back** from what is written for it. -/
theorem readsBack_write {dump : Dump} (h : dump.FitsWords) : ReadsBack read dump.write dump := by
  have hdump : (Gathered.mk (dump.source.map some) (some dump.nodes)).dump = .ok dump := by
    obtain ⟨source, nodes⟩ := dump
    cases source <;> rfl
  refine readsBack_record fun rest => ?_
  simp only [readMembers, readMembers_of_gathers (gathers_writeMembers h) rest, hdump, bind,
    Except.bind, pure, Except.pure]

/-- **A dump is what its text is read as**, with whatever strings it holds and with whatever it lacks. -/
theorem parse_text_eq (dump : Dump) (h : dump.FitsWords) : parse dump.text = .ok dump :=
  (readsBack_write h).readAll

/-- A dump with a name that needs every kind of escape, an empty token, the largest numbers, and nodes
that lack what may be left out. -/
def oddDump : Dump :=
  ⟨some "a\"\\\n\x01\x7f𝄞/b.as", [⟨.block, none, 0, 0, 2⟩,
    ⟨.stringLiteral, some "", Text.Decimal.maxWord, Text.Decimal.maxWord, 0⟩,
    ⟨.identifier, some "\u2028\t", 1, 1, Text.Decimal.maxWord⟩]⟩

theorem oddDump_parse_text : oddDump.FitsWords ∧ parse oddDump.text = .ok oddDump :=
  have h : oddDump.FitsWords := by decide
  ⟨h, parse_text_eq oddDump h⟩

end Dump

end TreeLint
