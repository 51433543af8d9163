import TreeLint.Proofs.Dispatcher.Run

/-!
# Checks that judge nodes

A check judges nodes if all that comes of it in a file is a list of findings for each node: it never
fails, it reports nothing when a node is left, and all that its visitor remembers is a function of the
nodes that are open (`Registered.Judges`). A check that remembers nothing is of this kind, and so is one
that keeps a stack which leaving a node restores.

**The law** (`Dispatcher.tourReport_of_judges`): the report of such checks holds, for each node in
document order and for each check in the order of registration, what the check finds at the node. Which
visits each of them wants to hear of does not show in it.
-/

namespace TreeLint

namespace Registered

variable {registered : Registered} {file : String} {tree : SyntaxTree}
  {memory : List Node → registered.check.State}

/-- What a visitor that remembers the path reports when a node is entered. -/
def findingsAt (registered : Registered) (file : String) (memory : List Node → registered.check.State)
    (node : Node) : List Finding :=
  if registered.check.wants ⟨.enter, node⟩ then
    (registered.response file ⟨.enter, node⟩ (memory node.ancestors)).findings
  else []

/-- **A check that judges nodes**, with what it finds at each of them. -/
def Judges (registered : Registered) (file : String) (tree : SyntaxTree)
    (findings : Node → List Finding) : Prop :=
  ∃ memory, registered.RemembersPath file tree memory ∧
    (∀ visit : Visit, visit.event = .leave → registered.check.wants visit = true →
      (registered.response file visit (memory visit.path)).findings = []) ∧
    ∀ node, registered.findingsAt file memory node = findings node

/-- A visitor that remembers the path is told of a visit of the tour once, if it wants to hear of it. -/
theorem RemembersPath.filter_callbacks (h : registered.RemembersPath file tree memory)
    (wf : Arena.WellFormed tree.nodes) {visit : Visit} (hmem : visit ∈ tree.tour) :
    (registered.callbacks file tree.tour).filter (·.visit = visit) =
      if registered.check.wants visit then [registered.callback file visit (memory visit.path)]
      else [] := by
  have honce : tree.tour.filter (fun other => decide (other = visit)) = [visit] := by
    rw [List.filter_eq, List.count_eq_one_of_mem (SyntaxTree.nodup_tour wf) hmem]
    rfl
  have hcomm : (tree.tour.filter registered.check.wants).filter (fun other => decide (other = visit)) =
      (tree.tour.filter (fun other => decide (other = visit))).filter registered.check.wants := by
    rw [List.filter_filter, List.filter_filter]
    exact List.filter_congr fun other _ => Bool.and_comm _ _
  have hvisit : ((fun callback : Callback => decide (callback.visit = visit)) ∘ fun visit =>
      registered.callback file visit (memory visit.path)) = fun other => decide (other = visit) := rfl
  rw [h.callbacks wf, List.filter_map, hvisit, hcomm, honce, List.filter_cons]
  split <;> rfl

/-- **What comes of telling a check that judges nodes of a visit**: its findings at the node, if the
visit enters it, and no failure. -/
theorem Judges.filter_callbacks {findings : Node → List Finding}
    (h : registered.Judges file tree findings) (wf : Arena.WellFormed tree.nodes) {visit : Visit}
    (hmem : visit ∈ tree.tour) :
    ((registered.callbacks file tree.tour).filter (·.visit = visit)).flatMap (Callback.violations file) =
        (visit.entered?.toList.flatMap findings).filterMap (Finding.violation? registered file) ∧
      ((registered.callbacks file tree.tour).filter (·.visit = visit)).flatMap
          (Callback.diagnostics file) =
        (visit.entered?.toList.flatMap findings).filterMap (Finding.diagnostic? registered file) := by
  obtain ⟨memory, hremembers, hquiet, hfindings⟩ := h
  have htold : visit.entered?.toList.flatMap findings = if registered.check.wants visit then
      (registered.response file visit (memory visit.path)).findings else [] := by
    obtain ⟨event, node⟩ := visit
    cases event with
    | enter =>
      rw [Visit.entered?_enter, Option.toList_some, List.flatMap_singleton, ← hfindings]
      rfl
    | leave =>
      split
      · next hwants => exact (hquiet ⟨.leave, node⟩ rfl hwants).symm
      · rfl
  rw [hremembers.filter_callbacks wf hmem, htold]
  cases hwants : registered.check.wants visit with
  | false => exact ⟨rfl, rfl⟩
  | true =>
    have hnext := hremembers.told visit (SyntaxTree.tree_of_mem_tour wf hmem) hwants
    simp only [if_true, List.flatMap_singleton, Callback.violations, Callback.diagnostics, callback,
      Response.failure?, hnext, Option.toList_none, List.map_nil, List.append_nil, and_self]

/-- Such a check does not fail at the start. -/
theorem Judges.startDiagnostics {findings : Node → List Finding}
    (h : registered.Judges file tree findings) : registered.startDiagnostics file tree.root = [] := by
  obtain ⟨memory, hremembers, _, _⟩ := h
  unfold Registered.startDiagnostics
  rw [hremembers.start]

/-- **A check that remembers nothing judges nodes**: those of the kinds that it wants to hear of. -/
theorem judges_stateless (key name description : String) (severity : Severity) (message : String)
    (kinds : List NodeKind) (findings : Node → List Finding) (override : Option Severity)
    (file : String) (tree : SyntaxTree) :
    (Registered.of (.stateless key name description severity message kinds findings, override)).Judges
      file tree fun node => if node.kind ∈ kinds then findings node else [] := by
  refine ⟨fun _ => (), ⟨rfl, fun _ _ _ => rfl, fun _ _ _ => rfl⟩, ?_, ?_⟩
  · -- It does not want to hear when nodes are left.
    rintro ⟨event, node⟩ rfl hwants
    simp [Check.wants, Check.hearsOf, Registered.of, Check.stateless] at hwants
  · intro node
    simp only [findingsAt, Check.wants, Check.hearsOf, Registered.of, Check.stateless, beq_self_eq_true,
      Bool.true_or, Bool.and_true, List.contains_iff_mem]
    rfl

end Registered

/-- What comes of a tour, if each of some items makes entries of what it finds at the nodes that are
entered. -/
theorem SyntaxTree.flatMap_tour_of_entered {ι ε : Type} {items : List ι}
    {findings : ι → Node → List Finding} {kept : ι → Finding → Option ε} {told : ι → Visit → List ε}
    {tree : SyntaxTree} (wf : Arena.WellFormed tree.nodes)
    (h : ∀ item ∈ items, ∀ visit ∈ tree.tour,
      told item visit = (visit.entered?.toList.flatMap (findings item)).filterMap (kept item)) :
    (tree.tour.flatMap fun visit => items.flatMap fun item => told item visit) =
      tree.toList.flatMap fun node => items.flatMap fun item =>
        (findings item node).filterMap (kept item) := by
  have htold : (tree.tour.flatMap fun visit => items.flatMap fun item => told item visit) =
      tree.tour.flatMap fun visit => items.flatMap fun item =>
        (visit.entered?.toList.flatMap (findings item)).filterMap (kept item) :=
    List.flatMap_congr fun visit hvisit => List.flatMap_congr fun item hitem =>
      h item hitem visit hvisit
  rw [htold, SyntaxTree.flatMap_tour wf]
  · simp only [Visit.entered?_enter, Option.toList_some, List.flatMap_singleton]
  · intro node
    exact List.flatMap_eq_nil_iff.mpr fun item _ => rfl

/-- **The report of checks that judge nodes.** -/
theorem Dispatcher.tourReport_of_judges {ι : Type} (items : List ι) (registered : ι → Registered)
    {findings : ι → Node → List Finding} {tree : SyntaxTree} (wf : Arena.WellFormed tree.nodes)
    {file : String} (h : ∀ item ∈ items, (registered item).Judges file tree (findings item)) :
    tourReport (items.map registered) tree file =
      ⟨file,
        tree.toList.flatMap fun node => items.flatMap fun item =>
          (findings item node).filterMap (Finding.violation? (registered item) file),
        tree.toList.flatMap fun node => items.flatMap fun item =>
          (findings item node).filterMap (Finding.diagnostic? (registered item) file)⟩ := by
  have hstart : ((items.map registered).flatMap fun registered =>
      registered.startDiagnostics file tree.root) = [] := by
    rw [List.flatMap_map, List.flatMap_eq_nil_iff]
    exact fun item hitem => (h item hitem).startDiagnostics
  unfold tourReport
  simp only [hstart, List.nil_append, List.flatMap_map]
  congr 1
  · exact SyntaxTree.flatMap_tour_of_entered wf fun item hitem visit hvisit =>
      ((h item hitem).filter_callbacks wf hvisit).1
  · exact SyntaxTree.flatMap_tour_of_entered wf fun item hitem visit hvisit =>
      ((h item hitem).filter_callbacks wf hvisit).2

end TreeLint
