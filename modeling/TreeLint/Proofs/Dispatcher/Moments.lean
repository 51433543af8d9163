import TreeLint.Proofs.Dispatcher.Run

/-!
# The moments of a run

What a visitor remembers does not show in a report. To say what it remembers when it is told of a visit, this
module looks into a run: at a moment (`Dispatcher.Moment`) some visits were handed on, some of the checks
that want to hear of the next one were told, and one check is about to be told.

**The law** (`Dispatcher.Moment.active_eq`): a visitor that remembers the path knows, at each of its moments,
the nodes that are open, whatever the other checks do. Which nodes these are can be read off the visits that
were handed on: they were entered and not left (`Dispatcher.Moment.filter_openAfter`). For that, somebody has
to want to hear of their being left, since otherwise it is not handed on.
-/

namespace TreeLint

/-! ## Entered and not left -/

namespace Visit

/-- **The nodes that visits entered and did not leave**, in the order in which they were entered. -/
def openAfter (visits : List Visit) : List Node :=
  (visits.filterMap entered?).filter fun node => ⟨.leave, node⟩ ∉ visits

/-- Entering a node leaves none. -/
theorem leave_notMem_enter_cons (node other : Node) (rest : List Visit) :
    (⟨.leave, other⟩ : Visit) ∉ ⟨.enter, node⟩ :: rest ↔ ⟨.leave, other⟩ ∉ rest := by
  simp

theorem openAfter_enter (node : Node) (rest : List Visit) :
    openAfter (⟨.enter, node⟩ :: rest) =
      [node].filter (fun other => ⟨.leave, other⟩ ∉ rest) ++ openAfter rest := by
  unfold openAfter
  simp only [leave_notMem_enter_cons]
  rw [List.filterMap_cons_some (entered?_enter node), ← List.singleton_append, List.filter_append]

theorem Leads.split : ∀ {first second : List Visit} {start stop : List Node},
    Leads start (first ++ second) stop → ∃ middle, Leads start first middle ∧ Leads middle second stop
  | [], _, start, _, h => ⟨start, rfl, h⟩
  | _ :: _, _, _, _, ⟨hpath, hrest⟩ => by
    obtain ⟨middle, hfirst, hsecond⟩ := hrest.split
    exact ⟨middle, ⟨hpath, hfirst⟩, hsecond⟩

/-- What is open after visits: what was open before and was not left, and what they entered and did not
leave. -/
theorem Leads.reverse_eq : ∀ {visits : List Visit} {start stop : List Node}, Leads start visits stop →
    visits.Nodup → (∀ node ∈ start, ⟨.enter, node⟩ ∉ visits) →
    stop.reverse = start.reverse.filter (fun node => ⟨.leave, node⟩ ∉ visits) ++ openAfter visits
  | [], start, stop, hleads, _, _ => by
    obtain rfl : start = stop := hleads
    simp [openAfter]
  | ⟨.enter, node⟩ :: rest, start, stop, ⟨hpath, hrest⟩, hnodup, hnew => by
    obtain ⟨hnode, hnodup⟩ := List.nodup_cons.mp hnodup
    obtain rfl : node.ancestors = start := hpath
    have hlater : ∀ other ∈ node :: node.ancestors, ⟨.enter, other⟩ ∉ rest := by
      intro other hmem
      rcases List.mem_cons.mp hmem with rfl | hmem
      · exact hnode
      · exact fun h => hnew other hmem (List.mem_cons_of_mem _ h)
    have ih := hrest.reverse_eq hnodup hlater
    rw [openAfter_enter, ih]
    simp only [pathAfter, leave_notMem_enter_cons, List.reverse_cons, List.filter_append,
      List.append_assoc]
  | ⟨.leave, node⟩ :: rest, start, stop, ⟨hpath, hrest⟩, hnodup, hnew => by
    obtain ⟨_, hnodup⟩ := List.nodup_cons.mp hnodup
    obtain rfl : node :: node.ancestors = start := hpath
    have hlater : ∀ other ∈ node.ancestors, ⟨.enter, other⟩ ∉ rest := fun other hmem h =>
      hnew other (List.mem_cons_of_mem _ hmem) (List.mem_cons_of_mem _ h)
    have ih := hrest.reverse_eq hnodup hlater
    -- the node that is left was open, so it is neither entered again nor open further out
    have hleft : ∀ other : Node, other ≠ node →
        ((⟨.leave, other⟩ : Visit) ∉ ⟨.leave, node⟩ :: rest ↔ ⟨.leave, other⟩ ∉ rest) := by
      intro other hne
      simp [hne]
    have houter : (node.ancestors.reverse.filter fun other => (⟨.leave, other⟩ : Visit) ∉ rest) =
        node.ancestors.reverse.filter fun other => (⟨.leave, other⟩ : Visit) ∉ ⟨.leave, node⟩ :: rest := by
      refine List.filter_congr fun other hmem => decide_eq_decide.mpr (hleft other ?_).symm
      rintro rfl
      exact Nat.lt_irrefl _ (Node.id_lt_of_mem_ancestors other (List.mem_reverse.mp hmem))
    have hinner : openAfter rest = openAfter (⟨.leave, node⟩ :: rest) := by
      unfold openAfter
      rw [List.filterMap_cons_none (entered?_leave node)]
      refine List.filter_congr fun other hmem => decide_eq_decide.mpr (hleft other ?_).symm
      rintro rfl
      obtain ⟨visit, hvisit, hentered⟩ := List.mem_filterMap.mp hmem
      obtain rfl := entered?_eq_some.mp hentered
      exact hnew other List.mem_cons_self (List.mem_cons_of_mem _ hvisit)
    have hgone : [node].filter (fun other => (⟨.leave, other⟩ : Visit) ∉ ⟨.leave, node⟩ :: rest) = [] := by
      simp
    rw [ih, ← hinner, List.reverse_cons, List.filter_append, hgone, List.append_nil, ← houter]
    rfl

/-- **What is open after visits that start with nothing open** is what they entered and did not leave. -/
theorem Leads.openAfter_eq {visits : List Visit} {stop : List Node} (h : Leads [] visits stop)
    (hnodup : visits.Nodup) : openAfter visits = stop.reverse := by
  rw [h.reverse_eq hnodup fun _ hmem => nomatch hmem]
  rfl

/-- Visits that are not handed on say nothing about nodes of whose being left somebody wants to know. -/
theorem filter_openAfter_handed {wantsLeave : NodeKind → Bool} {p : Node → Bool}
    (hp : ∀ node, p node = true → wantsLeave node.kind = true) (visits : List Visit) :
    (openAfter (visits.filter (isHandedOn wantsLeave))).filter p = (openAfter visits).filter p := by
  have hentered : (visits.filter (isHandedOn wantsLeave)).filterMap entered? =
      visits.filterMap entered? := by
    rw [List.filterMap_filter]
    refine List.filterMap_congr fun visit _ => ?_
    obtain ⟨event, node⟩ := visit
    cases event <;> simp [isHandedOn]
  unfold openAfter
  rw [hentered, List.filter_filter, List.filter_filter]
  refine List.filter_congr fun node _ => ?_
  cases hnode : p node with
  | false => rfl
  | true => simp [isHandedOn, hp node hnode]

end Visit

namespace Dispatcher

/-! ## A run, visit by visit -/

/-- The visits that a run hands on. -/
def handedOn (dispatcher : Dispatcher) (tree : SyntaxTree) : List Visit :=
  tree.walk dispatcher.onLeave.contains (fun visits visit => visits ++ [visit]) []

/-- A run after some visits. -/
def runningAfter (dispatcher : Dispatcher) (tree : SyntaxTree) (file : String) (visits : List Visit) :
    Running :=
  visits.foldl dispatcher.notify (dispatcher.start tree.root file)

variable {dispatcher : Dispatcher} {tree : SyntaxTree} {file : String}

theorem handedOn_eq (wf : Arena.WellFormed tree.nodes) :
    dispatcher.handedOn tree = tree.tour.filter (Visit.isHandedOn dispatcher.onLeave.contains) := by
  unfold handedOn
  rw [SyntaxTree.walk_eq_foldl wf, List.foldl_append_eq_append, List.nil_append, ← List.flatMap_def,
    List.flatMap_singleton']

/-- **A run hands on these visits**, one after the other, and reports what the checks found. -/
theorem run_eq_runningAfter (wf : Arena.WellFormed tree.nodes) :
    dispatcher.run tree file = (dispatcher.runningAfter tree file (dispatcher.handedOn tree)).sink.report := by
  unfold run runningAfter
  rw [SyntaxTree.walk_eq_foldl wf, handedOn_eq wf]

/-- A check at work after some visits. -/
def Active.afterAll (file : String) (visits : List Visit) (one : Active) : Active :=
  visits.foldl (fun one visit => one.after file visit) one

theorem active_foldl_notify (exact : dispatcher.Exact) : ∀ (visits : List Visit) {active : List Active}
    (sink : Sink), active.map (·.registered) = dispatcher.checks →
      (visits.foldl dispatcher.notify ⟨active, sink⟩).active = active.map (Active.afterAll sink.file visits)
  | [], active, _, _ => (List.map_id active).symm
  | visit :: rest, active, sink, hactive => by
    have hafter : (active.map (Active.after sink.file visit)).map (·.registered) = dispatcher.checks := by
      rw [List.map_map, ← hactive]
      exact List.map_congr_left fun one _ => Active.registered_after visit one
    rw [List.foldl_cons, notify_eq exact hactive, active_foldl_notify exact rest _ hafter, List.map_map]
    rfl

/-- **The checks at work after some visits**: each of them has moved on independently of the others. -/
theorem active_runningAfter (exact : dispatcher.Exact) (visits : List Visit) :
    (dispatcher.runningAfter tree file visits).active =
      dispatcher.checks.map fun registered => (Active.starting registered).afterAll file visits := by
  have hstarting : (dispatcher.checks.map Active.starting).map (·.registered) = dispatcher.checks := by
    rw [List.map_map]
    exact List.map_id _
  unfold runningAfter start
  rw [foldl_startCheck, List.nil_append, active_foldl_notify exact visits _ hstarting, List.map_map]
  rfl

/-- **A moment of a run**: a check is about to be told of a visit. Some visits were handed on before, and of
the checks that want to hear of this one some were told. -/
structure Moment (dispatcher : Dispatcher) (tree : SyntaxTree) (file : String) where
  before : List Visit
  visit : Visit
  after : List Visit
  handedOn_eq : dispatcher.handedOn tree = before ++ visit :: after
  /-- The places of the checks that were told of the visit. -/
  earlier : List Nat
  /-- The place of the check that is about to be told. -/
  index : Nat
  later : List Nat
  indices_eq : (dispatcher.subscribers visit.event).indices visit.node.kind = earlier ++ index :: later

/-- The run at a moment. -/
def Moment.running (moment : dispatcher.Moment tree file) : Running :=
  moment.earlier.foldl (tell moment.visit) (dispatcher.runningAfter tree file moment.before)

/-! ## What is remembered -/

/-- Telling one check leaves the others alone. -/
theorem getElem?_active_tell (visit : Visit) (running : Running) {index other : Nat} (hne : index ≠ other) :
    (tell visit running index).active[other]? = running.active[other]? := by
  unfold tell
  split
  · rfl
  · rfl
  · dsimp only
    split <;> exact List.getElem?_set_ne hne

theorem getElem?_active_foldl_tell (visit : Visit) {other : Nat} : ∀ {indices : List Nat} (running : Running),
    other ∉ indices → (indices.foldl (tell visit) running).active[other]? = running.active[other]?
  | [], _, _ => rfl
  | index :: rest, running, hother => by
    rw [List.mem_cons, not_or] at hother
    rw [List.foldl_cons, getElem?_active_foldl_tell visit _ hother.2,
      getElem?_active_tell visit running (Ne.symm hother.1)]

section Remembering

variable {registered : Registered} {memory : List Node → registered.check.State}

theorem starting_of_remembersPath (h : registered.RemembersPath file tree memory) :
    Active.starting registered = ⟨registered, some (memory [])⟩ := by
  unfold Active.starting
  rw [h.start]
  rfl

/-- A visitor that remembers the path remembers it after visits that include all it wants to hear of. -/
theorem afterAll_of_remembersPath (h : registered.RemembersPath file tree memory) {handed : Visit → Bool}
    (hhanded : ∀ visit, registered.check.wants visit = true → handed visit = true) :
    ∀ {visits : List Visit} {path stop : List Node}, (∀ visit ∈ visits, visit.node.tree = tree) →
      Visit.Leads path visits stop →
      Active.afterAll file (visits.filter handed) ⟨registered, some (memory path)⟩ =
        ⟨registered, some (memory stop)⟩
  | [], _, _, _, hleads => by
    cases hleads
    rfl
  | visit :: rest, path, stop, htree, hleads => by
    obtain ⟨rfl, hrest⟩ := hleads
    have hhere : visit.node.tree = tree := htree visit List.mem_cons_self
    have ih := afterAll_of_remembersPath h hhanded
      (fun later hmem => htree later (List.mem_cons_of_mem _ hmem)) hrest
    cases hwants : registered.check.wants visit with
    | true =>
      have hafter : Active.after file visit ⟨registered, some (memory visit.path)⟩ =
          ⟨registered, some (memory visit.pathAfter)⟩ := by
        rw [Active.after, if_pos hwants, h.told visit hhere hwants]
        rfl
      rw [List.filter_cons_of_pos (hhanded visit hwants), Active.afterAll, List.foldl_cons, hafter]
      exact ih
    | false =>
      have hafter : Active.after file visit ⟨registered, some (memory visit.path)⟩ =
          ⟨registered, some (memory visit.path)⟩ := (Active.of_not_wants file hwants).2
      rw [h.passed visit hhere hwants] at hafter ⊢
      rw [List.filter_cons]
      split
      · rw [Active.afterAll, List.foldl_cons, hafter]
        exact ih
      · exact ih

/-- What a check wants to hear of is handed on. -/
theorem isHandedOn_of_wants (exact : dispatcher.Exact) (hmem : registered ∈ dispatcher.checks) (visit : Visit)
    (hwants : registered.check.wants visit = true) :
    Visit.isHandedOn dispatcher.onLeave.contains visit = true := by
  obtain ⟨event, node⟩ := visit
  cases event with
  | enter => rfl
  | leave =>
    have hindices := exact .leave node.kind
    have hsome : dispatcher.checks.findIdxs (fun other => other.check.hearsOf .leave node.kind) ≠ [] := by
      obtain ⟨place, hplace, heq⟩ := List.getElem_of_mem hmem
      refine List.ne_nil_of_mem (List.mem_findIdxs_iff_exists_getElem_pos.mpr ⟨hplace, ?_⟩)
      rw [heq]
      exact hwants
    rw [← hindices] at hsome
    unfold Visit.isHandedOn Subscribers.contains
    unfold Subscribers.indices at hsome
    cases hget : dispatcher.onLeave.get? node.kind with
    | some indices => rfl
    | none =>
      have hnone : (dispatcher.subscribers .leave).get? node.kind = none := hget
      rw [hnone] at hsome
      exact absurd rfl hsome

/-- The visits of a tour that come before a visit that is handed on. -/
theorem Moment.exists_tour_eq (wf : Arena.WellFormed tree.nodes) (moment : dispatcher.Moment tree file) :
    ∃ earlier later, tree.tour = earlier ++ moment.visit :: later ∧
      earlier.filter (Visit.isHandedOn dispatcher.onLeave.contains) = moment.before ∧
      Visit.Leads [] earlier moment.visit.path := by
  have hhanded := moment.handedOn_eq
  rw [Dispatcher.handedOn_eq wf] at hhanded
  obtain ⟨first, rest, htour, hbefore, hrest⟩ := List.filter_eq_append_iff.mp hhanded
  obtain ⟨between, later, hbetween, hnone, -, -⟩ := List.filter_eq_cons_iff.mp hrest
  rw [hbetween, ← List.append_assoc] at htour
  have hleads := SyntaxTree.leads_tour wf
  rw [htour] at hleads
  obtain ⟨middle, hfirst, hvisit, -⟩ := hleads.split
  rw [← hvisit] at hfirst
  refine ⟨first ++ between, later, htour, ?_, hfirst⟩
  rw [List.filter_append, hbefore, List.filter_eq_nil_iff.mpr hnone, List.append_nil]

/-- **What a visitor that remembers the path knows at its moments**: the nodes that are open. -/
theorem Moment.active_eq (wf : Arena.WellFormed tree.nodes) (exact : dispatcher.Exact)
    (moment : dispatcher.Moment tree file) (hindex : dispatcher.checks[moment.index]? = some registered)
    (h : registered.RemembersPath file tree memory) :
    moment.running.active[moment.index]? = some ⟨registered, some (memory moment.visit.path)⟩ := by
  obtain ⟨earlier, later, htour, hbefore, hleads⟩ := moment.exists_tour_eq wf
  have hothers : moment.index ∉ moment.earlier := by
    have hnodup : ((dispatcher.subscribers moment.visit.event).indices moment.visit.node.kind).Nodup := by
      rw [exact]
      exact List.nodup_findIdxs
    rw [moment.indices_eq] at hnodup
    exact fun hmem => List.disjoint_of_nodup_append hnodup hmem List.mem_cons_self
  have htree : ∀ visit ∈ earlier, visit.node.tree = tree := by
    intro visit hmem
    refine SyntaxTree.tree_of_mem_tour wf ?_
    rw [htour]
    exact List.mem_append_left _ hmem
  have hmemory := afterAll_of_remembersPath h
    (isHandedOn_of_wants exact (List.mem_of_getElem? hindex)) htree hleads
  unfold Moment.running
  rw [getElem?_active_foldl_tell _ _ hothers, active_runningAfter exact, List.getElem?_map, hindex,
    Option.map_some, starting_of_remembersPath h, ← hbefore, hmemory]

/-- **What it knows in the end**: nothing is open. -/
theorem active_handedOn (wf : Arena.WellFormed tree.nodes) (exact : dispatcher.Exact) {index : Nat}
    (hindex : dispatcher.checks[index]? = some registered) (h : registered.RemembersPath file tree memory) :
    (dispatcher.runningAfter tree file (dispatcher.handedOn tree)).active[index]? =
      some ⟨registered, some (memory [])⟩ := by
  have hmemory := afterAll_of_remembersPath h
    (isHandedOn_of_wants exact (List.mem_of_getElem? hindex))
    (fun visit hmem => SyntaxTree.tree_of_mem_tour wf hmem) (SyntaxTree.leads_tour wf)
  rw [active_runningAfter exact, List.getElem?_map, hindex, Option.map_some, starting_of_remembersPath h,
    Dispatcher.handedOn_eq wf, hmemory]

end Remembering

/-- **The open nodes at a moment**, of kinds of whose being left somebody wants to know, are those that were
entered and not left. -/
theorem Moment.filter_openAfter (wf : Arena.WellFormed tree.nodes) (moment : dispatcher.Moment tree file)
    {p : Node → Bool} (hp : ∀ node, p node = true → dispatcher.onLeave.contains node.kind = true) :
    (Visit.openAfter moment.before).filter p = moment.visit.path.reverse.filter p := by
  obtain ⟨earlier, later, htour, hbefore, hleads⟩ := moment.exists_tour_eq wf
  have hnodup : earlier.Nodup := by
    have htour := htour ▸ SyntaxTree.nodup_tour wf
    exact (List.nodup_append.mp htour).1
  rw [← hbefore, Visit.filter_openAfter_handed hp, hleads.openAfter_eq hnodup]

end Dispatcher

end TreeLint
