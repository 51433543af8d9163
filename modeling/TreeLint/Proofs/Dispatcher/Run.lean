import TreeLint.Proofs.Dispatcher.Callbacks
import TreeLint.Proofs.Tree.Construction

/-!
# A run follows the tour

A dispatcher walks a tree with a stack, looks up in a table who wants to hear of a visit, and changes
the states of the checks in place. What comes of it is the report of
`TreeLint.Proofs.Dispatcher.Callbacks`, in which every check is on its own.

**The law** (`Dispatcher.run_refines_tour`): for every tree that the program can have, every list of
checks that is accepted and arbitrary visitors, a run gives that report.

One step is `Dispatcher.notify_eq`: told of a visit, all checks move on independently. A whole run is
`Dispatcher.foldl_notify`.
-/

namespace TreeLint

/-! ## The sink -/

namespace Sink

/-- A sink that has taken violations and diagnostics, each in order. -/
def add (sink : Sink) (violations : List Violation) (diagnostics : List ToolDiagnostic) : Sink :=
  ⟨sink.file, sink.violations ++ violations.toArray, sink.diagnostics ++ diagnostics.toArray⟩

@[simp]
theorem file_add (sink : Sink) (violations : List Violation) (diagnostics : List ToolDiagnostic) :
    (sink.add violations diagnostics).file = sink.file :=
  rfl

@[simp]
theorem add_nil (sink : Sink) : sink.add [] [] = sink := by
  simp [add]

@[simp]
theorem add_add (sink : Sink) (violations violations' : List Violation)
    (diagnostics diagnostics' : List ToolDiagnostic) :
    (sink.add violations diagnostics).add violations' diagnostics' =
      sink.add (violations ++ violations') (diagnostics ++ diagnostics') := by
  simp [add, List.append_toArray]

theorem report_add_empty (file : String) (violations : List Violation)
    (diagnostics : List ToolDiagnostic) :
    ((empty file).add violations diagnostics).report = ⟨file, violations, diagnostics⟩ := by
  simp [add, report, empty]

/-- A sink that has taken what callbacks leave. -/
def addCallbacks (sink : Sink) (callbacks : List Callback) : Sink :=
  sink.add (callbacks.flatMap (Callback.violations sink.file))
    (callbacks.flatMap (Callback.diagnostics sink.file))

theorem addCallbacks_nil (sink : Sink) : sink.addCallbacks [] = sink :=
  sink.add_nil

theorem addCallbacks_append (sink : Sink) (first second : List Callback) :
    (sink.addCallbacks first).addCallbacks second = sink.addCallbacks (first ++ second) := by
  simp [addCallbacks, List.flatMap_append]

end Sink

namespace Dispatcher

theorem foldl_record (registered : Registered) : ∀ (findings : List Finding) (sink : Sink),
    findings.foldl (record registered) sink =
      sink.add (findings.filterMap (Finding.violation? registered sink.file))
        (findings.filterMap (Finding.diagnostic? registered sink.file))
  | [], sink => sink.add_nil.symm
  | finding :: rest, sink => by
    have hstep : record registered sink finding =
        sink.add (finding.violation? registered sink.file).toList
          (finding.diagnostic? registered sink.file).toList := by
      cases finding <;>
        simp [record, Sink.addViolation, Sink.addDiagnostic, Sink.add, Finding.violation?,
          Finding.diagnostic?]
    rw [List.foldl_cons, foldl_record registered rest, hstep, Sink.file_add, Sink.add_add]
    cases finding <;> rfl

theorem recordFailure_eq (registered : Registered) (sink : Sink) (node : Node) (message : String) :
    recordFailure registered sink node message =
      sink.add [] [registered.failureDiagnostic sink.file node message] := by
  simp [recordFailure, Sink.addDiagnostic, Sink.add, Registered.failureDiagnostic]

/-! ## All checks side by side -/

namespace Active

/-- What a check at work is told of a visit, if it has not failed and wants to hear of it. -/
def callback? (file : String) (visit : Visit) : Active → Option Callback
  | ⟨registered, some state⟩ =>
    if registered.check.wants visit then some (registered.callback file visit state) else none
  | ⟨_, none⟩ => none

/-- A check at work after a visit. -/
def after (file : String) (visit : Visit) : Active → Active
  | ⟨registered, some state⟩ =>
    if registered.check.wants visit then
      ⟨registered, (registered.response file visit state).next.toOption⟩
    else ⟨registered, some state⟩
  | ⟨registered, none⟩ => ⟨registered, none⟩

/-- All that a check at work is told, if these are the visits. -/
def callbacks (file : String) : Active → List Visit → List Callback
  | _, [] => []
  | active, visit :: rest =>
    (active.callback? file visit).toList ++ (active.after file visit).callbacks file rest

variable {file : String}

@[simp]
theorem registered_after (visit : Visit) (active : Active) :
    (active.after file visit).registered = active.registered := by
  obtain ⟨registered, state | state⟩ := active
  · rfl
  · rw [after]
    split <;> rfl

/-- A check that does not want to hear of a visit is not told and stays as it is. -/
theorem of_not_wants (file : String) {visit : Visit} {active : Active}
    (h : active.registered.check.wants visit = false) :
    active.callback? file visit = none ∧ active.after file visit = active := by
  obtain ⟨registered, state | state⟩ := active
  · exact ⟨rfl, rfl⟩
  · have hnot : ¬ registered.check.wants visit = true := by
      rw [show registered.check.wants visit = false from h]
      exact Bool.false_ne_true
    exact ⟨if_neg hnot, if_neg hnot⟩

theorem visit_of_callback? {visit : Visit} {active : Active} {callback : Callback}
    (h : active.callback? file visit = some callback) : callback.visit = visit := by
  obtain ⟨registered, state | state⟩ := active
  · cases h
  · rw [callback?] at h
    split at h
    · cases h
      rfl
    · cases h

theorem visit_mem : ∀ {visits : List Visit} {active : Active} {callback : Callback},
    callback ∈ active.callbacks file visits → callback.visit ∈ visits
  | [], _, _, h => nomatch h
  | visit :: rest, active, callback, h => by
    rcases List.mem_append.mp h with h | h
    · rw [visit_of_callback? (Option.mem_toList.mp h)]
      exact List.mem_cons_self
    · exact List.mem_cons_of_mem _ (visit_mem h)

theorem callbacks_failed (registered : Registered) : ∀ visits : List Visit,
    callbacks file ⟨registered, none⟩ visits = []
  | [] => rfl
  | _ :: rest => callbacks_failed registered rest

/-- A check at work is told what it wants to hear of, up to and with the first failure. -/
theorem callbacks_eq (registered : Registered) : ∀ (visits : List Visit)
    (state : registered.check.State), callbacks file ⟨registered, some state⟩ visits =
      registered.callbacksFrom file state (visits.filter registered.check.wants)
  | [], _ => rfl
  | visit :: rest, state => by
    by_cases hwants : registered.check.wants visit = true
    · have ih := callbacks_eq registered rest
      rw [List.filter_cons_of_pos hwants, Registered.callbacksFrom, callbacks, callback?, after,
        if_pos hwants, if_pos hwants, Option.toList_some, List.singleton_append]
      congr 1
      cases (registered.response file visit state).next with
      | error failure => exact callbacks_failed registered rest
      | ok next => exact ih next
    · rw [List.filter_cons_of_neg hwants, callbacks, callback?, after, if_neg hwants,
        if_neg hwants, Option.toList_none, List.nil_append]
      exact callbacks_eq registered rest state

end Active

/-- What checks at work are told when each visit is offered to them in their order. -/
def merged (file : String) : List Active → List Visit → List Callback
  | _, [] => []
  | active, visit :: rest =>
    active.filterMap (Active.callback? file visit) ++
      merged file (active.map (Active.after file visit)) rest

/-- What checks are told, put in order by the visits, is what each of them is told on its own. -/
theorem merged_eq (file : String) : ∀ {visits : List Visit}, visits.Nodup →
    ∀ active : List Active, merged file active visits =
      visits.flatMap fun visit => active.flatMap fun one =>
        (one.callbacks file visits).filter (·.visit = visit)
  | [], _, _ => rfl
  | visit :: rest, hnodup, active => by
    obtain ⟨hnew, hrest⟩ := List.nodup_cons.mp hnodup
    have hhere : ∀ one : Active,
        (one.callbacks file (visit :: rest)).filter (·.visit = visit) =
          (one.callback? file visit).toList := by
      intro one
      rw [Active.callbacks, List.filter_append]
      have hlater : ((one.after file visit).callbacks file rest).filter (·.visit = visit) = [] := by
        refine List.filter_eq_nil_iff.mpr fun callback hmem hvisit => hnew ?_
        rw [← of_decide_eq_true hvisit]
        exact Active.visit_mem hmem
      rw [hlater, List.append_nil]
      refine List.filter_eq_self.mpr fun callback hmem => ?_
      exact decide_eq_true (Active.visit_of_callback? (Option.mem_toList.mp hmem))
    have hthere : ∀ later ∈ rest, ∀ one : Active,
        (one.callbacks file (visit :: rest)).filter (·.visit = later) =
          ((one.after file visit).callbacks file rest).filter (·.visit = later) := by
      intro later hlater one
      rw [Active.callbacks, List.filter_append]
      have hhead : (one.callback? file visit).toList.filter (·.visit = later) = [] := by
        refine List.filter_eq_nil_iff.mpr fun callback hmem hvisit => hnew ?_
        rw [← Active.visit_of_callback? (Option.mem_toList.mp hmem), of_decide_eq_true hvisit]
        exact hlater
      rw [hhead, List.nil_append]
    rw [merged, merged_eq file hrest, List.flatMap_cons]
    congr 1
    · rw [List.filterMap_eq_flatMap_toList]
      exact List.flatMap_congr fun one _ => (hhere one).symm
    · refine List.flatMap_congr fun later hlater => ?_
      rw [List.flatMap_map]
      exact List.flatMap_congr fun one _ => (hthere later hlater one).symm

/-! ## One step -/

/-- Telling one check of a visit that it wants to hear of. -/
theorem tell_eq {visit : Visit} {active : List Active} {sink : Sink} {index : Nat} {one : Active}
    (hone : active[index]? = some one) (hwants : one.registered.check.wants visit = true) :
    tell visit ⟨active, sink⟩ index =
      ⟨active.set index (one.after sink.file visit),
        sink.addCallbacks (one.callback? sink.file visit).toList⟩ := by
  obtain ⟨registered, state | state⟩ := one
  · -- a check that has failed is passed over
    have hset : active.set index ⟨registered, none⟩ = active := by
      obtain ⟨hlt, heq⟩ := List.getElem?_eq_some_iff.mp hone
      rw [← heq]
      exact List.set_getElem_self hlt
    simp only [tell, hone, Active.after, Active.callback?, hset, Option.toList_none,
      Sink.addCallbacks_nil]
  · have hwants' : registered.check.wants visit = true := hwants
    simp only [tell, hone, foldl_record, Active.after, Active.callback?, if_pos hwants',
      Option.toList_some, Sink.addCallbacks, List.flatMap_singleton, Callback.violations,
      Callback.diagnostics, Registered.callback, Registered.response, Registered.context,
      Response.failure?]
    cases (registered.check.react ⟨registered.check.key, registered.severity, sink.file⟩ visit
      state).next with
    | ok next =>
      simp only [Option.toList_none, List.map_nil, List.append_nil]
      rfl
    | error failure =>
      simp only [Option.toList_some, List.map_cons, List.map_nil, recordFailure_eq, Sink.add_add,
        List.append_nil]
      rfl

/-- Telling checks of a visit, from some place on. Those before that place were told already. -/
theorem foldl_tell (visit : Visit) : ∀ (todo done : List Active) (sink : Sink),
    (todo.findIdxs (fun one => one.registered.check.wants visit) done.length).foldl (tell visit)
        ⟨done ++ todo, sink⟩ =
      ⟨done ++ todo.map (Active.after sink.file visit),
        sink.addCallbacks (todo.filterMap (Active.callback? sink.file visit))⟩
  | [], done, sink => by
    rw [List.findIdxs_nil, List.filterMap_nil, Sink.addCallbacks_nil]
    rfl
  | one :: rest, done, sink => by
    rw [List.findIdxs_cons]
    by_cases hwants : one.registered.check.wants visit = true
    · have hone : (done ++ one :: rest)[done.length]? = some one := by simp
      have hset : (done ++ one :: rest).set done.length (one.after sink.file visit) =
          (done ++ [one.after sink.file visit]) ++ rest := by simp
      have ih := foldl_tell visit rest (done ++ [one.after sink.file visit])
        (sink.addCallbacks (one.callback? sink.file visit).toList)
      rw [List.length_append, List.length_singleton] at ih
      rw [if_pos hwants, List.foldl_cons, tell_eq hone hwants, hset, ih, Sink.addCallbacks_append]
      simp only [Sink.addCallbacks, Sink.file_add, List.map_cons, List.append_assoc,
        List.singleton_append, List.filterMap_cons]
      cases one.callback? sink.file visit <;> rfl
    · obtain ⟨hsilent, hsame⟩ := Active.of_not_wants sink.file (Bool.not_eq_true _ ▸ hwants)
      have ih := foldl_tell visit rest (done ++ [one]) sink
      rw [List.length_append, List.length_singleton, List.append_assoc, List.append_assoc] at ih
      rw [if_neg hwants, List.map_cons, hsame, List.filterMap_cons_none hsilent]
      exact ih

/-- **One step.** Told of a visit, every check moves on independently of the others, and what they
report is kept in the order of their registration. -/
theorem notify_eq {dispatcher : Dispatcher} (exact : dispatcher.Exact) {active : List Active}
    (hactive : active.map (·.registered) = dispatcher.checks) (sink : Sink) (visit : Visit) :
    dispatcher.notify ⟨active, sink⟩ visit =
      ⟨active.map (Active.after sink.file visit),
        sink.addCallbacks (active.filterMap (Active.callback? sink.file visit))⟩ := by
  have hindices : (dispatcher.subscribers visit.event).indices visit.node.kind =
      active.findIdxs (fun one => one.registered.check.wants visit) 0 := by
    rw [exact, ← hactive, List.findIdxs_map]
    rfl
  have hfold : dispatcher.notify ⟨active, sink⟩ visit =
      ((dispatcher.subscribers visit.event).indices visit.node.kind).foldl (tell visit)
        ⟨active, sink⟩ := by
    unfold notify Subscribers.indices
    cases (dispatcher.subscribers visit.event).get? visit.node.kind <;> rfl
  rw [hfold, hindices]
  exact foldl_tell visit active [] sink

/-- **A whole run.** -/
theorem foldl_notify {dispatcher : Dispatcher} (exact : dispatcher.Exact) :
    ∀ (visits : List Visit) {active : List Active} (sink : Sink),
      active.map (·.registered) = dispatcher.checks →
      (visits.foldl dispatcher.notify ⟨active, sink⟩).sink =
        sink.addCallbacks (merged sink.file active visits)
  | [], _, sink, _ => sink.addCallbacks_nil.symm
  | visit :: rest, active, sink, hactive => by
    have hafter : (active.map (Active.after sink.file visit)).map (·.registered) =
        dispatcher.checks := by
      rw [List.map_map, ← hactive]
      exact List.map_congr_left fun one _ => Active.registered_after visit one
    rw [List.foldl_cons, notify_eq exact hactive, foldl_notify exact rest _ hafter,
      Sink.addCallbacks_append]
    rfl

/-! ## The start -/

/-- A check when a file is started. -/
def Active.starting (registered : Registered) : Active :=
  ⟨registered, registered.check.start.toOption⟩

theorem Active.callbacks_starting (registered : Registered) (file : String) (visits : List Visit) :
    (Active.starting registered).callbacks file visits = registered.callbacks file visits := by
  unfold Active.starting Registered.callbacks
  cases registered.check.start with
  | error crash => exact Active.callbacks_failed registered visits
  | ok state => exact Active.callbacks_eq registered visits state

theorem foldl_startCheck (root : Node) : ∀ (checks : List Registered) (active : List Active)
    (sink : Sink), checks.foldl (startCheck root) ⟨active, sink⟩ =
      ⟨active ++ checks.map Active.starting,
        sink.add [] (checks.flatMap fun registered => registered.startDiagnostics sink.file root)⟩
  | [], active, sink => by simp
  | registered :: rest, active, sink => by
    rw [List.foldl_cons, startCheck, List.map_cons, List.flatMap_cons]
    unfold Active.starting Registered.startDiagnostics
    cases registered.check.start with
    | ok state =>
      rw [foldl_startCheck root rest]
      simp [Except.toOption, Registered.startDiagnostics, Active.starting]
    | error crash =>
      simp only [recordFailure_eq]
      rw [foldl_startCheck root rest]
      simp [Except.toOption, Registered.startDiagnostics, Active.starting]

/-! ## The law -/

/-- A walk that leaves out visits nobody wants to hear of tells the checks as much as the tour. -/
theorem walk_notify {tree : SyntaxTree} (wf : Arena.WellFormed tree.nodes) (dispatcher : Dispatcher)
    (running : Running) :
    tree.walk dispatcher.onLeave.contains dispatcher.notify running =
      tree.tour.foldl dispatcher.notify running := by
  rw [SyntaxTree.walk_eq_foldl wf, List.foldl_filter]
  congr 1
  funext running visit
  by_cases hhanded : Visit.isHandedOn dispatcher.onLeave.contains visit = true
  · rw [if_pos hhanded]
  · rw [if_neg hhanded]
    obtain ⟨event, node⟩ := visit
    simp only [Visit.isHandedOn, Subscribers.contains, Bool.or_eq_true, beq_iff_eq, not_or,
      Option.isSome_iff_ne_none, ne_eq, not_not] at hhanded
    obtain ⟨hevent, hnone⟩ := hhanded
    cases event with
    | enter => exact absurd rfl hevent
    | leave =>
      have hget : (dispatcher.subscribers .leave).get? node.kind = none := hnone
      simp only [notify, hget]

/-- **A run gives the report of the tour.** -/
theorem run_eq_tourReport {tree : SyntaxTree} (wf : Arena.WellFormed tree.nodes)
    {dispatcher : Dispatcher} (exact : dispatcher.Exact) (file : String) :
    dispatcher.run tree file = tourReport dispatcher.checks tree file := by
  have hactive : (dispatcher.checks.map Active.starting).map (·.registered) = dispatcher.checks := by
    rw [List.map_map]
    exact List.map_id _
  have hmerged : merged file (dispatcher.checks.map Active.starting) tree.tour =
      tree.tour.flatMap fun visit => dispatcher.checks.flatMap fun registered =>
        (registered.callbacks file tree.tour).filter (·.visit = visit) := by
    rw [merged_eq file (SyntaxTree.nodup_tour wf)]
    simp only [List.flatMap_map, Active.callbacks_starting]
  unfold run start
  rw [walk_notify wf, foldl_startCheck, List.nil_append, foldl_notify exact _ _ hactive, Sink.addCallbacks,
    Sink.add_add, Sink.report_add_empty, Sink.file_add]
  show FileReport.mk file ([] ++ (merged file _ _).flatMap _) (_ ++ (merged file _ _).flatMap _) = _
  rw [hmerged, List.nil_append]
  simp only [List.flatMap_assoc]
  rfl

/-- **A run of accepted checks gives the report of the tour.** -/
theorem run_of_build {tree : SyntaxTree} (built : tree.Built)
    {registrations : List (Check × Option Severity)} {dispatcher : Dispatcher}
    (accepted : build registrations = .ok dispatcher) (file : String) :
    dispatcher.run tree file = tourReport (registrations.map Registered.of) tree file := by
  obtain ⟨exact, hchecks⟩ := build_spec accepted
  rw [run_eq_tourReport built.wellFormed exact, hchecks]

/-! ## A single check -/

theorem merged_singleton {file : String} : ∀ (visits : List Visit) (one : Active),
    merged file [one] visits = one.callbacks file visits
  | [], _ => rfl
  | visit :: rest, one => by
    rw [merged, Active.callbacks, List.map_singleton, merged_singleton rest,
      List.filterMap_eq_flatMap_toList, List.flatMap_singleton]

/-- What is told to a check, put in order by the visits, is in order already. -/
theorem flatMap_callbacks {visits : List Visit} (hnodup : visits.Nodup) (registered : Registered)
    (file : String) :
    (visits.flatMap fun visit => (registered.callbacks file visits).filter (·.visit = visit)) =
      registered.callbacks file visits := by
  have h := merged_eq file hnodup [Active.starting registered]
  rw [merged_singleton, Active.callbacks_starting] at h
  refine Eq.trans ?_ h.symm
  refine List.flatMap_congr fun visit _ => ?_
  rw [List.flatMap_singleton, Active.callbacks_starting]

/-- **The report of a single check.** -/
theorem tourReport_singleton {tree : SyntaxTree} (wf : Arena.WellFormed tree.nodes)
    (registered : Registered) (file : String) :
    tourReport [registered] tree file =
      ⟨file, (registered.callbacks file tree.tour).flatMap (Callback.violations file),
        registered.startDiagnostics file tree.root ++
          (registered.callbacks file tree.tour).flatMap (Callback.diagnostics file)⟩ := by
  have h := flatMap_callbacks (SyntaxTree.nodup_tour wf) registered file
  unfold tourReport
  simp only [List.flatMap_singleton]
  rw [← List.flatMap_assoc, ← List.flatMap_assoc, h]

/-! ## Following the tour -/

/-- **What it is for a run to follow the tour of a tree.** -/
structure FollowsTour (registrations : List (Check × Option Severity)) (dispatcher : Dispatcher)
    (tree : SyntaxTree) (file : String) : Prop where
  /-- The tour is the plain recursion: enter a node, tour its children from first to last, leave the
  node. -/
  tour_eq : ∀ node : Node, node.tree = tree →
    node.tour = ⟨.enter, node⟩ :: node.children.flatMap Node.tour ++ [⟨.leave, node⟩]
  /-- The stack goes through the visits of the tour, less those of leaving nodes of which nobody wants
  to hear. -/
  walk_eq : ∀ wantsLeave : NodeKind → Bool,
    tree.walk wantsLeave (fun visits visit => visits ++ [visit]) [] =
      tree.tour.filter fun visit => visit.event == .enter || wantsLeave visit.node.kind
  /-- All that is reported is kept, by the visits of the tour and then by the order of the checks. -/
  run_eq : dispatcher.run tree file = tourReport (registrations.map Registered.of) tree file
  /-- A check is told of visits it wants to hear of, in the order of the tour. -/
  told_inOrder : ∀ registered ∈ registrations.map Registered.of,
    (registered.callbacks file tree.tour).map (·.visit) <+:
      tree.tour.filter fun visit => registered.check.subscriptions.contains visit.node.kind &&
        (visit.event == .enter || registered.check.visitsLeave)
  /-- It is told of all of them if it does not fail. -/
  told_all : ∀ registered ∈ registrations.map Registered.of,
    registered.failure? file tree.root tree.tour = none →
      (registered.callbacks file tree.tour).map (·.visit) =
        tree.tour.filter fun visit => registered.check.subscriptions.contains visit.node.kind &&
          (visit.event == .enter || registered.check.visitsLeave)
  /-- It is told nothing more once it has failed. -/
  told_last : ∀ registered ∈ registrations.map Registered.of,
    ∀ callback ∈ (registered.callbacks file tree.tour).dropLast, callback.failure = none
  /-- It is told nothing if it fails at the start. -/
  told_nothing : ∀ registered ∈ registrations.map Registered.of, ∀ crash,
    registered.check.start = .error crash → registered.callbacks file tree.tour = []
  /-- A check that fails leaves one diagnostic that says so, at the node where it fails, and a check
  that does not fail leaves none. -/
  failed : ∀ registered ∈ registrations.map Registered.of,
    ((dispatcher.run tree file).diagnostics.filter fun diagnostic =>
        diagnostic.kind = .checkFailed ∧ diagnostic.code = registered.check.key) =
      (registered.failure? file tree.root tree.tour).toList.map fun (node, message) =>
        ⟨registered.check.key, .checkFailed, ⟨file, node.line, node.column⟩, message⟩

theorem nodup_keys {registrations : List (Check × Option Severity)} (h : Acceptable registrations) :
    ((registrations.map Registered.of).map fun registered => registered.check.key).Nodup := by
  rw [List.map_map]
  exact h.keys_nodup

/-- **Every run follows the tour**: for every tree that the program can have, every accepted list of
checks and arbitrary visitors. -/
theorem run_refines_tour {tree : SyntaxTree} (built : tree.Built)
    {registrations : List (Check × Option Severity)} {dispatcher : Dispatcher}
    (accepted : build registrations = .ok dispatcher) (file : String) :
    FollowsTour registrations dispatcher tree file := by
  have wf := built.wellFormed
  have hrun := run_of_build built accepted file
  refine ⟨?_, ?_, hrun, ?_, ?_, ?_, ?_, ?_⟩
  · rintro node rfl
    exact Node.tour_eq wf
  · intro wantsLeave
    rw [SyntaxTree.walk_eq_foldl wf, List.foldl_append_eq_append, List.nil_append,
      ← List.flatMap_def, List.flatMap_singleton']
    rfl
  · intro registered _
    exact Registered.map_visit_callbacks_isPrefix registered file tree.tour
  · intro registered _ hnone
    exact Registered.map_visit_callbacks hnone
  · intro registered _ callback hmem
    exact Registered.failure_of_mem_dropLast_callbacks hmem
  · intro registered _ crash hstart
    unfold Registered.callbacks
    rw [hstart]
  · intro registered hmem
    have hnodup := nodup_keys (exists_build_iff.mp ⟨dispatcher, accepted⟩)
    have hown := filter_diagnostics (fun code => decide (code = registered.check.key))
      (registrations.map Registered.of) tree file
    rw [filter_key_eq_singleton hnodup hmem, tourReport_singleton wf] at hown
    simp only [Bool.decide_and]
    rw [hrun, ← List.filter_filter, hown, filter_checkFailed_of_check]
    rfl

/-- A check that reports all it is told about blocks and numbers. A brittle one fails, having reported,
at the first of them that is left. -/
def watcher (key : String) (brittle : Bool) : Check where
  key := key
  name := "watcher"
  description := "Reports blocks and numbers"
  severity := .minor
  message := "\x7b0\x7d"
  subscriptions := [.block, .octal]
  visitsLeave := true
  State := Nat
  start := .ok 0
  react := fun _ visit count =>
    ⟨[.report visit.node [visit.node.kind.name]],
      if brittle && visit.event == .leave then .error (.error "gave up") else .ok (count + 1)⟩

/-- A brittle check and one that goes on. -/
def watchers : List (Check × Option Severity) :=
  [(watcher "W1" true, none), (watcher "W2" false, some .info)]

theorem exists_build_watchers : ∃ dispatcher, build watchers = .ok dispatcher :=
  exists_build_iff.mpr ⟨by decide, by decide, by decide⟩

theorem watchers_followTour :
    TreeBuilder.troubledTree.Built ∧ ∃ dispatcher, build watchers = .ok dispatcher ∧
      FollowsTour watchers dispatcher TreeBuilder.troubledTree "A.as" := by
  have built : TreeBuilder.troubledTree.Built := .ofRequests _ TreeBuilder.troubledTree_mem
  obtain ⟨dispatcher, accepted⟩ := exists_build_watchers
  exact ⟨built, dispatcher, accepted, run_refines_tour built accepted "A.as"⟩

end Dispatcher

end TreeLint
