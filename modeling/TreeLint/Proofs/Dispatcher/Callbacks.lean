import TreeLint.Proofs.Dispatcher.Registration
import TreeLint.Proofs.Tree.Tour

/-!
# What a check is told

Each check is on its own: it is told of the visits of a tour that it wants to hear of, one after the
other, up to and with the first at which it fails (`Registered.callbacks`). A report puts together what
the callbacks report, by the visits of the tour and, for each visit, by the order in which the checks are
registered (`Dispatcher.tourReport`). Nothing here walks a tree or keeps a table; that a run of a
dispatcher gives this report is shown in `TreeLint.Proofs.Dispatcher.Run`.

Three things are read off the report. A check is cut off right after its first failure and not before
(`Registered.map_visit_callbacks`). Keeping the entries of some keys is running the checks that have these
keys (`Dispatcher.filter_violations`, `Dispatcher.filter_diagnostics`). A check that fails leaves one
diagnostic that says so, and a check that does not fail leaves none
(`Dispatcher.filter_checkFailed_of_check`).

The visitors are arbitrary: nothing is assumed about what they report, when they fail, or what they
remember.
-/

namespace TreeLint

deriving instance DecidableEq for SyntaxTree
deriving instance DecidableEq for Node
deriving instance DecidableEq for Visit

/-! ## One check on its own -/

/-- Whether a check wants to hear of a visit. -/
def Check.wants (check : Check) (visit : Visit) : Bool :=
  check.hearsOf visit.event visit.node.kind

/-- Why a visitor does not go on, if it does not. -/
def Response.failure? {σ : Type} (response : Response σ) : Option Failure :=
  match response.next with
  | .ok _ => none
  | .error failure => some failure

/-- One time that a check is told of a visit. -/
structure Callback where
  registered : Registered
  visit : Visit
  findings : List Finding
  failure : Option Failure

namespace Registered

/-- What a check knows about its surroundings in a file. -/
def context (registered : Registered) (file : String) : Context :=
  ⟨registered.check.key, registered.severity, file⟩

/-- The answer of a check to a visit. -/
def response (registered : Registered) (file : String) (visit : Visit)
    (state : registered.check.State) : Response registered.check.State :=
  registered.check.react (registered.context file) visit state

/-- Telling a check of a visit. -/
def callback (registered : Registered) (file : String) (visit : Visit)
    (state : registered.check.State) : Callback :=
  ⟨registered, visit, (registered.response file visit state).findings,
    (registered.response file visit state).failure?⟩

/-- Telling a check of visits, one after the other, up to and with the first at which it fails. -/
def callbacksFrom (registered : Registered) (file : String) :
    registered.check.State → List Visit → List Callback
  | _, [] => []
  | state, visit :: rest =>
    registered.callback file visit state ::
      match (registered.response file visit state).next with
      | .ok after => registered.callbacksFrom file after rest
      | .error _ => []

/-- All that a check is told, if these are the visits: those it wants to hear of, until it fails. It is
told nothing if it fails at the start. -/
def callbacks (registered : Registered) (file : String) (visits : List Visit) : List Callback :=
  match registered.check.start with
  | .ok state => registered.callbacksFrom file state (visits.filter registered.check.wants)
  | .error _ => []

/-- Where a check fails, and with what message, if these are the visits: at the root if it fails at the
start, or else at the node of the last thing it is told. -/
def failure? (registered : Registered) (file : String) (root : Node) (visits : List Visit) :
    Option (Node × String) :=
  match registered.check.start with
  | .ok _ => (registered.callbacks file visits).getLast?.bind fun last =>
      last.failure.map fun failure => (last.visit.node, failure.message)
  | .error crash => some (root, crash.message)

/-- The diagnostic for a check that fails at a node. -/
def failureDiagnostic (registered : Registered) (file : String) (node : Node) (message : String) :
    ToolDiagnostic :=
  ⟨registered.check.key, .checkFailed, ⟨file, node.line, node.column⟩, message⟩

/-- The diagnostics for the start of a check: one at the root if it fails. -/
def startDiagnostics (registered : Registered) (file : String) (root : Node) : List ToolDiagnostic :=
  match registered.check.start with
  | .ok _ => []
  | .error crash => [registered.failureDiagnostic file root crash.message]

end Registered

/-- The violation that a finding of a check makes. -/
def Finding.violation? (registered : Registered) (file : String) : Finding → Option Violation
  | .report node args =>
    some ⟨registered.check.key, registered.check.name, registered.severity,
      ⟨file, node.line, node.column⟩, Message.fill registered.check.message args⟩
  | .message node text =>
    some ⟨registered.check.key, registered.check.name, registered.severity,
      ⟨file, node.line, node.column⟩, text⟩
  | .malformed _ _ => none

/-- The diagnostic that a finding of a check makes. -/
def Finding.diagnostic? (registered : Registered) (file : String) : Finding → Option ToolDiagnostic
  | .malformed node detail =>
    some ⟨registered.check.key, .malformedTree, ⟨file, node.line, node.column⟩,
      s!"{node.kind.name}: {detail}"⟩
  | _ => none

namespace Callback

/-- The violations of a callback. -/
def violations (file : String) (callback : Callback) : List Violation :=
  callback.findings.filterMap (Finding.violation? callback.registered file)

/-- The diagnostics of a callback. That of a failure comes after what the check reported. -/
def diagnostics (file : String) (callback : Callback) : List ToolDiagnostic :=
  callback.findings.filterMap (Finding.diagnostic? callback.registered file) ++
    callback.failure.toList.map fun failure =>
      callback.registered.failureDiagnostic file callback.visit.node failure.message

end Callback

/-- **What a run comes to.** The visits of the tour in order, for each of them the checks in the order
of their registration, and for each of these what it reports when it is told of the visit. Checks that
fail at the start come before all that. -/
def Dispatcher.tourReport (checks : List Registered) (tree : SyntaxTree) (file : String) :
    FileReport where
  file := file
  violations := tree.tour.flatMap fun visit => checks.flatMap fun registered =>
    ((registered.callbacks file tree.tour).filter (·.visit = visit)).flatMap
      (Callback.violations file)
  diagnostics :=
    checks.flatMap (fun registered => registered.startDiagnostics file tree.root) ++
      tree.tour.flatMap fun visit => checks.flatMap fun registered =>
        ((registered.callbacks file tree.tour).filter (·.visit = visit)).flatMap
          (Callback.diagnostics file)

/-! ## Being cut off -/

namespace Registered

variable {registered : Registered} {file : String}

/-- A check is told of visits in their order, and it is told of all of them unless it fails. -/
theorem map_visit_callbacksFrom : ∀ (visits : List Visit) (state : registered.check.State),
    (registered.callbacksFrom file state visits).map (·.visit) <+: visits ∧
      ((∀ callback ∈ registered.callbacksFrom file state visits, callback.failure = none) →
        (registered.callbacksFrom file state visits).map (·.visit) = visits)
  | [], _ => ⟨List.prefix_rfl, fun _ => rfl⟩
  | visit :: rest, state => by
    unfold callbacksFrom
    cases hnext : (registered.response file visit state).next with
    | error failure =>
      refine ⟨List.prefix_cons_inj visit |>.mpr (List.nil_prefix), fun hall => ?_⟩
      have hfailure := hall _ List.mem_cons_self
      simp only [callback, Response.failure?, hnext, reduceCtorEq] at hfailure
    | ok after =>
      obtain ⟨hinitial, hwhole⟩ := map_visit_callbacksFrom rest after
      refine ⟨List.prefix_cons_inj visit |>.mpr hinitial, fun hall => ?_⟩
      exact congrArg (visit :: ·)
        (hwhole fun callback hmem => hall callback (List.mem_cons_of_mem _ hmem))

/-- A check fails at most once, and then it is told nothing more. -/
theorem failure_of_mem_dropLast : ∀ (visits : List Visit) (state : registered.check.State),
    ∀ callback ∈ (registered.callbacksFrom file state visits).dropLast, callback.failure = none
  | [], _, callback, hmem => nomatch hmem
  | visit :: rest, state, callback, hmem => by
    unfold callbacksFrom at hmem
    cases hnext : (registered.response file visit state).next with
    | error failure =>
      rw [hnext] at hmem
      cases hmem
    | ok after =>
      rw [hnext] at hmem
      cases htail : registered.callbacksFrom file after rest with
      | nil =>
        simp only [htail] at hmem
        cases hmem
      | cons next others =>
        simp only [htail, List.dropLast_cons_cons] at hmem
        rcases List.mem_cons.mp hmem with rfl | hmem
        · simp only [Registered.callback, Response.failure?, hnext]
        · refine failure_of_mem_dropLast rest after callback ?_
          rw [htail]
          exact hmem

/-- A check that starts is told what it wants to hear of; one that does not is told nothing. -/
theorem callbacks_cases (registered : Registered) (file : String) (visits : List Visit) :
    (∃ state, registered.check.start = .ok state ∧ registered.callbacks file visits =
      registered.callbacksFrom file state (visits.filter registered.check.wants)) ∨
    (∃ crash, registered.check.start = .error crash ∧ registered.callbacks file visits = []) := by
  unfold Registered.callbacks
  cases registered.check.start with
  | ok state => exact .inl ⟨state, rfl, rfl⟩
  | error crash => exact .inr ⟨crash, rfl, rfl⟩

/-- **A check is told of visits that it wants to hear of, in order.** -/
theorem map_visit_callbacks_isPrefix (registered : Registered) (file : String) (visits : List Visit) :
    (registered.callbacks file visits).map (·.visit) <+: visits.filter registered.check.wants := by
  rcases callbacks_cases registered file visits with ⟨state, _, htold⟩ | ⟨crash, _, htold⟩
  · rw [htold]
    exact (map_visit_callbacksFrom _ state).1
  · rw [htold]
    exact List.nil_prefix

/-- **Nothing is told after a failure.** -/
theorem failure_of_mem_dropLast_callbacks {visits : List Visit} {callback : Callback}
    (h : callback ∈ (registered.callbacks file visits).dropLast) : callback.failure = none := by
  rcases callbacks_cases registered file visits with ⟨state, _, htold⟩ | ⟨crash, _, htold⟩
  · rw [htold] at h
    exact failure_of_mem_dropLast _ state callback h
  · rw [htold] at h
    cases h

/-- **A check that does not fail is told of all the visits that it wants to hear of.** -/
theorem map_visit_callbacks {root : Node} {visits : List Visit}
    (hnone : registered.failure? file root visits = none) :
    (registered.callbacks file visits).map (·.visit) = visits.filter registered.check.wants := by
  unfold failure? at hnone
  rcases callbacks_cases registered file visits with ⟨state, hstart, htold⟩ | ⟨crash, hstart, _⟩
  · rw [hstart] at hnone
    rw [htold]
    refine (map_visit_callbacksFrom _ state).2 fun callback hmem => ?_
    rw [← htold] at hmem
    -- either it is not the last one, or it is the one in which a failure would show
    rcases List.eq_nil_or_concat (registered.callbacks file visits) with hnil | ⟨earlier, last, hlast⟩
    · rw [hnil] at hmem
      cases hmem
    · rw [List.concat_eq_append] at hlast
      rw [hlast, List.mem_append, List.mem_singleton] at hmem
      rcases hmem with hmem | rfl
      · have hearlier : callback ∈ (registered.callbacks file visits).dropLast := by
          rw [hlast, List.dropLast_concat]
          exact hmem
        exact failure_of_mem_dropLast_callbacks hearlier
      · rw [hlast, List.getLast?_append] at hnone
        simpa using hnone
  · rw [hstart] at hnone
    cases hnone

end Registered

/-! ## Remembering the path -/

namespace Registered

/-- **A visitor that remembers the path.** All it knows at a visit is a function of the nodes that are
then open, and it never fails. -/
structure RemembersPath (registered : Registered) (file : String) (tree : SyntaxTree)
    (memory : List Node → registered.check.State) : Prop where
  start : registered.check.start = .ok (memory [])
  /-- Told of a visit, it knows the nodes that are open afterwards. -/
  told : ∀ visit : Visit, visit.node.tree = tree → registered.check.wants visit = true →
    (registered.response file visit (memory visit.path)).next = .ok (memory visit.pathAfter)
  passed : ∀ visit : Visit, visit.node.tree = tree → registered.check.wants visit = false →
    memory visit.path = memory visit.pathAfter

variable {registered : Registered} {file : String} {tree : SyntaxTree}
  {memory : List Node → registered.check.State}

theorem RemembersPath.callbacksFrom (h : registered.RemembersPath file tree memory) :
    ∀ {visits : List Visit} {path stop : List Node}, (∀ visit ∈ visits, visit.node.tree = tree) →
      Visit.Leads path visits stop →
      registered.callbacksFrom file (memory path) (visits.filter registered.check.wants) =
        (visits.filter registered.check.wants).map fun visit =>
          registered.callback file visit (memory visit.path)
  | [], _, _, _, _ => rfl
  | visit :: rest, path, stop, htree, hleads => by
    obtain ⟨rfl, hrest⟩ := hleads
    have hhere : visit.node.tree = tree := htree visit List.mem_cons_self
    have ih := h.callbacksFrom (fun later hmem => htree later (List.mem_cons_of_mem _ hmem)) hrest
    cases hwants : registered.check.wants visit with
    | true =>
      rw [List.filter_cons_of_pos hwants, List.map_cons, Registered.callbacksFrom,
        h.told visit hhere hwants]
      exact congrArg (_ :: ·) ih
    | false =>
      rw [List.filter_cons_of_neg (hwants ▸ Bool.false_ne_true), h.passed visit hhere hwants]
      exact ih

/-- **What a visitor that remembers the path is told**: all that it wants to hear of, each time with the
memory of the nodes that are open. -/
theorem RemembersPath.callbacks (h : registered.RemembersPath file tree memory)
    (wf : Arena.WellFormed tree.nodes) :
    registered.callbacks file tree.tour =
      (tree.tour.filter registered.check.wants).map fun visit =>
        registered.callback file visit (memory visit.path) := by
  unfold Registered.callbacks
  rw [h.start]
  exact h.callbacksFrom (fun visit hmem => SyntaxTree.tree_of_mem_tour wf hmem)
    (SyntaxTree.leads_tour wf)

end Registered

namespace Dispatcher

/-! ## Whose entry it is -/

section Codes

variable {file : String}

theorem registered_of_mem_callbacksFrom {registered : Registered} : ∀ {visits : List Visit}
    {state : registered.check.State} {callback : Callback},
      callback ∈ registered.callbacksFrom file state visits → callback.registered = registered
  | [], _, _, h => nomatch h
  | visit :: rest, state, callback, h => by
    rw [Registered.callbacksFrom] at h
    rcases List.mem_cons.mp h with rfl | h
    · rfl
    · cases hnext : (registered.response file visit state).next with
      | error failure =>
        rw [hnext] at h
        cases h
      | ok after =>
        rw [hnext] at h
        exact registered_of_mem_callbacksFrom h

theorem registered_of_mem_callbacks {registered : Registered} {visits : List Visit}
    {callback : Callback} (h : callback ∈ registered.callbacks file visits) :
    callback.registered = registered := by
  unfold Registered.callbacks at h
  split at h
  · exact registered_of_mem_callbacksFrom h
  · cases h

theorem code_of_mem_violations {callback : Callback} {violation : Violation}
    (h : violation ∈ callback.violations file) :
    violation.code = callback.registered.check.key := by
  obtain ⟨finding, _, hviolation⟩ := List.mem_filterMap.mp h
  cases finding <;> cases hviolation <;> rfl

theorem code_of_mem_diagnostics {callback : Callback} {diagnostic : ToolDiagnostic}
    (h : diagnostic ∈ callback.diagnostics file) :
    diagnostic.code = callback.registered.check.key := by
  rcases List.mem_append.mp h with h | h
  · obtain ⟨finding, _, hdiagnostic⟩ := List.mem_filterMap.mp h
    cases finding <;> cases hdiagnostic
    rfl
  · obtain ⟨failure, _, rfl⟩ := List.mem_map.mp h
    rfl

theorem code_of_mem_startDiagnostics {registered : Registered} {root : Node}
    {diagnostic : ToolDiagnostic} (h : diagnostic ∈ registered.startDiagnostics file root) :
    diagnostic.code = registered.check.key := by
  unfold Registered.startDiagnostics at h
  split at h
  · cases h
  · obtain rfl := List.mem_singleton.mp h
    rfl

/-- Keeping the entries of some keys is keeping the checks that have these keys. -/
theorem filter_flatMap_code {ε : Type} (code : ε → String) {entries : Registered → List ε}
    (hcode : ∀ registered, ∀ entry ∈ entries registered, code entry = registered.check.key)
    (keep : String → Bool) (checks : List Registered) :
    (checks.flatMap entries).filter (fun entry => keep (code entry)) =
      (checks.filter fun registered => keep registered.check.key).flatMap entries := by
  induction checks with
  | nil => rfl
  | cons registered rest ih =>
    rw [List.flatMap_cons, List.filter_append, ih, List.filter_cons]
    cases hkeep : keep registered.check.key with
    | true =>
      rw [if_pos rfl, List.flatMap_cons]
      congr 1
      refine List.filter_eq_self.mpr fun entry hmem => ?_
      rw [hcode registered entry hmem]
      exact hkeep
    | false =>
      have hnone : (entries registered).filter (fun entry => keep (code entry)) = [] := by
        refine List.filter_eq_nil_iff.mpr fun entry hmem => ?_
        rw [hcode registered entry hmem, hkeep]
        exact Bool.false_ne_true
      rw [hnone, List.nil_append, if_neg Bool.false_ne_true]

/-- **Keeping the violations of some keys is running the checks that have these keys.** -/
theorem filter_violations (keep : String → Bool) (checks : List Registered) (tree : SyntaxTree)
    (file : String) :
    (tourReport checks tree file).violations.filter (fun violation => keep violation.code) =
      (tourReport (checks.filter fun registered => keep registered.check.key) tree file).violations := by
  unfold tourReport
  rw [List.filter_flatMap]
  refine List.flatMap_congr fun visit _ => filter_flatMap_code Violation.code ?_ keep checks
  intro registered violation hmem
  obtain ⟨callback, hcallback, hviolation⟩ := List.mem_flatMap.mp hmem
  rw [code_of_mem_violations hviolation,
    registered_of_mem_callbacks (List.mem_of_mem_filter hcallback)]

/-- **Keeping the diagnostics of some keys is running the checks that have these keys.** -/
theorem filter_diagnostics (keep : String → Bool) (checks : List Registered) (tree : SyntaxTree)
    (file : String) :
    (tourReport checks tree file).diagnostics.filter (fun diagnostic => keep diagnostic.code) =
      (tourReport (checks.filter fun registered => keep registered.check.key) tree file).diagnostics := by
  unfold tourReport
  rw [List.filter_append]
  congr 1
  · exact filter_flatMap_code ToolDiagnostic.code
      (fun registered diagnostic hmem => code_of_mem_startDiagnostics hmem) keep checks
  · rw [List.filter_flatMap]
    refine List.flatMap_congr fun visit _ => filter_flatMap_code ToolDiagnostic.code ?_ keep checks
    intro registered diagnostic hmem
    obtain ⟨callback, hcallback, hdiagnostic⟩ := List.mem_flatMap.mp hmem
    rw [code_of_mem_diagnostics hdiagnostic,
      registered_of_mem_callbacks (List.mem_of_mem_filter hcallback)]

/-- Among checks with different keys, only one has the key of a given one. -/
theorem filter_key_eq_singleton : ∀ {checks : List Registered},
    (checks.map fun registered => registered.check.key).Nodup →
      ∀ {registered : Registered}, registered ∈ checks →
        (checks.filter fun other => other.check.key = registered.check.key) = [registered]
  | first :: rest, hnodup, registered, hmem => by
    obtain ⟨hfirst, hrest⟩ := List.nodup_cons.mp hnodup
    rcases List.mem_cons.mp hmem with rfl | hmem
    · rw [List.filter_cons, if_pos (decide_eq_true rfl)]
      congr 1
      refine List.filter_eq_nil_iff.mpr fun other hother hkey => hfirst ?_
      exact List.mem_map.mpr ⟨other, hother, of_decide_eq_true hkey⟩
    · have hother : ¬ decide (first.check.key = registered.check.key) = true := fun hkey =>
        hfirst (List.mem_map.mpr ⟨registered, hmem, (of_decide_eq_true hkey).symm⟩)
      rw [List.filter_cons, if_neg hother]
      exact filter_key_eq_singleton hrest hmem

end Codes

/-! ## Failures -/

/-- Of the diagnostics of a callback, only that of a failure says so. -/
theorem filter_checkFailed (file : String) (callback : Callback) :
    (callback.diagnostics file).filter (·.kind = .checkFailed) =
      callback.failure.toList.map fun failure =>
        callback.registered.failureDiagnostic file callback.visit.node failure.message := by
  unfold Callback.diagnostics
  rw [List.filter_append]
  have hfindings : (callback.findings.filterMap (Finding.diagnostic? callback.registered file)).filter
      (·.kind = .checkFailed) = [] := by
    refine List.filter_eq_nil_iff.mpr fun diagnostic hmem hkind => ?_
    obtain ⟨finding, _, hdiagnostic⟩ := List.mem_filterMap.mp hmem
    cases finding <;> cases hdiagnostic
    cases of_decide_eq_true hkind
  rw [hfindings, List.nil_append]
  refine List.filter_eq_self.mpr fun diagnostic hmem => ?_
  obtain ⟨failure, _, rfl⟩ := List.mem_map.mp hmem
  exact decide_eq_true rfl

/-- Of callbacks of which only the last may fail, the failure is that of the last. -/
theorem flatMap_failure {α : Type} (told : Callback → Failure → α) {callbacks : List Callback}
    (hearlier : ∀ callback ∈ callbacks.dropLast, callback.failure = none) :
    (callbacks.flatMap fun callback => callback.failure.toList.map (told callback)) =
      (callbacks.getLast?.bind fun last => last.failure.map (told last)).toList := by
  rcases List.eq_nil_or_concat callbacks with rfl | ⟨earlier, last, rfl⟩
  · rfl
  · rw [List.concat_eq_append, List.dropLast_concat] at hearlier
    have hnone : (earlier.flatMap fun callback => callback.failure.toList.map (told callback)) = [] := by
      refine List.flatMap_eq_nil_iff.mpr fun callback hmem => ?_
      rw [hearlier callback hmem]
      rfl
    rw [List.concat_eq_append, List.flatMap_append, hnone, List.getLast?_append]
    cases hlast : last.failure <;> simp [hlast]

/-- **The diagnostics of failure.** A check that fails leaves one, and one that does not leaves none. -/
theorem filter_checkFailed_of_check (registered : Registered) (file : String) (root : Node)
    (visits : List Visit) :
    (registered.startDiagnostics file root ++
        (registered.callbacks file visits).flatMap (Callback.diagnostics file)).filter
        (·.kind = .checkFailed) =
      (registered.failure? file root visits).toList.map fun failed =>
        registered.failureDiagnostic file failed.1 failed.2 := by
  unfold Registered.startDiagnostics Registered.failure?
  cases hstart : registered.check.start with
  | error crash =>
    have hsilent : registered.callbacks file visits = [] := by
      unfold Registered.callbacks
      rw [hstart]
    rw [hsilent]
    rfl
  | ok state =>
    rw [List.nil_append, List.filter_flatMap]
    simp only [filter_checkFailed]
    rw [flatMap_failure _ fun _ => Registered.failure_of_mem_dropLast_callbacks]
    cases hlast : (registered.callbacks file visits).getLast? with
    | none => rfl
    | some last =>
      have hname : last.registered = registered :=
        registered_of_mem_callbacks (List.mem_of_getLast? hlast)
      cases hfailure : last.failure <;> simp [hfailure, hname]

end Dispatcher

end TreeLint
