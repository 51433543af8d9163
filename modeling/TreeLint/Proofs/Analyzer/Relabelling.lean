import TreeLint.Proofs.Analyzer.Outcomes
import TreeLint.Proofs.Config.Tables
import TreeLint.Proofs.Rules.Firing

/-!
# Severities are labels

A table may give a rule another severity. **The law** (`AnalysisPlan.severities_relabel`): nothing else
changes. Two configurations that differ in the severities of their tables alone make analyzers that find
the same violations in the same order, up to their severities, the same diagnostics and the same failures.
The severity of a violation is the one that its configuration gives to the check with its code.

A visitor is told the severity of its check, and nothing keeps it from acting on it. The law is about
checks that do not (`Check.IgnoresSeverity`). The rules that a configuration declares are such checks
(`Rule.ignoresSeverity`); of the others it is assumed.

To take severities off a report is to run the checks without them (`Dispatcher.unrated_tourReport`), and
there two configurations with the same rules do not differ.
-/

namespace TreeLint

/-! ## Taking severities off -/

/-- The violation with a severity that says nothing. -/
def Violation.unrated (violation : Violation) : Violation :=
  { violation with severity := .info }

/-- The report with severities that say nothing. -/
def FileReport.unrated (report : FileReport) : FileReport :=
  { report with violations := report.violations.map Violation.unrated }

/-- The result with severities that say nothing. -/
def LintResult.unrated (result : LintResult) : LintResult :=
  { result with violations := result.violations.map Violation.unrated }

theorem Analyzer.revises_unrated : Revises FileReport.unrated LintResult.unrated where
  empty := rfl
  addReport := by
    intro result report
    simp only [LintResult.unrated, LintResult.addReport, FileReport.unrated, List.map_append]
  addFailure := fun _ _ _ => rfl
  cancel := fun _ => rfl

/-- **A check that does not look at its severity**: its visitor does the same whatever the severity is. -/
def Check.IgnoresSeverity (check : Check) : Prop :=
  ∀ (context : Context) (severity : Severity) (visit : Visit) (state : check.State),
    check.react { context with severity } visit state = check.react context visit state

/-- No rule of a run looks at its severity. -/
theorem Rule.ignoresSeverity (rule : Rule) : rule.check.IgnoresSeverity := by
  intro context severity visit state
  cases rule <;> rfl

/-- The check with a severity that says nothing. -/
def Registered.unrated (registered : Registered) : Registered :=
  { registered with severity := .info }

/-- The callback with a severity that says nothing. -/
def Callback.unrated (callback : Callback) : Callback :=
  { callback with registered := callback.registered.unrated }

namespace Registered

variable {check : Check}

/-- A check that does not look at its severity answers the same without it. -/
theorem response_unrated (h : check.IgnoresSeverity) (severity : Severity) (file : String)
    (visit : Visit) (state : check.State) :
    response ⟨check, .info⟩ file visit state = response ⟨check, severity⟩ file visit state :=
  h (context ⟨check, severity⟩ file) .info visit state

/-- **A run of visits.** Without its severity such a check is told the same and fails at the same
place. -/
theorem callbacksFrom_unrated (h : check.IgnoresSeverity) (severity : Severity) (file : String) :
    ∀ (visits : List Visit) (state : check.State),
      callbacksFrom ⟨check, .info⟩ file state visits =
        (callbacksFrom ⟨check, severity⟩ file state visits).map Callback.unrated
  | [], _ => rfl
  | visit :: rest, state => by
    have hresponse := response_unrated h severity file visit state
    have hcallback : callback ⟨check, .info⟩ file visit state =
        (callback ⟨check, severity⟩ file visit state).unrated := by
      unfold Registered.callback
      rw [hresponse]
      rfl
    rw [callbacksFrom, callbacksFrom, hcallback, hresponse, List.map_cons]
    congr 1
    cases (response ⟨check, severity⟩ file visit state).next with
    | ok after => exact callbacksFrom_unrated h severity file rest after
    | error failure => rfl

theorem callbacks_unrated {registered : Registered} (h : registered.check.IgnoresSeverity)
    (file : String) (visits : List Visit) :
    registered.unrated.callbacks file visits =
      (registered.callbacks file visits).map Callback.unrated := by
  obtain ⟨check, severity⟩ := registered
  show callbacks ⟨check, .info⟩ file visits = _
  unfold callbacks
  cases check.start with
  | ok state => exact callbacksFrom_unrated h severity file _ state
  | error crash => rfl

theorem startDiagnostics_unrated (registered : Registered) (file : String) (root : Node) :
    registered.unrated.startDiagnostics file root = registered.startDiagnostics file root := by
  obtain ⟨check, severity⟩ := registered
  show startDiagnostics ⟨check, .info⟩ file root = _
  unfold startDiagnostics
  cases check.start <;> rfl

end Registered

theorem Callback.violations_unrated (callback : Callback) (file : String) :
    callback.unrated.violations file = (callback.violations file).map Violation.unrated := by
  unfold Callback.violations
  rw [List.map_filterMap]
  refine List.filterMap_congr fun finding _ => ?_
  cases finding <;> rfl

theorem Callback.diagnostics_unrated (callback : Callback) (file : String) :
    callback.unrated.diagnostics file = callback.diagnostics file := by
  have hfindings : callback.findings.filterMap (Finding.diagnostic? callback.registered.unrated file) =
      callback.findings.filterMap (Finding.diagnostic? callback.registered file) :=
    List.filterMap_congr fun finding _ => by cases finding <;> rfl
  exact congrArg (· ++ _) hfindings

namespace Dispatcher

/-- Whether checks can be registered together does not depend on the severities they are given. -/
theorem Acceptable.of_map_fst {first second : List (Check × Option Severity)} (h : Acceptable first)
    (hchecks : second.map Prod.fst = first.map Prod.fst) : Acceptable second := by
  have hmem : ∀ registration ∈ second, ∃ other ∈ first, other.1 = registration.1 := by
    intro registration hregistration
    rw [← List.mem_map, ← hchecks]
    exact List.mem_map_of_mem hregistration
  refine ⟨?_, ?_, ?_⟩
  · have hkeys := congrArg (List.map Check.key) hchecks
    rw [List.map_map, List.map_map] at hkeys
    exact hkeys ▸ h.keys_nodup
  · intro registration hregistration
    obtain ⟨other, hother, heq⟩ := hmem registration hregistration
    exact heq ▸ h.subscribes other hother
  · intro registration hregistration
    obtain ⟨other, hother, heq⟩ := hmem registration hregistration
    exact heq ▸ h.kinds_nodup other hother

/-- **Taking severities off a report is running the checks without them.** -/
theorem unrated_tourReport {checks : List Registered}
    (h : ∀ registered ∈ checks, registered.check.IgnoresSeverity) (tree : SyntaxTree)
    (file : String) :
    (tourReport checks tree file).unrated =
      tourReport (checks.map Registered.unrated) tree file := by
  have htold : ∀ registered ∈ checks, ∀ visit,
      (registered.unrated.callbacks file tree.tour).filter (·.visit = visit) =
        ((registered.callbacks file tree.tour).filter (·.visit = visit)).map Callback.unrated := by
    intro registered hmem visit
    rw [Registered.callbacks_unrated (h registered hmem), List.filter_map]
    rfl
  have hviolations : ∀ visit, (checks.flatMap fun registered =>
      ((registered.unrated.callbacks file tree.tour).filter (·.visit = visit)).flatMap
        (Callback.violations file)) =
      (checks.flatMap fun registered =>
        ((registered.callbacks file tree.tour).filter (·.visit = visit)).flatMap
          (Callback.violations file)).map Violation.unrated := by
    intro visit
    rw [List.map_flatMap]
    refine List.flatMap_congr fun registered hmem => ?_
    rw [htold registered hmem, List.flatMap_map, List.map_flatMap]
    exact List.flatMap_congr fun callback _ => callback.violations_unrated file
  have hdiagnostics : ∀ visit, (checks.flatMap fun registered =>
      ((registered.unrated.callbacks file tree.tour).filter (·.visit = visit)).flatMap
        (Callback.diagnostics file)) =
      checks.flatMap fun registered =>
        ((registered.callbacks file tree.tour).filter (·.visit = visit)).flatMap
          (Callback.diagnostics file) := by
    intro visit
    refine List.flatMap_congr fun registered hmem => ?_
    rw [htold registered hmem, List.flatMap_map]
    exact List.flatMap_congr fun callback _ => callback.diagnostics_unrated file
  unfold tourReport FileReport.unrated
  simp only [List.flatMap_map, Registered.startDiagnostics_unrated, hviolations, hdiagnostics,
    List.map_flatMap]

/-- A run without severities depends on the checks alone. -/
theorem unrated_run {registrations : List (Check × Option Severity)} {dispatcher : Dispatcher}
    (accepted : build registrations = .ok dispatcher)
    (h : ∀ check ∈ registrations.map Prod.fst, check.IgnoresSeverity) {tree : SyntaxTree}
    (built : tree.Built) (file : String) :
    (dispatcher.run tree file).unrated =
      tourReport ((registrations.map Prod.fst).map fun check => ⟨check, .info⟩) tree file := by
  rw [run_of_build built accepted, unrated_tourReport, List.map_map, List.map_map]
  · rfl
  · intro registered hmem
    obtain ⟨registration, hregistration, rfl⟩ := List.mem_map.mp hmem
    exact h registration.1 (List.mem_map_of_mem hregistration)

/-- **To a dispatcher, severities are labels.** Checks that are accepted with some severities are accepted
with others, and report the same up to their severities. -/
theorem exists_build_unrated {first second : List (Check × Option Severity)}
    {dispatcher : Dispatcher} (accepted : build first = .ok dispatcher)
    (hchecks : second.map Prod.fst = first.map Prod.fst)
    (h : ∀ check ∈ first.map Prod.fst, check.IgnoresSeverity) :
    ∃ other, build second = .ok other ∧ ∀ tree : SyntaxTree, tree.Built → ∀ file,
      (other.run tree file).unrated = (dispatcher.run tree file).unrated := by
  have acceptable := (exists_build_iff.mp ⟨dispatcher, accepted⟩).of_map_fst hchecks
  obtain ⟨other, hother⟩ := exists_build_iff.mpr acceptable
  refine ⟨other, hother, fun tree built file => ?_⟩
  rw [unrated_run accepted h built, unrated_run hother (hchecks ▸ h) built, hchecks]

/-! ## Whose severity it is -/

/-- A violation has the code and the severity of one of the checks. -/
theorem exists_registered_of_mem_violations {checks : List Registered} {tree : SyntaxTree}
    {file : String} {violation : Violation}
    (h : violation ∈ (tourReport checks tree file).violations) :
    ∃ registered ∈ checks, registered.check.key = violation.code ∧
      violation.severity = registered.severity := by
  obtain ⟨visit, _, hvisit⟩ := List.mem_flatMap.mp h
  obtain ⟨registered, hmem, hregistered⟩ := List.mem_flatMap.mp hvisit
  obtain ⟨callback, hcallback, hviolation⟩ := List.mem_flatMap.mp hregistered
  have howner := registered_of_mem_callbacks (List.mem_of_mem_filter hcallback)
  refine ⟨registered, hmem, ?_, ?_⟩
  · rw [code_of_mem_violations hviolation, howner]
  · rw [← howner]
    obtain ⟨finding, _, hfinding⟩ := List.mem_filterMap.mp hviolation
    cases finding <;> cases hfinding <;> rfl

end Dispatcher

/-- **An analyzer that rates by a configuration**: every violation it finds has the severity that the
table of the check with its code gives, looked up by the name of the check and then by its key, or else
the one that the check has by itself. -/
def Analyzer.RatesBy (analyzer : Analyzer) (config : Config) : Prop :=
  ∀ fs result, (analyzer.analyze fs).value = .ok result → ∀ violation ∈ result.violations,
    ∃ registered,
      (analyzer.dispatcher.checks.filter fun other => other.check.key = violation.code) =
        [registered] ∧
      violation.severity =
        (((config.rules.lookup registered.check.name).or
          (config.rules.lookup registered.check.key)).bind RuleConfig.severity).getD
            registered.check.severity

theorem Analyzer.exists_run_of_mem_violations {analyzer : Analyzer} {fs : FileSystem}
    {result : LintResult} (h : (analyzer.analyze fs).value = .ok result) {violation : Violation}
    (hmem : violation ∈ result.violations) :
    ∃ tree : SyntaxTree, tree.Built ∧
      ∃ file, violation ∈ (analyzer.dispatcher.run tree file).violations := by
  rw [violations_analyze h] at hmem
  obtain ⟨path, _, hmem⟩ := List.mem_flatMap.mp hmem
  unfold process at hmem
  split at hmem
  · cases hmem
  · split at hmem
    · cases hmem
    · next tree source hload => exact ⟨tree, built_of_load hload, source, hmem⟩

namespace AnalysisPlan

variable {plan : AnalysisPlan} {currentDirectory : String} {analyzer : Analyzer}

/-- **Every analyzer rates by the configuration of its plan.** -/
theorem ratesBy_of_build (hbuild : (plan.build currentDirectory).value = .ok analyzer) :
    analyzer.RatesBy plan.config := by
  intro fs result hresult violation hmem
  obtain ⟨nodeRules, _, accepted, _⟩ := build_withRules hbuild
  obtain ⟨tree, built, file, hmem⟩ := Analyzer.exists_run_of_mem_violations hresult hmem
  rw [Dispatcher.run_of_build built accepted] at hmem
  obtain ⟨registered, hregistered, hkey, hseverity⟩ :=
    Dispatcher.exists_registered_of_mem_violations hmem
  have hnodup := Dispatcher.nodup_keys (Dispatcher.exists_build_iff.mp ⟨_, accepted⟩)
  refine ⟨registered, ?_, ?_⟩
  · rw [(Dispatcher.build_spec accepted).2, ← hkey]
    exact Dispatcher.filter_key_eq_singleton hnodup hregistered
  · obtain ⟨registration, hregistration, rfl⟩ := List.mem_map.mp hregistered
    obtain ⟨check, _, rfl⟩ := List.mem_map.mp hregistration
    rw [hseverity]
    exact congrArg (Option.getD · _) (plan.config.severity?_eq _ _)

end AnalysisPlan

/-! ## Two configurations -/

/-- The table with nothing said about the severity. -/
def RuleConfig.unrated (rule : RuleConfig) : RuleConfig :=
  { rule with severity := none }

/-- **Configurations that differ in the severities of tables alone**: all else is the same, and under
every name there is the same table, up to its severity, or none. -/
structure Config.SameButSeverities (first second : Config) : Prop where
  preset_eq : second.preset = first.preset
  failOn_eq : second.failOn = first.failOn
  analyzer_eq : second.analyzer = first.analyzer
  nodeRules_eq : second.nodeRules = first.nodeRules
  rules_eq : ∀ name, (second.rules.lookup name).map RuleConfig.unrated =
    (first.rules.lookup name).map RuleConfig.unrated

namespace Config.SameButSeverities

variable {first second : Config}

theorem eq_withRules (h : first.SameButSeverities second) :
    second = { first with rules := second.rules } := by
  obtain ⟨preset, failOn, analyzer, rules, nodeRules⟩ := second
  obtain ⟨rfl, rfl, rfl, rfl, _⟩ := h
  rfl

/-- Such configurations enable the same rules. -/
theorem isEnabled_eq (h : first.SameButSeverities second) (key name : String) :
    second.isEnabled key name = first.isEnabled key name := by
  have htable : (second.table? key name).map RuleConfig.unrated =
      (first.table? key name).map RuleConfig.unrated := by
    rw [table?, table?, Option.map_or, Option.map_or, h.rules_eq, h.rules_eq]
  have henabled : ∀ config : Config, config.isEnabled key name =
      (((config.table? key name).map RuleConfig.unrated).bind RuleConfig.enabled).getD true := by
    intro config
    rw [Config.isEnabled_eq, Option.bind_map]
    rfl
  rw [henabled, henabled, htable]

end Config.SameButSeverities

namespace AnalysisPlan

variable {plan : AnalysisPlan} {currentDirectory : String} {analyzer : Analyzer}

/-- Plans with such configurations register the same checks. -/
theorem map_fst_registrations {config : Config} (hsame : plan.config.SameButSeverities config)
    (checks : List Check) :
    ({ plan with config }.registrations checks).map Prod.fst =
      (plan.registrations checks).map Prod.fst := by
  unfold registrations
  simp only [hsame.isEnabled_eq, List.map_map]
  rfl

/-- The checks of a plan do not look at their severities if those that it adds do not. -/
theorem ignoresSeverity_of_mem (hblind : ∀ check ∈ plan.checks, check.IgnoresSeverity)
    {nodeRules : List Check} (hload : Rules.NodeRule.load plan.config = .ok nodeRules) {check : Check}
    (hmem : check ∈ (plan.registrations (plan.checks ++ nodeRules)).map Prod.fst) :
    check.IgnoresSeverity := by
  obtain ⟨registration, hregistration, rfl⟩ := List.mem_map.mp hmem
  obtain ⟨check, hcheck, rfl⟩ := List.mem_map.mp hregistration
  rcases List.mem_append.mp (List.mem_of_mem_filter hcheck) with hadded | hdeclared
  · exact hblind check hadded
  · rw [Rules.NodeRule.load_eq_ok hload] at hdeclared
    obtain ⟨rule, _, rfl⟩ := List.mem_map.mp hdeclared
    exact rule.ignoresSeverity

/-- **Severities are labels.** A plan with a configuration that differs in the severities of tables alone
makes an analyzer too. It finds the same in the same files, up to the severities of violations, and each
of the two rates by its configuration. -/
theorem severities_relabel (hblind : ∀ check ∈ plan.checks, check.IgnoresSeverity)
    (hbuild : (plan.build currentDirectory).value = .ok analyzer) {config : Config}
    (hsame : plan.config.SameButSeverities config) :
    ∃ other, ({ plan with config }.build currentDirectory).value = .ok other ∧
      (∀ fs, other.files fs = analyzer.files fs ∧
        (other.analyze fs).value.map LintResult.unrated =
          (analyzer.analyze fs).value.map LintResult.unrated) ∧
      analyzer.RatesBy plan.config ∧ other.RatesBy config := by
  obtain ⟨nodeRules, hload, accepted, hmake⟩ := build_withRules hbuild
  obtain ⟨dispatcher, hdispatcher, hrun⟩ := Dispatcher.exists_build_unrated accepted
    (map_fst_registrations hsame _) fun _ => ignoresSeverity_of_mem hblind hload
  have hother : ({ plan with config }.build currentDirectory).value =
      .ok { analyzer with dispatcher } := by
    rw [hsame.eq_withRules] at hdispatcher ⊢
    exact hmake hdispatcher
  refine ⟨{ analyzer with dispatcher }, hother, fun fs => ⟨rfl, ?_⟩, ratesBy_of_build hbuild,
    ratesBy_of_build hother⟩
  exact Analyzer.map_analyze_eq Analyzer.revises_unrated Analyzer.revises_unrated hrun fs

/-- A brittle check beside a declared rule. The check has the table with its name, so the one with its key
is nobody's. -/
def ratedPlan : AnalysisPlan where
  root := none
  paths := ["A.json"]
  checks := [Dispatcher.watcher "W1" true]
  onlyRules := none
  excludes := []
  config := { Config.standard with
    rules := [("W1", ⟨none, some .blocker, []⟩), ("watcher", ⟨some true, some .critical, []⟩)]
    nodeRules := [⟨"X1", "numbers", "OCTAL", "Number", some .minor⟩] }
  failOnLoadError := false
  cancelled := false

/-- The same configuration with other severities, and with none in one of the tables. -/
def reratedConfig : Config :=
  { ratedPlan.config with
    rules := [("watcher", ⟨some true, some .info, []⟩), ("W1", ⟨none, none, []⟩)] }

theorem ratedPlan_relabelled :
    (∀ check ∈ ratedPlan.checks, check.IgnoresSeverity) ∧
      ratedPlan.config.SameButSeverities reratedConfig ∧
      ∃ analyzer, (ratedPlan.build "/w").value = .ok analyzer ∧
        ∃ other, ({ ratedPlan with config := reratedConfig }.build "/w").value = .ok other ∧
          (∀ fs, other.files fs = analyzer.files fs ∧
            (other.analyze fs).value.map LintResult.unrated =
              (analyzer.analyze fs).value.map LintResult.unrated) ∧
          analyzer.RatesBy ratedPlan.config ∧ other.RatesBy reratedConfig := by
  have hblind : ∀ check ∈ ratedPlan.checks, check.IgnoresSeverity := by
    intro check hmem
    obtain rfl := List.mem_singleton.mp hmem
    exact fun _ _ _ _ => rfl
  have hsame : ratedPlan.config.SameButSeverities reratedConfig := by
    refine ⟨rfl, rfl, rfl, rfl, fun name => ?_⟩
    by_cases hkey : name = "W1"
    · rw [hkey]
      rfl
    · by_cases hname : name = "watcher"
      · rw [hname]
        rfl
      · simp [reratedConfig, ratedPlan, List.lookup_cons, beq_eq_false_iff_ne.mpr hkey,
          beq_eq_false_iff_ne.mpr hname]
  obtain ⟨analyzer, hbuild⟩ : ∃ analyzer, (ratedPlan.build "/w").value = .ok analyzer := ⟨_, rfl⟩
  exact ⟨hblind, hsame, analyzer, hbuild, severities_relabel hblind hbuild hsame⟩

end AnalysisPlan

end TreeLint
