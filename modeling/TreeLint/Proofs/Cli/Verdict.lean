import TreeLint.Cli.Run
import TreeLint.Proofs.Analyzer.Outcomes
import TreeLint.Proofs.Config.Tables
import TreeLint.Proofs.Rules.Firing
import TreeLint.Proofs.Severity

/-!
# The verdict of a check

**The law** (`CheckRequest.verdict_exact`): a check of some files fails exactly when one of them spells a
tree with a node at which a rule fires that counts. A rule counts if it is one of those that the
configuration offers (`Config.ruleSet`), the list of rules to run names it, no table disables it, and its
severity reaches the one at which a run fails (`CheckRequest.Counts`).

Nothing of how a verdict is reached shows in this: neither the plan, nor the registration, nor the walk,
nor how the files are added up, nor the format of the output. The paths are files, or lead nowhere; which
files are found in a directory is not said here.
-/

namespace TreeLint

namespace Config

/-- The function whose calls dispatch events: the one that the table of the rule names, or else the usual
one. -/
def callName (config : Config) : String :=
  match (config.table? "S1467" "constructor-calls-dispatch-event").bind (·.options.lookup "call_name") with
  | some (.string call) => call
  | _ => "dispatchEvent"

/-- The rules that a configuration offers: the two of every preset, and then those it declares. -/
def ruleSet (config : Config) : List Rule :=
  [.dispatch .blocker config.callName, .octal .major] ++
    config.nodeRules.filterMap NodeRuleConfig.rule?

/-- The table of a rule. -/
def tableOf (config : Config) (rule : Rule) : Option RuleConfig :=
  config.table? rule.check.key rule.check.name

/-- The severity of a rule: the one that its table gives it, or else its own. -/
def severityOf (config : Config) (rule : Rule) : Severity :=
  ((config.tableOf rule).bind RuleConfig.severity).getD rule.check.severity

theorem dispatchCall_eq (config : Config) : Preset.dispatchCall config = config.callName := by
  have htable : config.rule? Rules.ConstructorDispatch.key Rules.ConstructorDispatch.name =
      config.table? "S1467" "constructor-calls-dispatch-event" := rule?_eq config _ _
  unfold Preset.dispatchCall callName
  rw [htable]
  cases config.table? "S1467" "constructor-calls-dispatch-event" <;> rfl

theorem isEnabled_check (config : Config) (rule : Rule) :
    config.isEnabled rule.check.key rule.check.name = true ↔
      ∀ table, config.tableOf rule = some table → table.enabled ≠ some false :=
  config.isEnabled_iff _ _

end Config

/-- A path leads to a file whose text is the dump of a tree. -/
def Environment.Spells (env : Environment) (path : String) (tree : SyntaxTree) : Prop :=
  ∃ content dump, env.files.read (env.locate path) = .ok content ∧ Dump.parse content = .ok dump ∧
    dump.toTree = .ok tree

theorem Environment.Spells.built {env : Environment} {path : String} {tree : SyntaxTree}
    (h : env.Spells path tree) : tree.Built := by
  obtain ⟨_, dump, _, _, htree⟩ := h
  exact .ofDump dump htree

theorem Environment.spells_iff {env : Environment} {path : String} {tree : SyntaxTree} :
    env.Spells path tree ↔ ∃ source, Analyzer.load env.files (env.locate path) = .ok (tree, source) := by
  simp only [Analyzer.load_eq_ok]
  constructor
  · rintro ⟨content, dump, hread, hparse, htree⟩
    exact ⟨_, content, dump, hread, hparse, htree, rfl⟩
  · rintro ⟨_, content, dump, hread, hparse, htree, _⟩
    exact ⟨content, dump, hread, hparse, htree⟩

/-! ## The rules of a run -/

theorem Preset.rulesOf_eq_ok {config : Config} {checks : List Check}
    (h : Preset.rulesOf config = .ok checks) :
    checks = ([.dispatch .blocker config.callName, .octal .major] : List Rule).map Rule.check := by
  unfold rulesOf at h
  split at h
  · cases h
    rw [← Config.dispatchCall_eq]
    rfl
  · cases h

/-- The rules that a plan registers, each with the severity that its table gives it. -/
def AnalysisPlan.rulesToRun (plan : AnalysisPlan) (rules : List Rule) : List (Rule × Option Severity) :=
  (rules.filter fun rule =>
    plan.selects rule.check && plan.config.isEnabled rule.check.key rule.check.name).map
    fun rule => (rule, plan.config.severity? rule.check.key rule.check.name)

theorem AnalysisPlan.registrations_map_check (plan : AnalysisPlan) (rules : List Rule) :
    plan.registrations (rules.map Rule.check) =
      (plan.rulesToRun rules).map fun (rule, override) => (rule.check, override) := by
  unfold registrations rulesToRun
  rw [List.filter_map, List.map_map, List.map_map]
  rfl

theorem AnalysisPlan.mem_rulesToRun {plan : AnalysisPlan} {rules : List Rule} {rule : Rule}
    {override : Option Severity} :
    (rule, override) ∈ plan.rulesToRun rules ↔ rule ∈ rules ∧ plan.selects rule.check = true ∧
      (∀ table, plan.config.tableOf rule = some table → table.enabled ≠ some false) ∧
      override = (plan.config.tableOf rule).bind RuleConfig.severity := by
  unfold rulesToRun
  simp only [List.mem_map, List.mem_filter, Bool.and_eq_true, Config.isEnabled_check, Config.severity?_eq]
  constructor
  · rintro ⟨_, ⟨hrule, hselected, henabled⟩, heq⟩
    cases heq
    exact ⟨hrule, hselected, henabled, rfl⟩
  · rintro ⟨hrule, hselected, henabled, rfl⟩
    exact ⟨rule, ⟨hrule, hselected, henabled⟩, rfl⟩

namespace Cli.CheckRequest

/-- What carrying out a check comes to, if it succeeds. -/
theorem runWith_eq_ok {request : CheckRequest} {env : Environment} {loaded : LoadedConfig}
    {verdict : Verdict} (h : (request.runWith env loaded).value = .ok verdict) :
    ∃ checks analyzer result, Preset.rulesOf loaded.config = .ok checks ∧
      ((request.plan loaded checks).build env.currentDirectory).value = .ok analyzer ∧
      (analyzer.analyze env.files).value = .ok result ∧
      verdict = ⟨result, result.hasViolationsAt loaded.config.threshold⟩ := by
  unfold runWith at h
  split at h
  · cases h
  · next checks hrules =>
    split at h
    · cases h
    · next analyzer hbuild =>
      split at h
      · cases h
      · next result hanalyze =>
        cases h
        exact ⟨checks, analyzer, result, hrules, by rw [hbuild], by rw [hanalyze], rfl⟩

/-! ## The rules that count -/

/-- A check is to run a rule if there is no list of rules to run, or if its key or its name is on it,
blanks around the entries aside. -/
def Selects (request : CheckRequest) (rule : Rule) : Prop :=
  ∀ list, request.rules = some list → ∃ entry ∈ Text.fieldsOf ',' list,
    rule.check.key = Text.trim entry ∨ rule.check.name = Text.trim entry

/-- **A rule that fires at a node and counts**: it is offered and selected, its table does not disable it,
and its severity reaches the one at which a run fails. -/
structure Counts (request : CheckRequest) (config : Config) (rule : Rule) (node : Node) : Prop where
  offered : rule ∈ config.ruleSet
  selected : request.Selects rule
  enabled : ∀ table, config.tableOf rule = some table → table.enabled ≠ some false
  fires : ∃ text, rule.Says node text
  severe : config.failOn.getD .major ≤ config.severityOf rule

variable {request : CheckRequest} {loaded : LoadedConfig} {checks : List Check}

/-- A rule below the threshold does not count, wherever it fires. -/
theorem not_counts_of_lt {config : Config} {rule : Rule} (h : config.severityOf rule < config.threshold)
    (node : Node) : ¬ request.Counts config rule node :=
  fun hcounts => not_le_of_gt h hcounts.severe

theorem selects_plan {rule : Rule} :
    (request.plan loaded checks).selects rule.check = true ↔ request.Selects rule := by
  unfold AnalysisPlan.selects plan Selects
  cases request.rules with
  | none => simp
  | some list => simp [Check.isCalled, ruleNames]

/-! ## The law -/

/-- **The rules that a run registers** are those of the configuration, by name and severity. -/
theorem accepted_of_build {env : Environment} {analyzer : Analyzer}
    (hrules : Preset.rulesOf loaded.config = .ok checks)
    (hbuild : ((request.plan loaded checks).build env.currentDirectory).value = .ok analyzer) :
    Dispatcher.build (((request.plan loaded checks).rulesToRun loaded.config.ruleSet).map
        fun (rule, override) => (rule.check, override)) = .ok analyzer.dispatcher ∧
      analyzer.paths = request.paths ∧ analyzer.currentDirectory = env.currentDirectory ∧
      analyzer.cancelled = false := by
  obtain ⟨_, nodeRules, dispatcher, _, hload, haccepted, rfl⟩ := AnalysisPlan.build_eq_ok_iff.mp hbuild
  have hchecks : checks ++ nodeRules = loaded.config.ruleSet.map Rule.check := by
    rw [Preset.rulesOf_eq_ok hrules, Rules.NodeRule.load_eq_ok hload, ← List.map_append]
    rfl
  refine ⟨?_, rfl, rfl, rfl⟩
  rw [← AnalysisPlan.registrations_map_check, ← hchecks]
  exact haccepted

/-- A check fails exactly when some file spells a tree with a node at which a rule that counts fires. -/
theorem fails_iff {env : Environment} {verdict : Verdict} (hpaths : request.paths ≠ [])
    (hfiles : ∀ path ∈ request.paths, env.files.isDirectory (env.locate path) = false)
    (hrun : (request.runWith env loaded).value = .ok verdict) :
    verdict.fails = true ↔ ∃ path ∈ request.paths, ∃ tree, env.Spells path tree ∧
      ∃ (node : Node) (rule : Rule), node.tree = tree ∧ request.Counts loaded.config rule node := by
  obtain ⟨checks, analyzer, result, hrules, hbuild, hanalyze, hverdict⟩ := runWith_eq_ok hrun
  obtain ⟨accepted, hsame, hdirectory, hgoes⟩ := accepted_of_build hrules hbuild
  have hfiles : ∀ path ∈ analyzer.paths,
      env.files.isDirectory (Path.join analyzer.currentDirectory path) = false := by
    rw [hsame, hdirectory]
    exact hfiles
  have hmem : ∀ {violation}, violation ∈ result.violations ↔ _ :=
    Analyzer.mem_violations_analyze hgoes (hsame ▸ hpaths) hfiles hanalyze
  rw [hsame, hdirectory] at hmem
  rw [hverdict]
  show result.hasViolationsAt _ = true ↔ _
  rw [LintResult.hasViolationsAt_iff]
  constructor
  · rintro ⟨violation, hviolation, hsevere⟩
    obtain ⟨path, hpath, tree, source, hload, hviolation⟩ := hmem.mp hviolation
    have hspells : env.Spells path tree := Environment.spells_iff.mpr ⟨source, hload⟩
    obtain ⟨node, hnode, rule, override, hrule, text, hsays, rfl⟩ :=
      (Rule.mem_violations_run hspells.built accepted).mp hviolation
    obtain ⟨hoffered, hselected, henabled, rfl⟩ := AnalysisPlan.mem_rulesToRun.mp hrule
    exact ⟨path, hpath, tree, hspells, node, rule, hnode, hoffered,
      selects_plan.mp hselected, henabled, ⟨text, hsays⟩, hsevere⟩
  · rintro ⟨path, hpath, tree, hspells, node, rule, hnode, hcounts⟩
    obtain ⟨source, hload⟩ := Environment.spells_iff.mp hspells
    obtain ⟨text, hsays⟩ := hcounts.fires
    have hrule : (rule, (loaded.config.tableOf rule).bind RuleConfig.severity) ∈
        (request.plan loaded checks).rulesToRun loaded.config.ruleSet :=
      AnalysisPlan.mem_rulesToRun.mpr
        ⟨hcounts.offered, selects_plan.mpr hcounts.selected, hcounts.enabled, rfl⟩
    have hviolation : rule.violation _ source node text ∈
        (analyzer.dispatcher.run tree source).violations :=
      (Rule.mem_violations_run hspells.built accepted).mpr
        ⟨node, hnode, rule, _, hrule, text, hsays, rfl⟩
    exact ⟨_, hmem.mpr ⟨path, hpath, tree, source, hload, hviolation⟩, hcounts.severe⟩

/-- A run that checks files ends with 1 if the check fails, and with 0 if it does not. -/
theorem code_check {env : Environment} {verdict : Verdict}
    (hloaded : LoadedConfig.load env request.config request.paths = .ok loaded)
    (hrun : (request.runWith env loaded).value = .ok verdict) :
    (check env request).code = if verdict.fails then 1 else 0 := by
  have hrun : (request.run env).value = .ok verdict := by
    unfold run
    rw [hloaded]
    exact hrun
  unfold check
  split
  · next hfailed =>
    rw [hfailed] at hrun
    cases hrun
  · next hdone =>
    rw [hdone] at hrun
    cases hrun
    rfl

/-- **The verdict is what the rules say about the nodes**: a check of files fails, and its run ends with
1, exactly when one of them spells a tree with a node at which a rule that counts fires. -/
theorem verdict_exact {env : Environment} {verdict : Verdict} (hpaths : request.paths ≠ [])
    (hfiles : ∀ path ∈ request.paths, env.files.isDirectory (env.locate path) = false)
    (hrun : (request.runWith env loaded).value = .ok verdict) :
    (verdict.fails = true ↔ ∃ path ∈ request.paths, ∃ tree, env.Spells path tree ∧
      ∃ (node : Node) (rule : Rule), node.tree = tree ∧ request.Counts loaded.config rule node) ∧
      (LoadedConfig.load env request.config request.paths = .ok loaded →
        (check env request).code = if verdict.fails then 1 else 0) :=
  ⟨fails_iff hpaths hfiles hrun, fun hloaded => code_check hloaded hrun⟩

/-- Two files, one of which is no dump; the other holds an octal literal. -/
def strictEnvironment : Environment where
  files := ⟨[(["w", "A.json"],
      .file (.text "\x7b\"nodes\":[\x7b\"kind\":\"OCTAL\",\"line\":2\x7d]\x7d")),
    (["w", "B.json"], .file (.text "[]"))]⟩
  currentDirectory := "/w"
  home := none
  configDirectory := none

/-- A configuration that raises one rule by its key, disables another by its name, and declares a rule
whose severity is too low to count. -/
def strictConfig : LoadedConfig where
  config := { Config.standard with
    failOn := some .critical
    rules := [("S1314", ⟨none, some .critical, []⟩),
      ("constructor-calls-dispatch-event", ⟨some false, none, []⟩)]
    nodeRules := [⟨"X1", "numbers", "OCTAL", "Number \x7b0\x7d", none⟩] }
  origin := none

/-- A check of these files, and of one that is not there, with rules named by key and by name. -/
def strictRequest : CheckRequest where
  config := none
  paths := ["B.json", "A.json", "C.json"]
  format := .compact
  rules := some " S1467 ,octal-value, X1"
  excludes := []

/-- What the check comes to. -/
def strictVerdict : Verdict where
  result := {
    violations := [
      ⟨"S1314", "octal-value", .critical, ⟨"/w/A.json", 2, 1⟩, "Use decimal rather than octal values."⟩,
      ⟨"X1", "numbers", .major, ⟨"/w/A.json", 2, 1⟩, "Number "⟩]
    diagnostics := []
    failures := [
      ⟨"/w/B.json", "Invalid tree dump /w/B.json: Invalid tree dump: invalid length 1, " ++
        "expected struct TreeDump with 2 elements"⟩,
      ⟨"/w/C.json", "Failed to read /w/C.json: No such file or directory (os error 2)"⟩]
    filesChecked := 1
    cancelled := false }
  fails := true

/-- The rule that the configuration declares. -/
def numbersRule : Rule :=
  .nodes "X1" "numbers" .octal "Number \x7b0\x7d" .major

/-- The same check with that rule alone. -/
def mildRequest : CheckRequest :=
  { strictRequest with rules := some "X1" }

/-- What it comes to: the rule fires, and the check does not fail. -/
def mildVerdict : Verdict where
  result := { strictVerdict.result with
    violations := [⟨"X1", "numbers", .major, ⟨"/w/A.json", 2, 1⟩, "Number "⟩] }
  fails := false

theorem strictRequest_fails :
    strictRequest.paths ≠ [] ∧
      (∀ path ∈ strictRequest.paths,
        strictEnvironment.files.isDirectory (strictEnvironment.locate path) = false) ∧
      (strictRequest.runWith strictEnvironment strictConfig).value = .ok strictVerdict ∧
      (∃ path ∈ strictRequest.paths, ∃ tree, strictEnvironment.Spells path tree ∧
        ∃ (node : Node) (rule : Rule), node.tree = tree ∧
          strictRequest.Counts strictConfig.config rule node) ∧
      (strictConfig.config.severityOf numbersRule < strictConfig.config.threshold ∧
        ∀ node, ¬ strictRequest.Counts strictConfig.config numbersRule node) ∧
      (mildRequest.runWith strictEnvironment strictConfig).value = .ok mildVerdict ∧
      ¬ ∃ path ∈ mildRequest.paths, ∃ tree, strictEnvironment.Spells path tree ∧
        ∃ (node : Node) (rule : Rule), node.tree = tree ∧
          mildRequest.Counts strictConfig.config rule node := by
  have hpaths : strictRequest.paths ≠ [] := by decide
  have hfiles : ∀ path ∈ strictRequest.paths,
      strictEnvironment.files.isDirectory (strictEnvironment.locate path) = false := by decide
  have hrun : (strictRequest.runWith strictEnvironment strictConfig).value = .ok strictVerdict := by
    decide +kernel
  have hmild : (mildRequest.runWith strictEnvironment strictConfig).value = .ok mildVerdict := by
    decide +kernel
  have hbelow : strictConfig.config.severityOf numbersRule < strictConfig.config.threshold := by
    obtain ⟨-, -, hcritical, -⟩ := Severity.ascending
    exact hcritical
  refine ⟨hpaths, hfiles, hrun, (verdict_exact hpaths hfiles hrun).1.mp rfl,
    ⟨hbelow, not_counts_of_lt hbelow⟩, hmild, fun hcounts => ?_⟩
  have hfails := (verdict_exact (show mildRequest.paths ≠ [] from hpaths) hfiles hmild).1.mpr hcounts
  cases hfails

end Cli.CheckRequest

end TreeLint
