import TreeLint.Proofs.Cli.Verdict
import TreeLint.Proofs.Dispatcher.Admission
import TreeLint.Proofs.Traversal

/-!
# Why no analyzer is made

A plan can be at fault in three ways: a text that should be a pattern is none, a declared rule names no
kind of node, or two rules that are to run have one key. They are looked for in this order, and a plan
may be at fault in all of them. **The law** (`AnalysisPlan.refusals_exact`): with the rules of a known
preset an analyzer is made exactly when no such fault is there, and otherwise the error is about the first
fault of the first kind that there is (`AnalysisPlan.Refused`).

Which rules are to run matters for the last kind of fault only: a rule that names no kind of node is
refused even if it is disabled. No other error of registration comes up, since every rule wants to hear of
something and lists nothing twice (`Rule.subscribes`).

Nothing is said about which texts are patterns. `Glob.Pattern.compile` decides that, and it is not opened
here.
-/

namespace TreeLint

/-! ## The rules that are to run -/

/-- The keys and names of the rules that a configuration offers: the two of every preset, and then those
it declares, whether or not they name a kind of node. -/
def Config.ruleLabels (config : Config) : List (String × String) :=
  [("S1467", "constructor-calls-dispatch-event"), ("S1314", "octal-value")] ++
    config.nodeRules.map fun entry => (entry.key, entry.name)

namespace AnalysisPlan

/-- A rule is to run if its key or its name is on the list of rules to run, if there is one, and if its
table does not disable it. -/
def Runs (plan : AnalysisPlan) (key name : String) : Prop :=
  (∀ names ∈ plan.onlyRules, key ∈ names ∨ name ∈ names) ∧
    ∀ table ∈ plan.config.table? key name, table.enabled ≠ some false

instance (plan : AnalysisPlan) (key name : String) : Decidable (plan.Runs key name) :=
  inferInstanceAs (Decidable (_ ∧ _))

/-- The keys of the rules that are to run. -/
def keysToRun (plan : AnalysisPlan) : List String :=
  (plan.config.ruleLabels.filter fun (key, name) => plan.Runs key name).map Prod.fst

/-- The texts that should be patterns: those of the plan, and then those of its configuration. -/
def patternTexts (plan : AnalysisPlan) : List String :=
  plan.excludes ++ plan.config.analyzer.exclude

/-- Every text that should be a pattern is one. -/
def PatternsCompile (plan : AnalysisPlan) : Prop :=
  ∀ text ∈ plan.patternTexts, ∃ pattern, Glob.Pattern.compile text = .ok pattern

/-- Every declared rule names a kind of node. -/
def KindsKnown (plan : AnalysisPlan) : Prop :=
  ∀ entry ∈ plan.config.nodeRules, ∃ kind : NodeKind, kind.name = entry.kind

/-- **Why a plan is refused.** -/
inductive Refused (plan : AnalysisPlan) : AnalyzerError → Prop
  /-- Some text is no pattern, and the ones before it are. -/
  | pattern {earlier later : List String} {text : String} {cause : Glob.PatternError} :
      plan.patternTexts = earlier ++ text :: later →
      (∀ other ∈ earlier, ∃ pattern, Glob.Pattern.compile other = .ok pattern) →
      Glob.Pattern.compile text = .error cause → Refused plan (.pattern cause)
  /-- Some declared rule names no kind of node, and the ones before it do. -/
  | unknownKind {earlier later : List NodeRuleConfig} {entry : NodeRuleConfig} :
      plan.PatternsCompile → plan.config.nodeRules = earlier ++ entry :: later →
      (∀ other ∈ earlier, ∃ kind : NodeKind, kind.name = other.kind) →
      (∀ kind : NodeKind, kind.name ≠ entry.kind) →
      Refused plan (.config (.unknownNodeKind entry.key entry.kind))
  /-- The key of some rule that is to run is that of an earlier one, and no key before it is. -/
  | duplicateKey {earlier later : List String} {key : String} :
      plan.PatternsCompile → plan.KindsKnown → plan.keysToRun = earlier ++ key :: later →
      earlier.Nodup → key ∈ earlier → Refused plan (.registration (.duplicateKey key))

/-- Which checks a plan has beside the declared rules is not why it is refused. -/
theorem Refused.withChecks {plan : AnalysisPlan} {error : AnalyzerError} (h : plan.Refused error)
    (checks : List Check) : { plan with checks }.Refused error := by
  cases h with
  | pattern hsplit hearlier htext => exact .pattern hsplit hearlier htext
  | unknownKind hpatterns hsplit hearlier hunknown =>
    exact .unknownKind hpatterns hsplit hearlier hunknown
  | duplicateKey hpatterns hknown hsplit hnodup hagain =>
    exact .duplicateKey hpatterns hknown hsplit hnodup hagain

/-- The checks that are registered are those that are to run. -/
theorem runs_iff (plan : AnalysisPlan) (check : Check) :
    (plan.selects check && plan.config.isEnabled check.key check.name) = true ↔
      plan.Runs check.key check.name := by
  unfold Runs
  rw [Bool.and_eq_true, Config.isEnabled_iff]
  refine and_congr ?_ Iff.rfl
  unfold selects
  cases plan.onlyRules with
  | none => simp
  | some names => simp [Check.isCalled, and_or_left, exists_or]

/-- The keys of the checks that are registered are those of the rules that are to run, if the checks are
those of the rules that the configuration offers. -/
theorem keys_registrations {plan : AnalysisPlan} {checks : List Check}
    (hchecks : (checks.map fun check => (check.key, check.name)) = plan.config.ruleLabels) :
    ((plan.registrations checks).map fun registration => registration.1.key) = plan.keysToRun := by
  have hruns : (checks.filter fun check =>
      plan.selects check && plan.config.isEnabled check.key check.name) =
      checks.filter fun check => plan.Runs check.key check.name :=
    List.filter_congr fun check _ =>
      Bool.eq_iff_iff.mpr ((plan.runs_iff check).trans decide_eq_true_iff.symm)
  unfold registrations keysToRun
  rw [hruns, ← hchecks, List.filter_map, List.map_map, List.map_map]
  rfl

end AnalysisPlan

/-! ## Faults of declared rules -/

namespace Rules.NodeRule

/-- A rule can be made exactly if it names a kind of node. -/
theorem exists_ofConfig_iff {entry : NodeRuleConfig} :
    (∃ check, ofConfig entry = .ok check) ↔ ∃ kind : NodeKind, kind.name = entry.kind := by
  unfold ofConfig
  constructor
  · rintro ⟨check, h⟩
    split at h
    · next kind hkind => exact ⟨kind, NodeKind.name_of_ofName? hkind⟩
    · cases h
  · rintro ⟨kind, hkind⟩
    rw [← hkind, NodeKind.ofName?_name]
    exact ⟨_, rfl⟩

theorem ofConfig_eq_error_iff {entry : NodeRuleConfig} {error : ConfigError} :
    ofConfig entry = .error error ↔
      (∀ kind : NodeKind, kind.name ≠ entry.kind) ∧ error = .unknownNodeKind entry.key entry.kind := by
  constructor
  · intro h
    constructor
    · intro kind hkind
      obtain ⟨check, hcheck⟩ := exists_ofConfig_iff.mpr ⟨kind, hkind⟩
      rw [h] at hcheck
      cases hcheck
    · unfold ofConfig at h
      split at h
      · cases h
      · cases h
        rfl
  · rintro ⟨hunknown, rfl⟩
    unfold ofConfig
    split
    · next kind hkind => exact absurd (NodeKind.name_of_ofName? hkind) (hunknown kind)
    · rfl

/-- The rules that are made have the keys and names that are declared. -/
theorem labels_load {config : Config} {checks : List Check} (h : load config = .ok checks) :
    (checks.map fun check => (check.key, check.name)) =
      config.nodeRules.map fun entry => (entry.key, entry.name) := by
  unfold load at h
  generalize config.nodeRules = entries at h ⊢
  induction entries generalizing checks with
  | nil =>
    cases h
    rfl
  | cons entry rest ih =>
    obtain ⟨check, others, hcheck, hothers, rfl⟩ := mapM_cons_eq_ok_iff.mp h
    rw [List.map_cons, List.map_cons, ih hothers]
    unfold ofConfig at hcheck
    split at hcheck <;> cases hcheck
    rfl

end Rules.NodeRule

/-! ## Faults of registration -/

/-- Every rule wants to hear of something and lists nothing twice. -/
theorem Rule.subscribes (rule : Rule) :
    rule.check.subscriptions ≠ [] ∧ rule.check.subscriptions.Nodup := by
  cases rule with
  | nodes key name kind message severity => exact ⟨List.cons_ne_nil _ _, List.nodup_singleton kind⟩
  | octal severity => exact ⟨List.cons_ne_nil _ _, List.nodup_singleton _⟩
  | dispatch severity call =>
    refine ⟨List.cons_ne_nil _ _, ?_⟩
    show [NodeKind.classDef, .functionDef, .primaryExpr].Nodup
    decide

namespace Dispatcher

variable {registrations : List (Check × Option Severity)}

/-- Checks whose subscriptions are in order can be registered exactly if their keys differ. -/
theorem acceptable_iff_of_subscribes
    (hsubscribes : ∀ registration ∈ registrations, registration.1.subscriptions ≠ [] ∧
      registration.1.subscriptions.Nodup) :
    Acceptable registrations ↔ (registrations.map fun registration => registration.1.key).Nodup :=
  ⟨Acceptable.keys_nodup, fun hkeys => ⟨hkeys, fun registration hmem => (hsubscribes registration hmem).1,
    fun registration hmem => (hsubscribes registration hmem).2⟩⟩

/-- **Checks whose subscriptions are in order fail to register at the first key that comes again.** -/
theorem build_eq_error_iff_of_subscribes
    (hsubscribes : ∀ registration ∈ registrations, registration.1.subscriptions ≠ [] ∧
      registration.1.subscriptions.Nodup) {error : RegistrationError} :
    build registrations = .error error ↔ ∃ earlier key later,
      (registrations.map fun registration => registration.1.key) = earlier ++ key :: later ∧
        earlier.Nodup ∧ key ∈ earlier ∧ error = .duplicateKey key := by
  rw [build_eq_error_iff]
  constructor
  · rintro ⟨earlier, offender, later, rfl, acceptable, hoffends⟩
    obtain ⟨hsome, hnodup⟩ := hsubscribes offender (List.mem_append_right _ List.mem_cons_self)
    cases hoffends with
    | duplicateKey htaken =>
      refine ⟨earlier.map fun registration => registration.1.key, offender.1.key,
        later.map fun registration => registration.1.key, ?_, acceptable.keys_nodup, htaken, rfl⟩
      rw [List.map_append, List.map_cons]
    | emptySubscriptions _ hnone => exact absurd hnone hsome
    | duplicateSubscription _ hsplit _ hagain =>
      rw [hsplit] at hnodup
      exact absurd List.mem_cons_self ((List.nodup_append.mp hnodup).2.2 _ hagain _ · rfl)
  · rintro ⟨earlierKeys, key, laterKeys, hkeys, hnodup, hagain, rfl⟩
    obtain ⟨earlier, rest, rfl, rfl, hrest⟩ := List.map_eq_append_iff.mp hkeys
    obtain ⟨offender, later, rfl, rfl, rfl⟩ := List.map_eq_cons_iff.mp hrest
    refine ⟨earlier, offender, later, rfl, ?_, .duplicateKey hagain⟩
    refine (acceptable_iff_of_subscribes fun registration hmem => ?_).mpr hnodup
    exact hsubscribes registration (List.mem_append_left _ hmem)

end Dispatcher

/-! ## The law -/

theorem Preset.ofName_name (preset : Preset) : ofName preset.name = .ok preset := by
  cases preset <;> rfl

/-- A configuration that names no preset, or a preset that there is, has its rules. -/
theorem Preset.exists_rulesOf {config : Config}
    (hpreset : ∀ name ∈ config.preset, ∃ preset : Preset, preset.name = name) :
    ∃ checks, rulesOf config = .ok checks := by
  unfold rulesOf ofConfig
  cases hname : config.preset with
  | none => exact ⟨_, rfl⟩
  | some name =>
    obtain ⟨preset, rfl⟩ := hpreset name hname
    simp only [ofName_name]
    exact ⟨_, rfl⟩

namespace AnalysisPlan

variable {plan : AnalysisPlan} {currentDirectory : String}

/-- **How making an analyzer fails**: with the first of its three stages that does. -/
theorem build_eq_error_iff {error : AnalyzerError} :
    (plan.build currentDirectory).value = .error error ↔
      (∃ cause, plan.patternTexts.mapM Glob.Pattern.compile = .error cause ∧
        error = .pattern cause) ∨
      (∃ excludes, plan.patternTexts.mapM Glob.Pattern.compile = .ok excludes) ∧
        ((∃ cause, Rules.NodeRule.load plan.config = .error cause ∧ error = .config cause) ∨
          ∃ nodeRules, Rules.NodeRule.load plan.config = .ok nodeRules ∧
            ∃ cause, Dispatcher.build (plan.registrations (plan.checks ++ nodeRules)) = .error cause ∧
              error = .registration cause) := by
  unfold build patternTexts
  cases (plan.excludes ++ plan.config.analyzer.exclude).mapM Glob.Pattern.compile with
  | error cause => simp [eq_comm]
  | ok excludes =>
    cases Rules.NodeRule.load plan.config with
    | error cause => simp [eq_comm]
    | ok nodeRules =>
      cases hbuild : Dispatcher.build (plan.registrations (plan.checks ++ nodeRules)) with
      | error cause => simp [hbuild, eq_comm]
      | ok dispatcher => simp [hbuild]

theorem patternsCompile_iff :
    plan.PatternsCompile ↔
      ∃ excludes, plan.patternTexts.mapM Glob.Pattern.compile = .ok excludes :=
  (exists_mapM_iff plan.patternTexts).symm

theorem kindsKnown_iff :
    plan.KindsKnown ↔ ∃ nodeRules, Rules.NodeRule.load plan.config = .ok nodeRules := by
  unfold KindsKnown Rules.NodeRule.load
  rw [exists_mapM_iff]
  simp only [Rules.NodeRule.exists_ofConfig_iff]

/-- What registration has to do with: the keys of the rules that are to run, and rules whose subscriptions
are in order. -/
theorem registers_rules {checks nodeRules : List Check} (hrules : Preset.rulesOf plan.config = .ok checks)
    (hload : Rules.NodeRule.load plan.config = .ok nodeRules) :
    ((plan.registrations (checks ++ nodeRules)).map fun registration => registration.1.key) =
        plan.keysToRun ∧
      ∀ registration ∈ plan.registrations (checks ++ nodeRules),
        registration.1.subscriptions ≠ [] ∧ registration.1.subscriptions.Nodup := by
  have hchecks := Preset.rulesOf_eq_ok hrules
  constructor
  · apply keys_registrations
    rw [List.map_append, Rules.NodeRule.labels_load hload, hchecks]
    rfl
  · have hset : checks ++ nodeRules = plan.config.ruleSet.map Rule.check := by
      rw [hchecks, Rules.NodeRule.load_eq_ok hload, ← List.map_append]
      rfl
    rw [hset, registrations_map_check]
    intro registration hmem
    obtain ⟨⟨rule, override⟩, _, rfl⟩ := List.mem_map.mp hmem
    exact rule.subscribes

/-- An analyzer is made exactly when no fault is there. -/
theorem exists_build_iff (hrules : Preset.rulesOf plan.config = .ok plan.checks) :
    (∃ analyzer, (plan.build currentDirectory).value = .ok analyzer) ↔
      plan.PatternsCompile ∧ plan.KindsKnown ∧ plan.keysToRun.Nodup := by
  have hkeys : ∀ {nodeRules}, Rules.NodeRule.load plan.config = .ok nodeRules →
      ((∃ dispatcher, Dispatcher.build (plan.registrations (plan.checks ++ nodeRules)) =
        .ok dispatcher) ↔ plan.keysToRun.Nodup) := by
    intro nodeRules hload
    obtain ⟨hkeys, hsubscribes⟩ := registers_rules hrules hload
    rw [Dispatcher.exists_build_iff, Dispatcher.acceptable_iff_of_subscribes hsubscribes, hkeys]
  rw [patternsCompile_iff, kindsKnown_iff]
  simp only [build_eq_ok_iff]
  constructor
  · rintro ⟨_, excludes, nodeRules, dispatcher, hcompile, hload, hbuild, _⟩
    exact ⟨⟨excludes, hcompile⟩, ⟨nodeRules, hload⟩, (hkeys hload).mp ⟨dispatcher, hbuild⟩⟩
  · rintro ⟨⟨excludes, hcompile⟩, ⟨nodeRules, hload⟩, hnodup⟩
    obtain ⟨dispatcher, hbuild⟩ := (hkeys hload).mpr hnodup
    exact ⟨_, excludes, nodeRules, dispatcher, hcompile, hload, hbuild, rfl⟩

/-- An error is why the plan is refused. -/
theorem build_eq_error_iff_refused (hrules : Preset.rulesOf plan.config = .ok plan.checks)
    {error : AnalyzerError} :
    (plan.build currentDirectory).value = .error error ↔ plan.Refused error := by
  have hkind : ∀ {entry : NodeRuleConfig}, (∃ kind : NodeKind, kind.name = entry.kind) ↔
      ∃ check, Rules.NodeRule.ofConfig entry = .ok check := Rules.NodeRule.exists_ofConfig_iff.symm
  rw [build_eq_error_iff, ← patternsCompile_iff]
  constructor
  · rintro (⟨cause, hcompile, rfl⟩ | ⟨hpatterns, ⟨cause, hload, rfl⟩ |
      ⟨nodeRules, hload, cause, hbuild, rfl⟩⟩)
    · obtain ⟨earlier, text, later, hsplit, hearlier, htext⟩ := mapM_eq_error_iff.mp hcompile
      exact .pattern hsplit hearlier htext
    · obtain ⟨earlier, entry, later, hsplit, hearlier, hentry⟩ := mapM_eq_error_iff.mp hload
      obtain ⟨hunknown, rfl⟩ := Rules.NodeRule.ofConfig_eq_error_iff.mp hentry
      exact .unknownKind hpatterns hsplit (fun other hmem => hkind.mpr (hearlier other hmem)) hunknown
    · obtain ⟨hkeys, hsubscribes⟩ := registers_rules hrules hload
      obtain ⟨earlier, key, later, hsplit, hnodup, hagain, rfl⟩ :=
        (Dispatcher.build_eq_error_iff_of_subscribes hsubscribes).mp hbuild
      rw [hkeys] at hsplit
      exact .duplicateKey hpatterns (kindsKnown_iff.mpr ⟨nodeRules, hload⟩) hsplit hnodup hagain
  · intro hrefused
    cases hrefused with
    | pattern hsplit hearlier htext =>
      exact .inl ⟨_, mapM_eq_error_iff.mpr ⟨_, _, _, hsplit, hearlier, htext⟩, rfl⟩
    | unknownKind hpatterns hsplit hearlier hunknown =>
      have hentry := Rules.NodeRule.ofConfig_eq_error_iff.mpr ⟨hunknown, rfl⟩
      refine .inr ⟨hpatterns, .inl ⟨_, mapM_eq_error_iff.mpr ⟨_, _, _, hsplit, ?_, hentry⟩, rfl⟩⟩
      exact fun other hmem => hkind.mp (hearlier other hmem)
    | duplicateKey hpatterns hknown hsplit hnodup hagain =>
      obtain ⟨nodeRules, hload⟩ := kindsKnown_iff.mp hknown
      obtain ⟨hkeys, hsubscribes⟩ := registers_rules hrules hload
      rw [← hkeys] at hsplit
      exact .inr ⟨hpatterns, .inr ⟨nodeRules, hload, _,
        (Dispatcher.build_eq_error_iff_of_subscribes hsubscribes).mpr
          ⟨_, _, _, hsplit, hnodup, hagain, rfl⟩, rfl⟩⟩

/-- **An analyzer is made exactly when nothing is at fault, and the faults are told in a fixed order.** A
configuration whose preset is known has the rules of the preset. With them an analyzer is made exactly when
every text that should be a pattern is one, every declared rule names a kind of node and the rules that are
to run have different keys. Otherwise the error is about the first text that is no pattern; or else about
the first declared rule that names no kind of node, whether it is to run or not; or else about the first
key that comes again among those of the rules that are to run. That a rule wants to hear of nothing, or of
something twice, is never the error. -/
theorem refusals_exact (plan : AnalysisPlan) (currentDirectory : String)
    (hpreset : ∀ name ∈ plan.config.preset, ∃ preset : Preset, preset.name = name) :
    ∃ checks, Preset.rulesOf plan.config = .ok checks ∧
      ((∃ analyzer, ({ plan with checks }.build currentDirectory).value = .ok analyzer) ↔
        plan.PatternsCompile ∧ plan.KindsKnown ∧ plan.keysToRun.Nodup) ∧
      (∀ error, ({ plan with checks }.build currentDirectory).value = .error error ↔
        plan.Refused error) ∧
      ∀ key, ({ plan with checks }.build currentDirectory).value ≠
          .error (.registration (.emptySubscriptions key)) ∧
        ∀ kind, ({ plan with checks }.build currentDirectory).value ≠
          .error (.registration (.duplicateSubscription key kind)) := by
  obtain ⟨checks, hrules⟩ := Preset.exists_rulesOf hpreset
  have hfaults : ∀ error, ({ plan with checks }.build currentDirectory).value = .error error ↔
      { plan with checks }.Refused error := fun error => build_eq_error_iff_refused hrules
  refine ⟨checks, hrules, exists_build_iff hrules, fun error => (hfaults error).trans ?_, fun key => ?_⟩
  · exact ⟨fun hrefused => hrefused.withChecks plan.checks, fun hrefused => hrefused.withChecks checks⟩
  · constructor
    · intro h
      cases (hfaults _).mp h
    · intro kind h
      cases (hfaults _).mp h

/-- A plan that is at fault twice: two rules that are to run have one key, and a rule that is neither to run
nor enabled names no kind of node. -/
def faultyPlan : AnalysisPlan where
  root := none
  paths := []
  checks := []
  onlyRules := some ["octal-value", "X1"]
  excludes := ["**/gen/**"]
  config := { Config.standard with
    preset := some "all"
    rules := [("lambdas", ⟨some false, none, []⟩)]
    nodeRules := [⟨"S1314", "X1", "OCTAL", "Number", none⟩, ⟨"X2", "lambdas", "LAMBDA", "Lambda", none⟩] }
  failOnLoadError := false
  cancelled := false

/-- What is told is the kind of node. -/
theorem faultyPlan_refused :
    (∀ name ∈ faultyPlan.config.preset, ∃ preset : Preset, preset.name = name) ∧
      ¬ faultyPlan.keysToRun.Nodup ∧ ¬ faultyPlan.Runs "X2" "lambdas" ∧
      ∃ checks, Preset.rulesOf faultyPlan.config = .ok checks ∧
        ({ faultyPlan with checks }.build "/w").value =
          .error (.config (.unknownNodeKind "X2" "LAMBDA")) := by
  have hpreset : ∀ name ∈ faultyPlan.config.preset, ∃ preset : Preset, preset.name = name := by
    rintro _ ⟨⟩
    exact ⟨.all, rfl⟩
  have hpatterns : faultyPlan.PatternsCompile := patternsCompile_iff.mpr ⟨_, rfl⟩
  have hunknown : ∀ kind : NodeKind, kind.name ≠ "LAMBDA" := by
    intro kind
    cases kind <;> decide
  have hknown : ∀ other ∈ [(⟨"S1314", "X1", "OCTAL", "Number", none⟩ : NodeRuleConfig)],
      ∃ kind : NodeKind, kind.name = other.kind := by
    intro other hmem
    rw [List.mem_singleton.mp hmem]
    exact ⟨.octal, rfl⟩
  obtain ⟨checks, hrules, _, hfaults, _⟩ := refusals_exact faultyPlan "/w" hpreset
  exact ⟨hpreset, by decide, by decide, checks, hrules,
    (hfaults _).mpr (.unknownKind hpatterns rfl hknown hunknown)⟩

end AnalysisPlan

end TreeLint
