import TreeLint.Proofs.Analyzer.Outcomes
import TreeLint.Proofs.Config.Tables
import TreeLint.Proofs.Dispatcher.Isolation

/-!
# Choosing rules

A list of rules to run and a table that disables a rule leave checks out before they are registered.
**The law** (`AnalysisPlan.selection_filters`): leaving them out is the same as leaving out what they
find. The analysis goes over the same files, fails at the same ones, and what stays of the violations and
of the diagnostics stays in its order.

The two choices look rules up differently. A list names a rule by its key or by its name. A table belongs
to a rule if it has the name of the rule, or the key when no table has the name; `Config.tableName?` says
under which of the two it is found. Names need not be unique, and the name of one rule may be the key of
another.

An analysis that ends at the first file that fails to load is not considered.
-/

namespace TreeLint

/-! ## Parts of results -/

/-- The part of a result whose codes are to be kept, in the same order. All else stays. -/
def LintResult.keep (result : LintResult) (kept : String → Prop) [DecidablePred kept] : LintResult :=
  { result with
    violations := result.violations.filter fun violation => kept violation.code
    diagnostics := result.diagnostics.filter fun diagnostic => kept diagnostic.code }

theorem Analyzer.revises_keep (kept : String → Prop) [DecidablePred kept] :
    Revises (FileReport.keep · kept) (LintResult.keep · kept) where
  empty := rfl
  addReport := by
    intro result report
    simp only [LintResult.keep, LintResult.addReport, FileReport.keep, List.filter_append]
  addFailure := fun _ _ _ => rfl
  cancel := fun _ => rfl

theorem Analyzer.revises_id : Revises id id :=
  ⟨rfl, fun _ _ => rfl, fun _ _ _ => rfl, fun _ => rfl⟩

/-! ## Registered checks -/

namespace Dispatcher

variable {registrations : List (Check × Option Severity)} {dispatcher : Dispatcher}

/-- A check that is registered under the key of another is that check. -/
theorem exists_registered_iff (accepted : build registrations = .ok dispatcher) (P : Check → Prop)
    {registered : Registered} (hmem : registered ∈ dispatcher.checks) :
    (∃ other ∈ dispatcher.checks, other.check.key = registered.check.key ∧ P other.check) ↔
      P registered.check := by
  have hnodup := nodup_keys (exists_build_iff.mp ⟨dispatcher, accepted⟩)
  rw [← (build_spec accepted).2] at hnodup
  constructor
  · rintro ⟨other, hother, hkey, holds⟩
    have hsame : other = registered := List.inj_on_of_nodup_map hnodup hother hmem hkey
    rw [← hsame]
    exact holds
  · intro holds
    exact ⟨registered, hmem, rfl, holds⟩

end Dispatcher

/-! ## Tables -/

namespace Config

/-- The configuration with the table of some name disabled. -/
def disable (config : Config) (table : String) : Config :=
  { config with
    rules := config.rules.map fun (name, rule) =>
      (name, if name = table then { rule with enabled := some false } else rule) }

theorem lookup_disable (config : Config) (table name : String) :
    (config.disable table).rules.lookup name = (config.rules.lookup name).map fun rule =>
      if name = table then { rule with enabled := some false } else rule := by
  unfold disable
  induction config.rules with
  | nil => rfl
  | cons entry rest ih =>
    rw [List.map_cons, List.lookup_cons, List.lookup_cons]
    split
    · next heq => rw [eq_of_beq heq, Option.map_some]
    · exact ih

/-- Disabling a table changes it for the rules whose table it is, and for no others. -/
theorem table?_disable (config : Config) (table key name : String) :
    (config.disable table).table? key name = (config.table? key name).map fun rule =>
      if config.tableName? key name = some table then { rule with enabled := some false } else rule := by
  have hsame : (config.disable table).tableName? key name = config.tableName? key name := by
    simp only [tableName?, lookup_disable, Option.isSome_map]
  rw [table?_eq_bind, table?_eq_bind, hsame]
  cases config.tableName? key name with
  | none => rfl
  | some found => simp only [Option.bind_some, lookup_disable, Option.some.injEq]

theorem severity?_disable (config : Config) (table key name : String) :
    (config.disable table).severity? key name = config.severity? key name := by
  rw [severity?_eq, severity?_eq, table?_disable]
  cases config.table? key name with
  | none => rfl
  | some rule =>
    simp only [Option.map_some, Option.bind_some]
    split <;> rfl

/-- **Disabling a table disables the rules whose table it is.** -/
theorem isEnabled_disable (config : Config) (table key name : String) :
    (config.disable table).isEnabled key name =
      (config.isEnabled key name && decide (config.tableName? key name ≠ some table)) := by
  rw [isEnabled_eq, isEnabled_eq, table?_disable]
  by_cases hfound : config.tableName? key name = some table
  · have hsome := config.isSome_tableName? key name
    rw [hfound, Option.isSome_some, eq_comm, Option.isSome_iff_exists] at hsome
    obtain ⟨rule, hrule⟩ := hsome
    simp [hrule, hfound]
  · cases config.table? key name <;> simp [hfound]

end Config

/-! ## The checks that are registered -/

namespace AnalysisPlan

variable {plan : AnalysisPlan}

/-- A list of rules to run leaves the registrations whose keys or names are on it. -/
theorem registrations_onlyRules (hall : plan.onlyRules = none) (names : List String)
    (checks : List Check) :
    { plan with onlyRules := some names }.registrations checks =
      (plan.registrations checks).filter fun registration =>
        registration.1.key ∈ names ∨ registration.1.name ∈ names := by
  have hcalled : ∀ check : Check,
      names.any check.isCalled = decide (check.key ∈ names ∨ check.name ∈ names) := by
    intro check
    rw [Bool.eq_iff_iff, List.any_eq_true, decide_eq_true_eq]
    constructor
    · rintro ⟨name, hmem, hcalled⟩
      rcases Bool.or_eq_true_iff.mp hcalled with hkey | hname
      · exact .inl (eq_of_beq hkey ▸ hmem)
      · exact .inr (eq_of_beq hname ▸ hmem)
    · rintro (hkey | hname)
      · exact ⟨check.key, hkey, by simp [Check.isCalled]⟩
      · exact ⟨check.name, hname, by simp [Check.isCalled]⟩
  unfold registrations
  rw [List.filter_map, List.filter_filter]
  refine congrArg (List.map _) (List.filter_congr fun check _ => ?_)
  simp only [selects, hall, hcalled, Function.comp_apply, Bool.true_and]

/-- A table that is disabled leaves the registrations of the checks whose table it is not. -/
theorem registrations_disable (plan : AnalysisPlan) (table : String) (checks : List Check) :
    { plan with config := plan.config.disable table }.registrations checks =
      (plan.registrations checks).filter fun registration =>
        plan.config.tableName? registration.1.key registration.1.name ≠ some table := by
  unfold registrations
  rw [List.filter_map, List.filter_filter]
  simp only [Config.severity?_disable, Config.isEnabled_disable]
  refine congrArg (List.map _) (List.filter_congr fun check _ => ?_)
  show (plan.selects check && _) = _
  rw [← Bool.and_assoc, Bool.and_comm]
  rfl

/-! ## The law -/

variable {currentDirectory : String} {analyzer : Analyzer}

/-- **Leaving checks out is leaving out what they find.** If a plan with other choices registers those of
the checks that stay, it makes an analyzer, and this one finds the part that has their keys. -/
theorem exists_build_of_filter (hgoes : plan.failOnLoadError = false)
    (hbuild : (plan.build currentDirectory).value = .ok analyzer) {onlyRules : Option (List String)}
    {rules : List (String × RuleConfig)} (stays : Check → Prop) [DecidablePred stays]
    {kept : String → Prop} [DecidablePred kept]
    (hfewer : ∀ checks, (plan.withRules onlyRules rules).registrations checks =
      (plan.registrations checks).filter fun registration => stays registration.1)
    (hkept : ∀ registered ∈ analyzer.dispatcher.checks,
      kept registered.check.key ↔ stays registered.check) :
    ∃ other, ((plan.withRules onlyRules rules).build currentDirectory).value = .ok other ∧
      ∀ fs, other.files fs = analyzer.files fs ∧
        ∃ result, (analyzer.analyze fs).value = .ok result ∧
          (other.analyze fs).value = .ok (result.keep kept) := by
  obtain ⟨nodeRules, _, accepted, hother⟩ := build_withRules hbuild
  obtain ⟨smaller, hsmaller, hrun⟩ := Dispatcher.exists_build_filter accepted stays kept hkept
  rw [← hfewer] at hsmaller
  refine ⟨{ analyzer with dispatcher := smaller }, hother hsmaller, fun fs => ⟨rfl, ?_⟩⟩
  have hresults := Analyzer.map_analyze_eq (Analyzer.revises_keep kept) Analyzer.revises_id hrun fs
  obtain ⟨result, hresult⟩ : ∃ result, (analyzer.analyze fs).value = .ok result := by
    obtain ⟨_, _, _, _, _, _, rfl⟩ := build_eq_ok_iff.mp hbuild
    exact ⟨_, Analyzer.collect_of_goes_on hgoes _⟩
  refine ⟨result, hresult, ?_⟩
  rw [hresult, Except.map_id] at hresults
  exact hresults

/-- **Choosing rules is filtering findings.** With a list of rules to run, an analysis finds what has the
key of a registered check whose key or name is on the list. With a table disabled, it finds all but what
has the key of a registered check whose table it is. -/
theorem selection_filters (hall : plan.onlyRules = none) (hgoes : plan.failOnLoadError = false)
    (hbuild : (plan.build currentDirectory).value = .ok analyzer) :
    (∀ names : List String, ∃ selected,
      ({ plan with onlyRules := some names }.build currentDirectory).value = .ok selected ∧
        ∀ fs, selected.files fs = analyzer.files fs ∧
          ∃ result, (analyzer.analyze fs).value = .ok result ∧
            (selected.analyze fs).value = .ok (result.keep fun code =>
              ∃ registered ∈ analyzer.dispatcher.checks, registered.check.key = code ∧
                (registered.check.key ∈ names ∨ registered.check.name ∈ names))) ∧
    (∀ table : String, ∃ disabled,
      ({ plan with config := plan.config.disable table }.build currentDirectory).value =
          .ok disabled ∧
        ∀ fs, disabled.files fs = analyzer.files fs ∧
          ∃ result, (analyzer.analyze fs).value = .ok result ∧
            (disabled.analyze fs).value = .ok (result.keep fun code =>
              ¬ ∃ registered ∈ analyzer.dispatcher.checks, registered.check.key = code ∧
                plan.config.tableName? registered.check.key registered.check.name =
                  some table)) := by
  obtain ⟨_, _, accepted, _⟩ := build_withRules hbuild
  constructor
  · intro names
    refine exists_build_of_filter hgoes hbuild (fun check => check.key ∈ names ∨ check.name ∈ names)
      (registrations_onlyRules hall names) ?_
    intro registered hmem
    exact Dispatcher.exists_registered_iff accepted
      (fun check => check.key ∈ names ∨ check.name ∈ names) hmem
  · intro table
    refine exists_build_of_filter hgoes hbuild
      (fun check => plan.config.tableName? check.key check.name ≠ some table)
      (plan.registrations_disable table) ?_
    intro registered hmem
    exact not_congr (Dispatcher.exists_registered_iff accepted
      (fun check => plan.config.tableName? check.key check.name = some table) hmem)

/-- Two checks of one name, and a rule whose name is the key of one of them. Both checks have the table
with their name, so the one with the key of the first is nobody's. -/
def namesakes : AnalysisPlan where
  root := none
  paths := ["A.json"]
  checks := [Dispatcher.watcher "W1" true, Dispatcher.watcher "W2" false]
  onlyRules := none
  excludes := []
  config := { Config.standard with
    rules := [("watcher", ⟨none, some .info, []⟩), ("W1", ⟨none, some .blocker, []⟩)]
    nodeRules := [⟨"X1", "W2", "OCTAL", "Number", none⟩] }
  failOnLoadError := false
  cancelled := false

theorem namesakes_selected :
    namesakes.onlyRules = none ∧ namesakes.failOnLoadError = false ∧
      ∃ analyzer, (namesakes.build "/w").value = .ok analyzer ∧
        (∃ selected, ({ namesakes with onlyRules := some ["W2"] }.build "/w").value = .ok selected ∧
          ∀ fs, selected.files fs = analyzer.files fs ∧
            ∃ result, (analyzer.analyze fs).value = .ok result ∧
              (selected.analyze fs).value = .ok (result.keep fun code =>
                ∃ registered ∈ analyzer.dispatcher.checks, registered.check.key = code ∧
                  (registered.check.key ∈ ["W2"] ∨ registered.check.name ∈ ["W2"]))) ∧
        (∃ disabled,
          ({ namesakes with config := namesakes.config.disable "W1" }.build "/w").value =
              .ok disabled ∧
            ∀ fs, disabled.files fs = analyzer.files fs ∧
              ∃ result, (analyzer.analyze fs).value = .ok result ∧
                (disabled.analyze fs).value = .ok (result.keep fun code =>
                  ¬ ∃ registered ∈ analyzer.dispatcher.checks, registered.check.key = code ∧
                    namesakes.config.tableName? registered.check.key registered.check.name =
                      some "W1")) := by
  obtain ⟨analyzer, hbuild⟩ : ∃ analyzer, (namesakes.build "/w").value = .ok analyzer := ⟨_, rfl⟩
  obtain ⟨hselected, hdisabled⟩ := selection_filters rfl rfl hbuild
  exact ⟨rfl, rfl, analyzer, hbuild, hselected ["W2"], hdisabled "W1"⟩

end AnalysisPlan

end TreeLint
