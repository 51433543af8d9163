import Mathlib.Data.List.Basic
import TreeLint.Analyzer
import TreeLint.Proofs.Tree.Construction

/-!
# What an analysis adds up to

An analysis that succeeds was planned with patterns, rules and registrations that are in order
(`AnalysisPlan.build_eq_ok_iff`), and its violations are those of its files, one file after the other
(`Analyzer.violations_analyze`), which are those of the trees that can be loaded
(`Analyzer.mem_violations_analyze`). A file can be loaded exactly when it can be read, its text is a dump
and the dump spells a tree (`Analyzer.load_eq_ok`).

Nothing is assumed about the checks. Which files an analysis finds is said only for paths that are not
directories.
-/

namespace TreeLint

theorem LintResult.hasViolationsAt_iff {result : LintResult} {threshold : Severity} :
    result.hasViolationsAt threshold = true ↔
      ∃ violation ∈ result.violations, threshold ≤ violation.severity := by
  unfold hasViolationsAt
  simp only [List.any_eq_true, decide_eq_true_eq]

/-! ## Making an analyzer -/

namespace AnalysisPlan

variable {plan : AnalysisPlan} {currentDirectory : String} {analyzer : Analyzer}

/-- **What making an analyzer comes to**: it succeeds exactly when the patterns are patterns, the
configured rules can be made and the checks can be registered. -/
theorem build_eq_ok_iff :
    (plan.build currentDirectory).value = .ok analyzer ↔
      ∃ excludes nodeRules dispatcher,
        (plan.excludes ++ plan.config.analyzer.exclude).mapM Glob.Pattern.compile = .ok excludes ∧
        Rules.NodeRule.load plan.config = .ok nodeRules ∧
        Dispatcher.build (plan.registrations (plan.checks ++ nodeRules)) = .ok dispatcher ∧
        analyzer = {
          root := plan.searchRoot currentDirectory
          currentDirectory
          paths := plan.paths
          dispatcher
          excludes
          suffixes := plan.config.analyzer.suffixes
          failOnLoadError := plan.failOnLoadError
          cancelled := plan.cancelled } := by
  unfold build
  constructor
  · intro h
    split at h
    · cases h
    · next excludes hcompile =>
      split at h
      · cases h
      · next nodeRules hload =>
        dsimp only at h
        split at h
        · cases h
        · next dispatcher hbuild =>
          cases h
          exact ⟨excludes, nodeRules, dispatcher, hcompile, hload, hbuild, rfl⟩
  · rintro ⟨excludes, nodeRules, dispatcher, hcompile, hload, hbuild, rfl⟩
    simp only [hcompile, hload, hbuild]

/-- The plan with another list of rules to run, and with other tables of rules. -/
def withRules (plan : AnalysisPlan) (onlyRules : Option (List String))
    (rules : List (String × RuleConfig)) : AnalysisPlan :=
  { plan with onlyRules, config := { plan.config with rules } }

/-- **Which rules run, and how severe they are, shows in the dispatcher only.** A plan that differs in
this and registers its checks makes the same analyzer with another dispatcher. -/
theorem build_withRules (h : (plan.build currentDirectory).value = .ok analyzer) :
    ∃ nodeRules, Rules.NodeRule.load plan.config = .ok nodeRules ∧
      Dispatcher.build (plan.registrations (plan.checks ++ nodeRules)) = .ok analyzer.dispatcher ∧
      ∀ {onlyRules : Option (List String)} {rules : List (String × RuleConfig)}
        {dispatcher : Dispatcher},
        Dispatcher.build ((plan.withRules onlyRules rules).registrations (plan.checks ++ nodeRules)) =
          .ok dispatcher →
        ((plan.withRules onlyRules rules).build currentDirectory).value =
          .ok { analyzer with dispatcher } := by
  obtain ⟨excludes, nodeRules, dispatcher, hcompile, hload, hbuild, rfl⟩ := build_eq_ok_iff.mp h
  refine ⟨nodeRules, hload, hbuild, fun {onlyRules rules other} hother => ?_⟩
  exact build_eq_ok_iff.mpr ⟨excludes, nodeRules, other, hcompile, hload, hother, rfl⟩

end AnalysisPlan

/-! ## Loading -/

theorem Dump.load_eq_ok {content : String} {dump : Dump} {tree : SyntaxTree} :
    Dump.load content = .ok (dump, tree) ↔ Dump.parse content = .ok dump ∧ dump.toTree = .ok tree := by
  unfold Dump.load
  constructor
  · intro h
    split at h
    · cases h
    · next hparse =>
      split at h
      · cases h
      · next htree =>
        cases h
        exact ⟨hparse, htree⟩
  · rintro ⟨hparse, htree⟩
    simp only [hparse, htree]

namespace Analyzer

/-- **A file is loaded exactly when** it can be read, its text is a dump and the dump spells a tree. -/
theorem load_eq_ok {fs : FileSystem} {path : String} {tree : SyntaxTree} {source : String} :
    load fs path = .ok (tree, source) ↔ ∃ content dump, fs.read path = .ok content ∧
      Dump.parse content = .ok dump ∧ dump.toTree = .ok tree ∧ dump.source.getD path = source := by
  unfold load
  constructor
  · intro h
    split at h
    · cases h
    · next content hread =>
      split at h
      · cases h
      · next dump loaded hload =>
        cases h
        obtain ⟨hparse, htree⟩ := Dump.load_eq_ok.mp hload
        exact ⟨content, dump, hread, hparse, htree, rfl⟩
  · rintro ⟨content, dump, hread, hparse, htree, rfl⟩
    simp only [hread, Dump.load_eq_ok.mpr ⟨hparse, htree⟩]

/-! ## Adding up -/

/-- The violations of a file. -/
def Outcome.violations : Outcome → List Violation
  | .checked report => report.violations
  | _ => []

theorem violations_addOutcome (result : LintResult) (outcome : Outcome) :
    (addOutcome result outcome).violations = result.violations ++ outcome.violations := by
  cases outcome with
  | checked report => rfl
  | failed path cause => exact (List.append_nil _).symm
  | skipped => exact (List.append_nil _).symm

theorem violations_foldl_addOutcome (outcomes : List Outcome) (result : LintResult) :
    (outcomes.foldl addOutcome result).violations =
      result.violations ++ outcomes.flatMap Outcome.violations := by
  induction outcomes generalizing result with
  | nil => exact (List.append_nil _).symm
  | cons outcome rest ih =>
    rw [List.foldl_cons, ih, violations_addOutcome, List.append_assoc, List.flatMap_cons]

theorem collect_eq_ok {failOnLoadError : Bool} {outcomes : List Outcome} {result : LintResult}
    (h : collect failOnLoadError outcomes = .ok result) :
    result = outcomes.foldl addOutcome .empty := by
  unfold collect at h
  split at h
  · cases h
  · cases h
    rfl

/-- Outcomes add up to a result if no failure ends the analysis. -/
theorem collect_of_goes_on {failOnLoadError : Bool} (hgoes : failOnLoadError = false)
    (outcomes : List Outcome) :
    collect failOnLoadError outcomes = .ok (outcomes.foldl addOutcome .empty) := by
  rw [hgoes]
  rfl

/-- **The violations of an analysis** are those of its files, one file after the other. -/
theorem violations_analyze {analyzer : Analyzer} {fs : FileSystem} {result : LintResult}
    (h : (analyzer.analyze fs).value = .ok result) :
    result.violations = (analyzer.files fs).flatMap fun path =>
      (analyzer.process fs path).violations := by
  rw [collect_eq_ok h, violations_foldl_addOutcome, List.flatMap_map]
  exact List.nil_append _

/-- The violations of a file are there if it is loaded, in an analysis that is not called off. -/
theorem mem_violations_process {analyzer : Analyzer} (hgoes : analyzer.cancelled = false)
    {fs : FileSystem} {path : String} {violation : Violation} :
    violation ∈ (analyzer.process fs path).violations ↔ ∃ tree source,
      load fs path = .ok (tree, source) ∧
        violation ∈ (analyzer.dispatcher.run tree source).violations := by
  unfold process
  rw [hgoes, if_neg Bool.false_ne_true]
  cases load fs path with
  | error cause => simp [Outcome.violations]
  | ok loaded =>
    obtain ⟨tree, source⟩ := loaded
    constructor
    · intro h
      exact ⟨tree, source, rfl, h⟩
    · rintro ⟨_, _, hloaded, h⟩
      cases hloaded
      exact h

/-- Paths that are not directories stand for themselves. -/
theorem files_eq_map {analyzer : Analyzer} {fs : FileSystem} (hpaths : analyzer.paths ≠ [])
    (hfiles : ∀ path ∈ analyzer.paths,
      fs.isDirectory (Path.join analyzer.currentDirectory path) = false) :
    analyzer.files fs = analyzer.paths.map (Path.join analyzer.currentDirectory) := by
  have hfiles : ∀ path ∈ analyzer.paths,
      analyzer.filesOf fs path = [Path.join analyzer.currentDirectory path] := by
    intro path hpath
    simp only [filesOf, hfiles path hpath, Bool.false_eq_true, if_false]
  unfold files
  split
  · next hnone => exact absurd hnone hpaths
  · rw [List.flatMap_congr hfiles, List.map_eq_flatMap]

/-- **The violations of an analysis of files** are those of the trees that can be loaded. -/
theorem mem_violations_analyze {analyzer : Analyzer} (hgoes : analyzer.cancelled = false)
    (hpaths : analyzer.paths ≠ []) {fs : FileSystem}
    (hfiles : ∀ path ∈ analyzer.paths,
      fs.isDirectory (Path.join analyzer.currentDirectory path) = false)
    {result : LintResult} (h : (analyzer.analyze fs).value = .ok result) {violation : Violation} :
    violation ∈ result.violations ↔ ∃ path ∈ analyzer.paths, ∃ tree source,
      load fs (Path.join analyzer.currentDirectory path) = .ok (tree, source) ∧
        violation ∈ (analyzer.dispatcher.run tree source).violations := by
  rw [violations_analyze h, files_eq_map hpaths hfiles]
  simp only [List.mem_flatMap, List.mem_map, exists_exists_and_eq_and, mem_violations_process hgoes]

/-! ## Another dispatcher

Two analyzers that differ in their dispatchers alone find the same files and load the same trees. If what
one of them reports of a tree can be read off what the other reports, entry by entry, then so can what
they add up to.
-/

/-- The outcome with another report, if there is one. -/
def Outcome.mapReport (revise : FileReport → FileReport) : Outcome → Outcome
  | .checked report => .checked (revise report)
  | .failed path cause => .failed path cause
  | .skipped => .skipped

/-- A change of results that comes of a change of the reports they are made of. -/
structure Revises (revise : FileReport → FileReport) (change : LintResult → LintResult) : Prop where
  empty : change .empty = .empty
  addReport : ∀ result report,
    change (result.addReport report) = (change result).addReport (revise report)
  addFailure : ∀ result file message,
    change (result.addFailure file message) = (change result).addFailure file message
  cancel : ∀ result, change result.cancel = (change result).cancel

section Revises

variable {revise : FileReport → FileReport} {change : LintResult → LintResult}

/-- **One step.** -/
theorem Revises.addOutcome (h : Revises revise change) (result : LintResult) (outcome : Outcome) :
    change (addOutcome result outcome) =
      Analyzer.addOutcome (change result) (outcome.mapReport revise) := by
  cases outcome with
  | checked report => exact h.addReport result report
  | failed path cause => exact h.addFailure result path cause.message
  | skipped => exact h.cancel result

theorem firstFailure?_mapReport (outcomes : List Outcome) :
    firstFailure? (outcomes.map (Outcome.mapReport revise)) = firstFailure? outcomes := by
  induction outcomes with
  | nil => rfl
  | cons outcome rest ih =>
    cases outcome with
    | checked report => exact ih
    | failed path cause => rfl
    | skipped => exact ih

/-- **All outcomes.** What changed reports add up to is what the reports add up to, changed. -/
theorem Revises.collect (h : Revises revise change) (failOnLoadError : Bool)
    (outcomes : List Outcome) :
    collect failOnLoadError (outcomes.map (Outcome.mapReport revise)) =
      (Analyzer.collect failOnLoadError outcomes).map change := by
  have hfold : (outcomes.map (Outcome.mapReport revise)).foldl Analyzer.addOutcome (change .empty) =
      change (outcomes.foldl Analyzer.addOutcome .empty) := by
    rw [List.foldl_map]
    exact List.foldl_hom change fun result outcome => (h.addOutcome result outcome).symm
  rw [h.empty] at hfold
  unfold Analyzer.collect
  rw [firstFailure?_mapReport, hfold]
  split <;> rfl

end Revises

/-- A tree that is loaded is one that the program can have. -/
theorem built_of_load {fs : FileSystem} {path : String} {tree : SyntaxTree} {source : String}
    (h : load fs path = .ok (tree, source)) : tree.Built := by
  obtain ⟨_, dump, _, _, htree, _⟩ := load_eq_ok.mp h
  exact .ofDump dump htree

/-- **Two analyses with different dispatchers.** If the reports of all trees agree once they are changed,
then so do the results. -/
theorem map_analyze_eq {analyzer : Analyzer} {dispatcher : Dispatcher}
    {revise revise' : FileReport → FileReport} {change change' : LintResult → LintResult}
    (h : Revises revise change) (h' : Revises revise' change')
    (hrun : ∀ tree : SyntaxTree, tree.Built → ∀ file,
      revise' (dispatcher.run tree file) = revise (analyzer.dispatcher.run tree file))
    (fs : FileSystem) :
    ({ analyzer with dispatcher }.analyze fs).value.map change' =
      (analyzer.analyze fs).value.map change := by
  have hprocess : ∀ path : String,
      ({ analyzer with dispatcher }.process fs path).mapReport revise' =
        (analyzer.process fs path).mapReport revise := by
    intro path
    unfold process
    split
    · rfl
    · split
      · rfl
      · next hload => exact congrArg Outcome.checked (hrun _ (built_of_load hload) _)
  have houtcomes : (((analyzer.files fs).map ({ analyzer with dispatcher }.process fs)).map
      (Outcome.mapReport revise')) =
      ((analyzer.files fs).map (analyzer.process fs)).map (Outcome.mapReport revise) := by
    rw [List.map_map, List.map_map]
    exact List.map_congr_left fun path _ => hprocess path
  calc ({ analyzer with dispatcher }.analyze fs).value.map change'
      = collect analyzer.failOnLoadError
          (((analyzer.files fs).map ({ analyzer with dispatcher }.process fs)).map
            (Outcome.mapReport revise')) := (h'.collect _ _).symm
    _ = collect analyzer.failOnLoadError
          (((analyzer.files fs).map (analyzer.process fs)).map (Outcome.mapReport revise)) := by
        rw [houtcomes]
    _ = (analyzer.analyze fs).value.map change := h.collect _ _

end Analyzer

end TreeLint
