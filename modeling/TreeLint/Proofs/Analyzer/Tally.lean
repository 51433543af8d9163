import TreeLint.Proofs.Analyzer.Outcomes

/-!
# Nothing is lost

What becomes of the files of an analysis is added up by three functions, one for a report, one for a file
that could not be loaded, and one for a file that was skipped; results are put together by a fourth.
**The law** (`Analyzer.analysis_adds_up`): what comes out lists the reports and the failures in the order
of the files and counts every file once, and it does not matter into which parts the files are split. If a
failure ends the analysis, it is the first one.

The flag that calls an analysis off is looked at for each file in turn, so that it may be set while the
analysis goes on. A `Turn` is a file with what the flag was then. An analysis whose flag does not change
has the same in all its turns.

The four functions agree because each of the three adds the result of one file
(`Analyzer.addOutcome_eq_extend`) and putting results together is associative. From that the result of
all files is read off at once (`Analyzer.foldl_addOutcome_eq`).
-/

namespace TreeLint

namespace LintResult

@[simp]
theorem empty_extend (result : LintResult) : empty.extend result = result := by
  simp [extend, empty]

@[simp]
theorem extend_empty (result : LintResult) : result.extend empty = result := by
  simp [extend, empty]

theorem extend_assoc (first second third : LintResult) :
    (first.extend second).extend third = first.extend (second.extend third) := by
  simp only [extend, List.append_assoc, Nat.add_assoc, Bool.or_assoc]

end LintResult

namespace Analyzer

/-! ## Adding up outcomes -/

/-- **One step**: adding what became of a file is putting its own result behind. -/
theorem addOutcome_eq_extend (result : LintResult) (outcome : Outcome) :
    addOutcome result outcome = result.extend (addOutcome .empty outcome) := by
  cases outcome <;>
    simp [addOutcome, LintResult.addReport, LintResult.addFailure, LintResult.cancel,
      LintResult.extend, LintResult.empty]

/-- **All files**: what outcomes add to a result is what they add up to by themselves. -/
theorem foldl_addOutcome_eq_extend (outcomes : List Outcome) (result : LintResult) :
    outcomes.foldl addOutcome result = result.extend (outcomes.foldl addOutcome .empty) := by
  induction outcomes generalizing result with
  | nil => exact (LintResult.extend_empty result).symm
  | cons outcome rest ih =>
    rw [List.foldl_cons, List.foldl_cons, ih, ih (addOutcome .empty outcome),
      addOutcome_eq_extend, LintResult.extend_assoc]

/-- Outcomes may be added up in parts. -/
theorem foldl_addOutcome_append (first second : List Outcome) :
    (first ++ second).foldl addOutcome .empty =
      (first.foldl addOutcome .empty).extend (second.foldl addOutcome .empty) := by
  rw [List.foldl_append, foldl_addOutcome_eq_extend]

namespace Outcome

/-- The report on a file that was checked. -/
def report? : Outcome → Option FileReport
  | .checked report => some report
  | _ => none

/-- A file that could not be loaded, and why. -/
def failed? : Outcome → Option (String × AnalyzerError)
  | .failed path cause => some (path, cause)
  | _ => none

/-- Whether a file was skipped. -/
def isSkipped : Outcome → Bool
  | .skipped => true
  | _ => false

end Outcome

/-- A file that could not be loaded, as results list it. -/
def failureEntry (failed : String × AnalyzerError) : FileFailure :=
  ⟨failed.1, failed.2.message⟩

/-- **What outcomes add up to**, part by part. -/
theorem foldl_addOutcome_eq (outcomes : List Outcome) :
    outcomes.foldl addOutcome .empty =
      { violations := (outcomes.filterMap Outcome.report?).flatMap FileReport.violations
        diagnostics := (outcomes.filterMap Outcome.report?).flatMap FileReport.diagnostics
        failures := (outcomes.filterMap Outcome.failed?).map failureEntry
        filesChecked := (outcomes.filterMap Outcome.report?).length
        cancelled := outcomes.any Outcome.isSkipped } := by
  induction outcomes with
  | nil => rfl
  | cons outcome rest ih =>
    rw [List.foldl_cons, foldl_addOutcome_eq_extend, ih]
    cases outcome <;>
      simp [addOutcome, LintResult.addReport, LintResult.addFailure, LintResult.cancel,
        LintResult.extend, LintResult.empty, List.filterMap_cons, Outcome.report?, Outcome.failed?,
        Outcome.isSkipped, failureEntry, Nat.add_comm]

/-- Every file is checked, or could not be loaded, or was skipped. -/
theorem length_outcomes (outcomes : List Outcome) :
    (outcomes.filterMap Outcome.report?).length + (outcomes.filterMap Outcome.failed?).length +
      outcomes.countP Outcome.isSkipped = outcomes.length := by
  induction outcomes with
  | nil => rfl
  | cons outcome rest ih =>
    cases outcome <;>
      simp only [List.filterMap_cons, List.countP_cons, Outcome.report?, Outcome.failed?,
        Outcome.isSkipped, List.length_cons, if_true, Bool.false_eq_true, if_false] <;>
      omega

/-- The failure that may end an analysis is the first of all. -/
theorem firstFailure?_eq_head? (outcomes : List Outcome) :
    firstFailure? outcomes = (outcomes.filterMap Outcome.failed?).head? := by
  induction outcomes with
  | nil => rfl
  | cons outcome rest ih =>
    cases outcome <;> simp [firstFailure?, List.filterMap_cons, Outcome.failed?, ih]

/-! ## Files in their turns -/

/-- A file whose turn it is in an analysis, and whether the analysis has been called off by then. -/
structure Turn where
  path : String
  cancelled : Bool
  deriving DecidableEq, Repr

/-- What becomes of the files in their turns. -/
def outcomes (analyzer : Analyzer) (fs : FileSystem) (turns : List Turn) : List Outcome :=
  turns.map fun turn => { analyzer with cancelled := turn.cancelled }.process fs turn.path

/-- The turns of an analysis whose flag does not change. -/
def turns (analyzer : Analyzer) (fs : FileSystem) : List Turn :=
  (analyzer.files fs).map fun path => ⟨path, analyzer.cancelled⟩

/-- **The report on a file**: if the analysis goes on, and the file can be read and is the dump of a tree,
what the checks find in this tree, with the source that the dump records, or else the path of the
dump. -/
def report? (analyzer : Analyzer) (fs : FileSystem) (turn : Turn) : Option FileReport :=
  if turn.cancelled then none
  else do
    let content ← (fs.read turn.path).toOption
    let dump ← (Dump.parse content).toOption
    let tree ← dump.toTree.toOption
    return analyzer.dispatcher.run tree (dump.source.getD turn.path)

/-- **Why a file fails**, if it does: it cannot be read, or is no dump, or the dump of no tree. -/
def failure? (fs : FileSystem) (turn : Turn) : Option AnalyzerError :=
  if turn.cancelled then none
  else
    match fs.read turn.path with
    | .error cause => some (.unreadable turn.path cause)
    | .ok content =>
      match Dump.parse content with
      | .error cause => some (.invalidDump turn.path (.text cause))
      | .ok dump =>
        match dump.toTree with
        | .error cause => some (.invalidDump turn.path (.tree cause))
        | .ok _ => none

/-- **What becomes of a file in its turn.** -/
theorem process_turn (analyzer : Analyzer) (fs : FileSystem) (turn : Turn) :
    ({ analyzer with cancelled := turn.cancelled }.process fs turn.path).report? =
        analyzer.report? fs turn ∧
      ({ analyzer with cancelled := turn.cancelled }.process fs turn.path).failed? =
        (failure? fs turn).map (turn.path, ·) ∧
      ({ analyzer with cancelled := turn.cancelled }.process fs turn.path).isSkipped =
        turn.cancelled := by
  obtain ⟨path, cancelled⟩ := turn
  cases cancelled with
  | true => exact ⟨rfl, rfl, rfl⟩
  | false =>
    unfold process load report? failure? Dump.load
    cases fs.read path with
    | error cause => exact ⟨rfl, rfl, rfl⟩
    | ok content =>
      cases hparse : Dump.parse content with
      | error cause =>
        simp [hparse, Except.toOption, Outcome.report?, Outcome.failed?, Outcome.isSkipped]
      | ok dump =>
        cases htree : dump.toTree <;>
          simp [hparse, htree, Except.toOption, Outcome.report?, Outcome.failed?, Outcome.isSkipped]

section Outcomes

variable (analyzer : Analyzer) (fs : FileSystem) (turns : List Turn)

theorem filterMap_report?_outcomes :
    (analyzer.outcomes fs turns).filterMap Outcome.report? = turns.filterMap (analyzer.report? fs) := by
  unfold outcomes
  rw [List.filterMap_map]
  exact List.filterMap_congr fun turn _ => (process_turn analyzer fs turn).1

theorem filterMap_failed?_outcomes :
    (analyzer.outcomes fs turns).filterMap Outcome.failed? =
      turns.filterMap fun turn => (failure? fs turn).map (turn.path, ·) := by
  unfold outcomes
  rw [List.filterMap_map]
  exact List.filterMap_congr fun turn _ => (process_turn analyzer fs turn).2.1

theorem map_isSkipped_outcomes :
    (analyzer.outcomes fs turns).map Outcome.isSkipped = turns.map Turn.cancelled := by
  unfold outcomes
  rw [List.map_map]
  exact List.map_congr_left fun turn _ => (process_turn analyzer fs turn).2.2

end Outcomes

/-! ## The law -/

/-- **A result that loses, repeats and reorders nothing**: it lists what was found in the files that could
be loaded, and the files that could not, in the order of their turns, and it counts every file once. -/
structure AddsUp (analyzer : Analyzer) (fs : FileSystem) (turns : List Turn) (result : LintResult) :
    Prop where
  violations : result.violations =
    (turns.filterMap (analyzer.report? fs)).flatMap FileReport.violations
  diagnostics : result.diagnostics =
    (turns.filterMap (analyzer.report? fs)).flatMap FileReport.diagnostics
  failures : result.failures = turns.filterMap fun turn =>
    (failure? fs turn).map fun cause => ⟨turn.path, cause.message⟩
  /-- Every file is checked, or failed, or was skipped. -/
  accounted : result.filesChecked + result.failures.length + turns.countP Turn.cancelled =
    turns.length
  cancelled_iff : result.cancelled = true ↔ ∃ turn ∈ turns, turn.cancelled = true

theorem addsUp_foldl (analyzer : Analyzer) (fs : FileSystem) (turns : List Turn) :
    analyzer.AddsUp fs turns ((analyzer.outcomes fs turns).foldl addOutcome .empty) := by
  have hfailures : ((analyzer.outcomes fs turns).filterMap Outcome.failed?).map failureEntry =
      turns.filterMap fun turn => (failure? fs turn).map fun cause => ⟨turn.path, cause.message⟩ := by
    rw [filterMap_failed?_outcomes, List.map_filterMap]
    simp only [Option.map_map]
    rfl
  have hskipped : (analyzer.outcomes fs turns).countP Outcome.isSkipped =
      turns.countP Turn.cancelled := by
    have hflags := congrArg (List.countP id) (map_isSkipped_outcomes analyzer fs turns)
    rw [List.countP_map, List.countP_map] at hflags
    exact hflags
  have hany : (analyzer.outcomes fs turns).any Outcome.isSkipped = turns.any Turn.cancelled := by
    have hflags := congrArg (List.any · id) (map_isSkipped_outcomes analyzer fs turns)
    simp only [List.any_map] at hflags
    exact hflags
  have hlength : (analyzer.outcomes fs turns).length = turns.length := List.length_map _
  have haccounted := length_outcomes (analyzer.outcomes fs turns)
  rw [hskipped, hlength] at haccounted
  rw [foldl_addOutcome_eq]
  refine ⟨?_, ?_, hfailures, ?_, ?_⟩
  · rw [filterMap_report?_outcomes]
  · rw [filterMap_report?_outcomes]
  · rw [List.length_map]
    exact haccounted
  · rw [hany, List.any_eq_true]

/-- **What ends an analysis** that a failure may end: the first failure in the order of the turns. -/
theorem collect_true_outcomes (analyzer : Analyzer) (fs : FileSystem) (turns : List Turn) :
    collect true (analyzer.outcomes fs turns) =
      match turns.findSome? (failure? fs) with
      | some cause => .error cause
      | none => .ok ((analyzer.outcomes fs turns).foldl addOutcome .empty) := by
  have hfirst : (firstFailure? (analyzer.outcomes fs turns)).map Prod.snd =
      turns.findSome? (failure? fs) := by
    rw [firstFailure?_eq_head?, filterMap_failed?_outcomes, ← List.head?_map, List.map_filterMap,
      ← List.head?_filterMap]
    simp only [Option.map_map, Function.comp_def, Option.map_id']
  unfold collect
  rw [← hfirst]
  cases firstFailure? (analyzer.outcomes fs turns) <;> rfl

/-- An analysis goes through the files that it finds, with the flag that it has. -/
theorem analyze_eq_collect (analyzer : Analyzer) (fs : FileSystem) :
    (analyzer.analyze fs).value =
      collect analyzer.failOnLoadError (analyzer.outcomes fs (analyzer.turns fs)) := by
  unfold outcomes turns
  rw [List.map_map]
  rfl

/-- **Nothing is lost, repeated or reordered.** If failures do not end the analysis, a result comes out
that adds up, and however the files are split in two, it is that of the first part followed by that of
the second. If a failure ends the analysis, the first one does, and without one the result is the same. All
of that holds of the turns that an analysis goes through. -/
theorem analysis_adds_up (analyzer : Analyzer) (fs : FileSystem) (turns : List Turn) :
    (∃ result, collect false (analyzer.outcomes fs turns) = .ok result ∧
      analyzer.AddsUp fs turns result ∧
      (∀ count, ∃ first second,
        collect false (analyzer.outcomes fs (turns.take count)) = .ok first ∧
        collect false (analyzer.outcomes fs (turns.drop count)) = .ok second ∧
        result = first.extend second) ∧
      collect true (analyzer.outcomes fs turns) =
        match turns.findSome? (failure? fs) with
        | some cause => .error cause
        | none => .ok result) ∧
    (analyzer.analyze fs).value =
      collect analyzer.failOnLoadError (analyzer.outcomes fs (analyzer.turns fs)) := by
  refine ⟨⟨_, collect_of_goes_on rfl _, addsUp_foldl analyzer fs turns, fun count => ?_,
    collect_true_outcomes analyzer fs turns⟩, analyze_eq_collect analyzer fs⟩
  refine ⟨_, _, collect_of_goes_on rfl _, collect_of_goes_on rfl _, ?_⟩
  rw [← foldl_addOutcome_append]
  unfold outcomes
  rw [← List.map_append, List.take_append_drop]

end Analyzer

end TreeLint
