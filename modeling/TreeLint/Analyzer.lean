import TreeLint.Discovery
import TreeLint.Dispatcher
import TreeLint.Dump.Text
import TreeLint.Rules.NodeRule

/-!
# Analyzing files

An analyzer is made from a plan: where to look, what to leave out, which checks to run. Making it
fails if a pattern is no pattern, if a configured rule names no kind of node, or if the checks
cannot be registered, in this order. Running it finds the files, loads and checks each of them, and
adds up what was found.
-/

namespace TreeLint

/-- What an analysis is to do. -/
structure AnalysisPlan where
  /-- The directory to search, if it is not the configured one. -/
  root : Option String
  /-- The files and directories to analyze, if not what is below the root. -/
  paths : List String
  checks : List Check
  /-- The keys or names of the only rules to run. -/
  onlyRules : Option (List String)
  /-- The patterns of paths to leave out, besides the configured ones. -/
  excludes : List String
  config : Config
  /-- Whether a file that cannot be loaded ends the analysis. -/
  failOnLoadError : Bool
  cancelled : Bool

/-- Why an analysis fails. -/
inductive AnalyzerError where
  | unreadable (path : String) (cause : IoError)
  | invalidDump (path : String) (cause : Dump.LoadError)
  | pattern (cause : Glob.PatternError)
  | config (cause : ConfigError)
  | registration (cause : RegistrationError)
  deriving DecidableEq, Repr

/-- The wording of an error. -/
def AnalyzerError.message : AnalyzerError → String
  | .unreadable path cause => s!"Failed to read {path}: {cause.message}"
  | .invalidDump path cause => s!"Invalid tree dump {path}: {cause.message}"
  | .pattern cause => s!"Invalid glob pattern: {cause.message}"
  | .config cause => s!"Configuration error: {cause.message}"
  | .registration cause => s!"Registration error: {cause.message}"

/-- The wording of an error and of what caused it. -/
def AnalyzerError.trace (error : AnalyzerError) : List String :=
  error.message :: match error with
    | .unreadable _ cause => [cause.message]
    | .invalidDump _ cause => cause.trace
    | .pattern cause => [cause.message]
    | .config cause => cause.trace
    | .registration cause => [cause.message]

/-- Something that was done, and the warnings given on the way. -/
structure Warned (α : Type u) where
  warnings : List String
  value : α

/-- A plan that is ready to be carried out. -/
structure Analyzer where
  root : String
  currentDirectory : String
  /-- The files and directories to analyze, if not what is below the root. -/
  paths : List String
  dispatcher : Dispatcher
  excludes : List Glob.Pattern
  suffixes : List String
  /-- Whether a file that cannot be loaded ends the analysis. -/
  failOnLoadError : Bool
  cancelled : Bool

namespace AnalysisPlan

/-- The names of a list that no check has. -/
def unknownNames (checks : List Check) (names : List String) : List String :=
  names.filter fun name => !checks.any fun check => check.isCalled name

/-- The warnings about names that no check has: tables of rules, and rules to run. -/
def nameWarnings (plan : AnalysisPlan) (checks : List Check) : List String :=
  (unknownNames checks (plan.config.rules.map Prod.fst)).map
    (fun name => s!"Configuration for unknown rule '{name}' is ignored")
  ++ (unknownNames checks (plan.onlyRules.getD [])).map (fun name => s!"Unknown rule: {name}")

/-- Whether a check is among the rules to run. -/
def selects (plan : AnalysisPlan) (check : Check) : Bool :=
  match plan.onlyRules with
  | some names => names.any check.isCalled
  | none => true

/-- The checks to register, each with the severity it is given: those that are selected and not
disabled. -/
def registrations (plan : AnalysisPlan) (checks : List Check) : List (Check × Option Severity) :=
  (checks.filter fun check =>
    plan.selects check && plan.config.isEnabled check.key check.name).map
    fun check => (check, plan.config.severity? check.key check.name)

/-- The directory to search. -/
def searchRoot (plan : AnalysisPlan) (currentDirectory : String) : String :=
  Path.join currentDirectory (plan.root.getD plan.config.analyzer.root)

/-- Makes an analyzer. -/
def build (plan : AnalysisPlan) (currentDirectory : String) :
    Warned (Except AnalyzerError Analyzer) :=
  match (plan.excludes ++ plan.config.analyzer.exclude).mapM Glob.Pattern.compile with
  | .error cause => ⟨[], .error (.pattern cause)⟩
  | .ok excludes =>
    match Rules.NodeRule.load plan.config with
    | .error cause => ⟨[], .error (.config cause)⟩
    | .ok nodeRules =>
      let checks := plan.checks ++ nodeRules
      let warnings := plan.nameWarnings checks
      match Dispatcher.build (plan.registrations checks) with
      | .error cause => ⟨warnings, .error (.registration cause)⟩
      | .ok dispatcher =>
        ⟨warnings, .ok {
          root := plan.searchRoot currentDirectory
          currentDirectory
          paths := plan.paths
          dispatcher
          excludes
          suffixes := plan.config.analyzer.suffixes
          failOnLoadError := plan.failOnLoadError
          cancelled := plan.cancelled }⟩

end AnalysisPlan

namespace Analyzer

/-- The number of rules that run. -/
def ruleCount (analyzer : Analyzer) : Nat :=
  analyzer.dispatcher.checkCount

/-! ## Finding files -/

/-- The files that a path stands for: what is found in a directory, or else the path itself. -/
def filesOf (analyzer : Analyzer) (fs : FileSystem) (path : String) : List String :=
  let path := Path.join analyzer.currentDirectory path
  if fs.isDirectory path then Discovery.search fs analyzer.suffixes analyzer.excludes path
  else [path]

/-- The files to analyze. -/
def files (analyzer : Analyzer) (fs : FileSystem) : List String :=
  match analyzer.paths with
  | [] => Discovery.search fs analyzer.suffixes analyzer.excludes analyzer.root
  | paths => paths.flatMap (analyzer.filesOf fs)

/-! ## Checking files -/

/-- What becomes of a file. -/
inductive Outcome where
  | checked (report : FileReport)
  | failed (path : String) (cause : AnalyzerError)
  | skipped
  deriving DecidableEq, Repr

/-- Loads a file: its tree, and the path to report. -/
def load (fs : FileSystem) (path : String) : Except AnalyzerError (SyntaxTree × String) :=
  match fs.read path with
  | .error cause => .error (.unreadable path cause)
  | .ok content =>
    match Dump.load content with
    | .error cause => .error (.invalidDump path cause)
    | .ok (dump, tree) => .ok (tree, dump.source.getD path)

/-- Loads and checks a file. -/
def process (analyzer : Analyzer) (fs : FileSystem) (path : String) : Outcome :=
  if analyzer.cancelled then .skipped
  else
    match load fs path with
    | .error cause => .failed path cause
    | .ok (tree, source) => .checked (analyzer.dispatcher.run tree source)

/-- Adds what became of a file to a result. -/
def addOutcome (result : LintResult) : Outcome → LintResult
  | .checked report => result.addReport report
  | .failed path cause => result.addFailure path cause.message
  | .skipped => result.cancel

/-- The first file that could not be loaded. -/
def firstFailure? : List Outcome → Option (String × AnalyzerError)
  | [] => none
  | .failed path cause :: _ => some (path, cause)
  | _ :: rest => firstFailure? rest

/-- What a set of outcomes adds up to. -/
def collect (failOnLoadError : Bool) (outcomes : List Outcome) : Except AnalyzerError LintResult :=
  match failOnLoadError, firstFailure? outcomes with
  | true, some (_, cause) => .error cause
  | _, _ => .ok (outcomes.foldl addOutcome .empty)

/-- The warning about a file that could not be loaded. -/
def loadWarning (path : String) (cause : AnalyzerError) : String :=
  s!"Failed to load {path}: {cause.message}"

/-- The warnings about what became of a file while it was checked. -/
def checkWarnings : Outcome → List String
  | .checked report => report.warnings
  | _ => []

/-- The warnings about files that could not be loaded. The first one is the last if it ends the
analysis. -/
def loadWarnings (failOnLoadError : Bool) (outcomes : List Outcome) : List String :=
  match failOnLoadError, firstFailure? outcomes with
  | true, some (path, cause) => [loadWarning path cause]
  | _, _ => outcomes.filterMap fun
    | .failed path cause => some (loadWarning path cause)
    | _ => none

/-- The warning about an analysis that was called off. -/
def cancelWarning (result : Except AnalyzerError LintResult) : List String :=
  match result with
  | .ok result =>
    if result.cancelled then ["Analysis was cancelled before all files were checked"] else []
  | .error _ => []

/-- Finds, loads and checks the files, and adds up what was found. -/
def analyze (analyzer : Analyzer) (fs : FileSystem) : Warned (Except AnalyzerError LintResult) :=
  let outcomes := (analyzer.files fs).map (analyzer.process fs)
  let result := collect analyzer.failOnLoadError outcomes
  ⟨outcomes.flatMap checkWarnings ++ loadWarnings analyzer.failOnLoadError outcomes
    ++ cancelWarning result, result⟩

end Analyzer

end TreeLint
