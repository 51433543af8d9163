import TreeLint.Analyzer
import TreeLint.Cli.Command
import TreeLint.Config.Locate
import TreeLint.Rules.Preset
import TreeLint.Text.Blank

/-!
# Checking files

The command that checks files loads the configuration, selects the rules of its preset, makes an
analyzer and runs it. The verdict is that the check fails if some violation reaches the severity at
which a run is configured to fail.
-/

namespace TreeLint.Cli

/-- What a check found, and whether it fails. -/
structure Verdict where
  result : LintResult
  fails : Bool
  deriving DecidableEq, Repr

namespace CheckRequest

/-- The rules that a list divided by commas names. -/
def ruleNames (list : String) : List String :=
  (Text.fieldsOf ',' list).map Text.trim

/-- The plan of a check. -/
def plan (request : CheckRequest) (loaded : LoadedConfig) (checks : List Check) :
    AnalysisPlan where
  root := some loaded.root
  paths := request.paths
  checks := checks
  onlyRules := request.rules.map ruleNames
  excludes := request.excludes
  config := loaded.config
  failOnLoadError := false
  cancelled := false

/-- Carries out a check with a configuration. -/
def runWith (request : CheckRequest) (env : Environment) (loaded : LoadedConfig) :
    Warned (Except ErrorTrace Verdict) :=
  match Preset.rulesOf loaded.config with
  | .error error => ⟨[], .error ⟨"Failed to select rules", error.trace⟩⟩
  | .ok checks =>
    match (request.plan loaded checks).build env.currentDirectory with
    | ⟨warnings, .error error⟩ => ⟨warnings, .error ⟨"Failed to build analyzer", error.trace⟩⟩
    | ⟨warnings, .ok analyzer⟩ =>
      match analyzer.analyze env.files with
      | ⟨more, .error error⟩ => ⟨warnings ++ more, .error ⟨"Analysis failed", error.trace⟩⟩
      | ⟨more, .ok result⟩ =>
        ⟨warnings ++ more, .ok ⟨result, result.hasViolationsAt loaded.config.threshold⟩⟩

/-- Carries out a check. -/
def run (request : CheckRequest) (env : Environment) : Warned (Except ErrorTrace Verdict) :=
  match LoadedConfig.load env request.config request.paths with
  | .error error => ⟨[], .error error⟩
  | .ok loaded => request.runWith env loaded

end CheckRequest

end TreeLint.Cli
