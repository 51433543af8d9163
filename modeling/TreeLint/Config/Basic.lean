import TreeLint.FileSystem
import TreeLint.Severity
import TreeLint.Toml.Value

/-!
# Configuration

What a configuration file may say: the preset of rules, the severity at which a run fails, where to
look for dumps, a table for each rule, and rules of its own that report all nodes of a kind.
-/

namespace TreeLint

/-- Where dumps are looked for. -/
structure AnalyzerConfig where
  root : String
  exclude : List String
  suffixes : List String
  /-- How many files may be analyzed at a time. -/
  parallelism : Option Nat

/-- The usual places. -/
def AnalyzerConfig.standard : AnalyzerConfig where
  root := "."
  exclude := ["**/target/**"]
  suffixes := [".ast.json"]
  parallelism := none

/-- What is said about one rule. -/
structure RuleConfig where
  enabled : Option Bool
  severity : Option Severity
  options : List (String × Toml.Value)

/-- The value of an option that is a string, or else a default. -/
def RuleConfig.textOption (rule : RuleConfig) (option default : String) : String :=
  match rule.options.lookup option with
  | some (.string value) => value
  | _ => default

/-- A rule that reports all nodes of a kind. -/
structure NodeRuleConfig where
  key : String
  name : String
  kind : String
  message : String
  severity : Option Severity
  deriving DecidableEq, Repr

/-- A configuration. -/
structure Config where
  preset : Option String
  failOn : Option Severity
  analyzer : AnalyzerConfig
  /-- The tables of rules, by the name or the key of the rule. -/
  rules : List (String × RuleConfig)
  /-- The rules that report all nodes of a kind. -/
  nodeRules : List NodeRuleConfig

namespace Config

/-- The configuration that says nothing. -/
def standard : Config where
  preset := none
  failOn := none
  analyzer := .standard
  rules := []
  nodeRules := []

/-- The table of a rule, looked up by its name and then by its key. -/
def rule? (config : Config) (key name : String) : Option RuleConfig :=
  match config.rules.lookup name with
  | some rule => some rule
  | none => config.rules.lookup key

/-- Whether a rule is to run. -/
def isEnabled (config : Config) (key name : String) : Bool :=
  match config.rule? key name with
  | some rule => rule.enabled.getD true
  | none => true

/-- The severity that a rule is given. -/
def severity? (config : Config) (key name : String) : Option Severity :=
  (config.rule? key name).bind RuleConfig.severity

/-- The severity at which a run fails. -/
def threshold (config : Config) : Severity :=
  config.failOn.getD .major

end Config

/-- Why a configuration cannot be used. -/
inductive ConfigError where
  | unreadable (path : String) (cause : IoError)
  | invalid
  | unknownNodeKind (rule kind : String)
  | unknownPreset (name : String)
  deriving DecidableEq, Repr

/-- The wording of an error. -/
def ConfigError.message : ConfigError → String
  | .unreadable path cause => s!"Failed to read config file {path}: {cause.message}"
  | .invalid => "Failed to parse config:"
  | .unknownNodeKind rule kind => s!"Node rule {rule} uses unknown node kind '{kind}'"
  | .unknownPreset name => s!"Unknown preset '{name}'"

/-- The wording of an error and of what caused it. -/
def ConfigError.trace (error : ConfigError) : List String :=
  match error with
  | .unreadable _ cause => [error.message, cause.message]
  | _ => [error.message]

end TreeLint
