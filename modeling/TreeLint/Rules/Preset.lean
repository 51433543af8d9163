import TreeLint.Rules.ConstructorDispatch
import TreeLint.Rules.NodeRule
import TreeLint.Rules.OctalValue

/-!
# Presets

A preset is a named set of the built-in rules.
-/

namespace TreeLint

/-- A named set of rules. -/
inductive Preset where
  | sonarWay
  | all
  deriving DecidableEq, Repr

namespace Preset

/-- The set that is used when none is named. -/
def standard : Preset :=
  .sonarWay

/-- The name of a set. -/
def name : Preset → String
  | .sonarWay => "sonar-way"
  | .all => "all"

/-- The set of a name. -/
def ofName (name : String) : Except ConfigError Preset :=
  if name = Preset.sonarWay.name then .ok .sonarWay
  else if name = Preset.all.name then .ok .all
  else .error (.unknownPreset name)

/-- The name of the dispatch function as a configuration has it. -/
def dispatchCall (config : Config) : String :=
  match config.rule? Rules.ConstructorDispatch.key Rules.ConstructorDispatch.name with
  | some rule =>
    rule.textOption Rules.ConstructorDispatch.callOption Rules.ConstructorDispatch.usualCall
  | none => Rules.ConstructorDispatch.usualCall

/-- The rules of a set as a configuration has them. Both sets hold the two built-in rules. -/
def rules (_preset : Preset) (config : Config) : List Check :=
  [Rules.ConstructorDispatch.standard (dispatchCall config), Rules.OctalValue.standard]

/-- The set that a configuration names. -/
def ofConfig (config : Config) : Except ConfigError Preset :=
  match config.preset with
  | some name => ofName name
  | none => .ok standard

/-- The rules of the set that a configuration names. -/
def rulesOf (config : Config) : Except ConfigError (List Check) :=
  match ofConfig config with
  | .ok preset => .ok (preset.rules config)
  | .error error => .error error

end Preset

end TreeLint
