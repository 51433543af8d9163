import TreeLint.Config.Basic
import TreeLint.Toml.Document

/-!
# Reading configurations

A configuration is a TOML document. Keys that are not known are ignored, except in the table of a
rule, where they are its options. A part with a fixed set of keys may also be written as the array
of its values. In an option, a date or time may also be written as the table that it is read as.
-/

namespace TreeLint.Config

open Toml (Value)

/-- A string. -/
def text? : Value → Option String
  | .string value => some value
  | _ => none

/-- A truth value. -/
def bool? : Value → Option Bool
  | .boolean value => some value
  | _ => none

/-- A whole number that is not negative. -/
def count? : Value → Option Nat
  | .integer (.ofNat n) => some n
  | _ => none

/-- The items of an array. -/
def list? {α : Type} (item : Value → Option α) : Value → Option (List α)
  | .array _ items => items.mapM item
  | _ => none

/-- A severity: its name, or a table with the name as its only key and nothing under it. -/
def severityOf? : Value → Option Severity
  | .string name => Severity.ofName? name
  | .table _ [(name, .table _ [])] => Severity.ofName? name
  | .table _ [(name, .array _ [])] => Severity.ofName? name
  | _ => none

/-- The value of an entry, or a default if there is no such entry. An entry that does not fit makes
the whole unfit. -/
def entryOr {α : Type} (entries : List (String × Value)) (key : String) (default : α)
    (read : Value → Option α) : Option α :=
  match entries.lookup key with
  | some value => read value
  | none => some default

/-- The value of an entry that has to be there. -/
def entry? {α : Type} (entries : List (String × Value)) (key : String)
    (read : Value → Option α) : Option α :=
  (entries.lookup key).bind read

/-- Pairs the items of an array with the keys they stand for. -/
def pairKeys (keys : List String) (items : List Value) : List (String × Value) :=
  keys.zip items

/-- The entries of a part with a fixed set of keys. -/
def record? (keys : List String) : Value → Option (List (String × Value))
  | .array _ items => some (pairKeys keys items)
  | value => value.entries?

/-- Where dumps are looked for. -/
def analyzer? (value : Value) : Option AnalyzerConfig := do
  let usual := AnalyzerConfig.standard
  let entries ← record? ["root", "exclude", "suffixes", "parallelism"] value
  let root ← entryOr entries "root" usual.root text?
  let exclude ← entryOr entries "exclude" usual.exclude (list? text?)
  let suffixes ← entryOr entries "suffixes" usual.suffixes (list? text?)
  let parallelism ← entryOr entries "parallelism" usual.parallelism
    fun value => (count? value).map some
  return { root, exclude, suffixes, parallelism }

mutual

/-- The value of an option. A table that begins with the key of a date or time is one, and has to
spell it. -/
def optionValue? : Value → Option Value
  | .array ofHeaders items => (optionItems? items).map (.array ofHeaders)
  | .table origin entries =>
    match entries with
    | [] => some (.table origin [])
    | (key, value) :: rest =>
      if key = Toml.datetimeKey then
        if rest.isEmpty then (text? value).bind Toml.dateTimeOfText? else none
      else do
        let value ← optionValue? value
        let rest ← optionEntries? rest
        return .table origin ((key, value) :: rest)
  | value => some value

/-- The items of an array in an option. -/
def optionItems? : List Value → Option (List Value)
  | [] => some []
  | value :: rest => do
    let value ← optionValue? value
    let rest ← optionItems? rest
    return value :: rest

/-- The entries of a table in an option. -/
def optionEntries? : List (String × Value) → Option (List (String × Value))
  | [] => some []
  | (key, value) :: rest => do
    let value ← optionValue? value
    let rest ← optionEntries? rest
    return (key, value) :: rest

end

/-- What is said about one rule. -/
def ruleConfig? (value : Value) : Option RuleConfig := do
  let entries ← value.entries?
  let enabled ← entryOr entries "enabled" none fun value => (bool? value).map some
  let severity ← entryOr entries "severity" none fun value => (severityOf? value).map some
  let options ← optionEntries?
    (entries.filter fun (key, _) => key ≠ "enabled" ∧ key ≠ "severity")
  return { enabled, severity, options }

/-- The tables of rules. -/
def rules? (value : Value) : Option (List (String × RuleConfig)) := do
  let entries ← value.entries?
  entries.mapM fun (key, value) => (ruleConfig? value).map fun rule => (key, rule)

/-- A rule that reports all nodes of a kind. -/
def nodeRule? (value : Value) : Option NodeRuleConfig := do
  let entries ← record? ["key", "name", "kind", "message", "severity"] value
  let key ← entry? entries "key" text?
  let name ← entry? entries "name" text?
  let kind ← entry? entries "kind" text?
  let message ← entry? entries "message" text?
  let severity ← entryOr entries "severity" none fun value => (severityOf? value).map some
  return { key, name, kind, message, severity }

/-- The severity at which a run fails, under either of its two keys but not under both. -/
def failOn? (entries : List (String × Value)) : Option (Option Severity) :=
  match entries.lookup "fail-on", entries.lookup "fail_on" with
  | some _, some _ => none
  | some value, none | none, some value => (severityOf? value).map some
  | none, none => some none

/-- The configuration that a document spells. -/
def ofTable? (table : Toml.Table) : Option Config := do
  let preset ← entryOr table.entries "preset" none fun value => (text? value).map some
  let failOn ← failOn? table.entries
  let analyzer ← entryOr table.entries "analyzer" .standard analyzer?
  let rules ← entryOr table.entries "rules" [] rules?
  let nodeRules ← entryOr table.entries "node-rules" [] (list? nodeRule?)
  return { preset, failOn, analyzer, rules, nodeRules }

/-- The configuration that a text spells. -/
def parse (text : String) : Except ConfigError Config :=
  match (Toml.parse text).bind ofTable? with
  | some config => .ok config
  | none => .error .invalid

end TreeLint.Config
