import TreeLint.Config.Basic

/-!
# The table of a rule

Tables are looked up by the name of a rule and then by its key, and whatever is asked of a configuration
about a rule is asked of the table that is found (`Config.table?`). This is said here once, with the name
under which the table stands (`Config.tableName?`): two tables may fit a rule, and only one of them is its
table.
-/

namespace TreeLint.Config

/-- The table under a name, or else the one under a key. -/
def table? (config : Config) (key name : String) : Option RuleConfig :=
  (config.rules.lookup name).or (config.rules.lookup key)

/-- The name under which the table of a rule is found: the name of the rule if there is a table of this
name, or else its key. -/
def tableName? (config : Config) (key name : String) : Option String :=
  if (config.rules.lookup name).isSome then some name
  else if (config.rules.lookup key).isSome then some key
  else none

variable (config : Config) (key name : String)

theorem rule?_eq : config.rule? key name = config.table? key name := by
  unfold rule? table?
  cases config.rules.lookup name <;> rfl

theorem severity?_eq :
    config.severity? key name = (config.table? key name).bind RuleConfig.severity := by
  rw [severity?, rule?_eq]

theorem isEnabled_eq :
    config.isEnabled key name = ((config.table? key name).bind RuleConfig.enabled).getD true := by
  rw [isEnabled, rule?_eq]
  cases config.table? key name <;> rfl

/-- A rule is to run unless its table says otherwise. -/
theorem isEnabled_iff :
    config.isEnabled key name = true ↔
      ∀ table, config.table? key name = some table → table.enabled ≠ some false := by
  rw [isEnabled_eq]
  cases config.table? key name with
  | none => simp
  | some table =>
    obtain ⟨_ | _ | _, severity, options⟩ := table <;> simp

/-- The table of a rule is the one that has the name under which it is found. -/
theorem table?_eq_bind :
    config.table? key name = (config.tableName? key name).bind fun table => config.rules.lookup table := by
  unfold table? tableName?
  cases hname : config.rules.lookup name with
  | some rule => simp [hname]
  | none => cases hkey : config.rules.lookup key <;> simp [hkey]

theorem isSome_tableName? :
    (config.tableName? key name).isSome = (config.table? key name).isSome := by
  unfold table? tableName?
  cases config.rules.lookup name with
  | some rule => rfl
  | none => cases config.rules.lookup key <;> rfl

end TreeLint.Config
