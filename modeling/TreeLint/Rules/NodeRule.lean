import TreeLint.Check
import TreeLint.Config.Basic

/-!
# Rules that report all nodes of a kind

Such rules are declared in the configuration. They report every node of one kind, and their message
may refer to the token of the node as its only argument.
-/

namespace TreeLint.Rules.NodeRule

/-- The rule that reports all nodes of a kind. -/
def check (key name : String) (kind : NodeKind) (message : String) (severity : Severity) : Check :=
  .stateless key name "Rule declared in configuration" severity message [kind]
    fun node => [.report node [node.tokenValue?.getD ""]]

/-- The rule that a configuration declares. -/
def ofConfig (entry : NodeRuleConfig) : Except ConfigError Check :=
  match NodeKind.ofName? entry.kind with
  | some kind =>
    .ok (check entry.key entry.name kind entry.message (entry.severity.getD .major))
  | none => .error (.unknownNodeKind entry.key entry.kind)

/-- All rules that a configuration declares. The first one that cannot be made is reported. -/
def load (config : Config) : Except ConfigError (List Check) :=
  config.nodeRules.mapM ofConfig

end TreeLint.Rules.NodeRule
