import TreeLint.Check

/-!
# Octal literals

A leading zero turns a number into an octal one, so that `010` reads as ten and means eight. The
rule reports every octal literal.
-/

namespace TreeLint.Rules.OctalValue

/-- The key of the rule. -/
def key : String :=
  "S1314"

/-- The name of the rule. -/
def name : String :=
  "octal-value"

/-- The rule, with a severity. -/
def check (severity : Severity) : Check :=
  .stateless key name "Forbids octal numeric literals" severity
    "Use decimal rather than octal values." [.octal] fun node => [.report node []]

/-- The rule with its usual severity. -/
def standard : Check :=
  check .major

end TreeLint.Rules.OctalValue
