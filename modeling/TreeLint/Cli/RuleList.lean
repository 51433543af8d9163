import TreeLint.Rules.Preset

/-!
# The list of rules

The rules in columns, followed by the presets, by how rules are selected, and by the kinds of nodes
that a configured rule can report.
-/

namespace TreeLint.Cli.RuleList

/-- A text with spaces behind it up to a width. -/
def column (width : Nat) (text : String) : String :=
  text ++ String.ofList (List.replicate (width - text.length) ' ')

/-- The columns of one line. -/
def row (code name severity description : String) : String :=
  " ".intercalate [column 8 code, column 35 name, column 9 severity, description]

/-- The line of a rule. -/
def ruleRow (check : Check) : String :=
  row check.key check.name check.severity.name check.description

/-- Four to a line, divided by commas. -/
def inFours : List String → List String
  | a :: b :: c :: d :: rest => ", ".intercalate [a, b, c, d] :: inFours rest
  | [] => []
  | rest => [", ".intercalate rest]

/-- The lines of the list. -/
def lines : List String :=
  ["Available rules:", "",
   row "Code" "Name" "Severity" "Description",
   String.ofList (List.replicate 90 '-')]
  ++ (Preset.all.rules .standard).map ruleRow
  ++ ["",
      "Presets:",
      "  sonar-way  - S1467, S1314 (default)",
      "  all        - Every built-in rule",
      "",
      "Use --rules to filter specific rules, e.g.:",
      "  flexlint check --rules octal-value",
      "  flexlint check --rules S1467,S1314",
      "",
      "Node kinds usable in [[node-rules]]:"]
  ++ (inFours (NodeKind.all.map NodeKind.name)).map ("  " ++ ·)

/-- The list. -/
def text : String :=
  String.join (lines.map (· ++ "\n"))

end TreeLint.Cli.RuleList
