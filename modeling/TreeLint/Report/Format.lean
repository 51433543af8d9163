import TreeLint.Report.Json
import TreeLint.Text.Wrap

/-!
# Formats of results

A result is written in one of four formats: as text for a terminal, as JSON, with one line for each
violation, or as a list of framed messages.
-/

namespace TreeLint

/-- A format of results. -/
inductive Format where
  | text
  | json
  | compact
  | rich
  deriving DecidableEq, Repr

namespace Format

/-- Every format. -/
def all : List Format :=
  [.text, .json, .compact, .rich]

/-- The name of a format. -/
def name : Format → String
  | .text => "text"
  | .json => "json"
  | .compact => "compact"
  | .rich => "rich"

/-- The format of a name. -/
def ofName? (name : String) : Option Format :=
  all.find? fun format => format.name == name

/-! ## Colours -/

/-- What ends a colour on a terminal. -/
def plainColor : String :=
  "\x1b[0m"

/-- The colour of a severity on a terminal. -/
def severityColor : Severity → String
  | .blocker | .critical => "\x1b[31m"
  | .major => "\x1b[33m"
  | .minor => "\x1b[36m"
  | .info => "\x1b[34m"

/-- The colour of a result: that of its highest severity, or green. -/
def resultColor (result : LintResult) : String :=
  match Severity.highest? (result.violations.map Violation.severity) with
  | some severity => severityColor severity
  | none => "\x1b[32m"

/-- A text in the colour of problems. -/
def problemLabel (label : String) : String :=
  "\x1b[35m" ++ label ++ plainColor

/-! ## Parts of a result -/

/-- A text as a line of its own. -/
def line (text : String) : String :=
  text ++ "\n"

/-- What the analysis itself had trouble with. -/
def problems (result : LintResult) : String :=
  let notes := result.diagnostics.map fun diagnostic =>
    line (problemLabel "note" ++ ": " ++ diagnostic.text)
  let skipped := result.failures.map fun failure =>
    line (problemLabel "skipped" ++ ": " ++ failure.file ++ ": " ++ failure.message)
  match notes ++ skipped with
  | [] => ""
  | lines => String.join lines ++ "\n"

/-- A violation as text for a terminal. -/
def violationText (violation : Violation) : String :=
  let color := severityColor violation.severity
  line s!"{violation.code} {violation.rule} at {violation.location.text}"
  ++ line s!"  {color}{violation.severity.name}{plainColor}: {violation.message}" ++ "\n"

/-- The sign of a severity in front of a framed message. -/
def icon : Severity → String
  | .info => "☞"
  | .minor | .major => "⚠"
  | .critical | .blocker => "×"

/-- The width of a framed message. -/
def frameWidth : Nat :=
  78

/-- A text in a frame, behind a lead. Further lines are behind a lead of the same length. -/
def framed (first later text : String) : String :=
  line (Text.Wrap.fill (frameWidth - first.length) first later text)

/-- A violation as a framed message. -/
def violationFrame (violation : Violation) : String :=
  line s!"{violation.code}({violation.rule})" ++ "\n"
  ++ framed ("  " ++ icon violation.severity ++ " ") "  │ " violation.message
  ++ framed "  help: " "        " ("at " ++ violation.location.text) ++ "\n"

/-! ## Results -/

/-- A result as text for a terminal. -/
def textOf (result : LintResult) : String :=
  String.join (result.violations.map violationText) ++ problems result
  ++ line (resultColor result ++ result.summary ++ plainColor)

/-- A result with one line for each violation. -/
def compactOf (result : LintResult) : String :=
  String.join (result.violations.map fun violation => line violation.text)

/-- A result as a list of framed messages. -/
def richOf (result : LintResult) : String :=
  String.join (result.violations.map violationFrame) ++ problems result ++ line result.summary

/-- A result in a format. -/
def write (format : Format) (result : LintResult) : String :=
  match format with
  | .text => textOf result
  | .json => line result.toJson.pretty
  | .compact => compactOf result
  | .rich => richOf result

end Format

end TreeLint
