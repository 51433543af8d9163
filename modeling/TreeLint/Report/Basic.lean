import TreeLint.Severity
import TreeLint.Text.Decimal

/-!
# Reports

What an analysis finds. A violation is a finding of a rule about the source. A tool diagnostic says
that the analysis itself had trouble: a rule failed, or met a tree it could not read. The report of
a file holds both in the order in which they were found, and the result of a run adds up the reports
of its files.
-/

namespace TreeLint

/-- A place in a source file. -/
structure Location where
  file : String
  line : Nat
  column : Nat
  deriving DecidableEq, Repr

/-- The written form of a place. -/
def Location.text (location : Location) : String :=
  s!"{location.file}:{Text.Decimal.text location.line}:{Text.Decimal.text location.column}"

/-- A finding of a rule. -/
structure Violation where
  code : String
  rule : String
  severity : Severity
  location : Location
  message : String
  deriving DecidableEq, Repr

/-- A violation on one line. -/
def Violation.text (violation : Violation) : String :=
  s!"{violation.location.text}: {violation.severity.name} [{violation.code}] {violation.message}"

/-- What kind of trouble an analysis had. -/
inductive DiagnosticKind where
  | checkFailed
  | malformedTree
  deriving DecidableEq, Repr

namespace DiagnosticKind

/-- Every kind. -/
def all : List DiagnosticKind :=
  [.checkFailed, .malformedTree]

/-- The written form of a kind. -/
def name : DiagnosticKind → String
  | .checkFailed => "check-failed"
  | .malformedTree => "malformed-tree"

/-- The kind with a written form. -/
def ofName? (text : String) : Option DiagnosticKind :=
  all.find? fun kind => kind.name == text

end DiagnosticKind

/-- Trouble that the analysis itself had. -/
structure ToolDiagnostic where
  code : String
  kind : DiagnosticKind
  location : Location
  message : String
  deriving DecidableEq, Repr

/-- A diagnostic on one line. -/
def ToolDiagnostic.text (diagnostic : ToolDiagnostic) : String :=
  let line := Text.Decimal.text diagnostic.location.line
  let label := s!"{diagnostic.kind.name} [{diagnostic.code}]"
  s!"{diagnostic.location.file}:{line}: {label} {diagnostic.message}"

/-- What was found in one file. -/
structure FileReport where
  file : String
  /-- The violations in the order in which they were found. -/
  violations : List Violation
  /-- The diagnostics in the order in which they were found. -/
  diagnostics : List ToolDiagnostic
  deriving DecidableEq, Repr

/-- The warnings that go with a report: one for each rule that failed. -/
def FileReport.warnings (report : FileReport) : List String :=
  (report.diagnostics.filter fun diagnostic => diagnostic.kind == .checkFailed).map
    fun diagnostic =>
      s!"Check failed, skipping it for the rest of the file: {diagnostic.message}"

/-- A file that could not be analyzed. -/
structure FileFailure where
  file : String
  message : String
  deriving DecidableEq, Repr

/-- What was found in a run. -/
structure LintResult where
  violations : List Violation
  diagnostics : List ToolDiagnostic
  failures : List FileFailure
  filesChecked : Nat
  /-- Whether the run ended before all files were looked at. -/
  cancelled : Bool
  deriving DecidableEq, Repr

namespace LintResult

/-- The result of looking at no file. -/
def empty : LintResult :=
  ⟨[], [], [], 0, false⟩

/-- Adds what was found in a file. -/
def addReport (result : LintResult) (report : FileReport) : LintResult :=
  { result with
    violations := result.violations ++ report.violations
    diagnostics := result.diagnostics ++ report.diagnostics
    filesChecked := result.filesChecked + 1 }

/-- Adds a file that could not be analyzed. -/
def addFailure (result : LintResult) (file message : String) : LintResult :=
  { result with failures := result.failures ++ [⟨file, message⟩] }

/-- Notes that the run ended early. -/
def cancel (result : LintResult) : LintResult :=
  { result with cancelled := true }

/-- One result after another. -/
def extend (first second : LintResult) : LintResult where
  violations := first.violations ++ second.violations
  diagnostics := first.diagnostics ++ second.diagnostics
  failures := first.failures ++ second.failures
  filesChecked := first.filesChecked + second.filesChecked
  cancelled := first.cancelled || second.cancelled

/-- The number of violations of a severity. -/
def count (result : LintResult) (severity : Severity) : Nat :=
  result.violations.countP fun violation => violation.severity == severity

/-- Whether some violation reaches a severity. -/
def hasViolationsAt (result : LintResult) (threshold : Severity) : Bool :=
  result.violations.any fun violation => threshold ≤ violation.severity

/-- The result in one line, the highest severity first. -/
def summary (result : LintResult) : String :=
  let counts := ", ".intercalate (Severity.all.reverse.map fun severity =>
    s!"{Text.Decimal.text (result.count severity)} {severity.name}")
  let files := Text.Decimal.text result.filesChecked
  let diagnostics := if result.diagnostics.isEmpty then ""
    else s!"; {Text.Decimal.text result.diagnostics.length} analyzer diagnostic(s)"
  let failures := if result.failures.isEmpty then ""
    else s!"; {Text.Decimal.text result.failures.length} file(s) failed"
  let cancelled := if result.cancelled then "; cancelled" else ""
  s!"Found {counts} in {files} file(s)" ++ diagnostics ++ failures ++ cancelled

end LintResult

end TreeLint
