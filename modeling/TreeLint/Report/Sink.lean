import TreeLint.Report.Basic

/-!
# Collecting findings

A sink takes the findings of one file in the order in which they come.
-/

namespace TreeLint

/-- The findings of one file so far. -/
structure Sink where
  file : String
  violations : Array Violation
  diagnostics : Array ToolDiagnostic

namespace Sink

/-- No findings yet. -/
def empty (file : String) : Sink :=
  ⟨file, #[], #[]⟩

/-- Takes a violation. -/
def addViolation (sink : Sink) (code rule : String) (severity : Severity) (line column : Nat)
    (message : String) : Sink :=
  { sink with
    violations := sink.violations.push ⟨code, rule, severity, ⟨sink.file, line, column⟩, message⟩ }

/-- Takes a diagnostic. -/
def addDiagnostic (sink : Sink) (code : String) (kind : DiagnosticKind) (line column : Nat)
    (message : String) : Sink :=
  { sink with
    diagnostics := sink.diagnostics.push ⟨code, kind, ⟨sink.file, line, column⟩, message⟩ }

/-- The report of the file. -/
def report (sink : Sink) : FileReport :=
  ⟨sink.file, sink.violations.toList, sink.diagnostics.toList⟩

end Sink

end TreeLint
