import TreeLint.Json.Decode
import TreeLint.Report.Basic

/-!
# Reports as JSON

Reports are written as JSON objects with their fields in the order of their definitions, and read
back from the same form.
-/

namespace TreeLint

open Json

/-- The severities by written form. -/
def Severity.names : Names Severity :=
  ⟨Severity.all.map Severity.name, Severity.ofName?⟩

/-- The kinds of diagnostics by written form. -/
def DiagnosticKind.names : Names DiagnosticKind :=
  ⟨DiagnosticKind.all.map DiagnosticKind.name, DiagnosticKind.ofName?⟩

/-- The severities that a text lists. -/
def Severity.parseList (text : String) : Except Json.Error (List Severity) :=
  readAll (readList (readName Severity.names)) text

namespace Location

/-- A place as JSON. -/
def toJson (location : Location) : Value :=
  .object [("file", .string location.file), ("line", .number (.natural location.line)),
    ("column", .number (.natural location.column))]

/-- A place from JSON. -/
def ofJson : Decoder Location := fun value => do
  let members ← decodeRecord "Location"
    [.required "file" (decodeText "path string"), .required "line" decodeWord,
     .required "column" decodeWord] value
  return {
    file := ← requireMember members "file" (decodeText "path string")
    line := ← requireMember members "line" decodeWord
    column := ← requireMember members "column" decodeWord }

end Location

namespace Violation

/-- A violation as JSON. -/
def toJson (violation : Violation) : Value :=
  .object [("code", .string violation.code), ("rule", .string violation.rule),
    ("severity", .string violation.severity.name), ("location", violation.location.toJson),
    ("message", .string violation.message)]

/-- A violation from JSON. -/
def ofJson : Decoder Violation := fun value => do
  let text := decodeText "a string"
  let members ← decodeRecord "Violation"
    [.required "code" text, .required "rule" text,
     .required "severity" (decodeName Severity.names), .required "location" Location.ofJson,
     .required "message" text] value
  return {
    code := ← requireMember members "code" text
    rule := ← requireMember members "rule" text
    severity := ← requireMember members "severity" (decodeName Severity.names)
    location := ← requireMember members "location" Location.ofJson
    message := ← requireMember members "message" text }

end Violation

namespace ToolDiagnostic

/-- A diagnostic as JSON. -/
def toJson (diagnostic : ToolDiagnostic) : Value :=
  .object [("code", .string diagnostic.code), ("kind", .string diagnostic.kind.name),
    ("location", diagnostic.location.toJson), ("message", .string diagnostic.message)]

/-- A diagnostic from JSON. -/
def ofJson : Decoder ToolDiagnostic := fun value => do
  let text := decodeText "a string"
  let members ← decodeRecord "ToolDiagnostic"
    [.required "code" text, .required "kind" (decodeName DiagnosticKind.names),
     .required "location" Location.ofJson, .required "message" text] value
  return {
    code := ← requireMember members "code" text
    kind := ← requireMember members "kind" (decodeName DiagnosticKind.names)
    location := ← requireMember members "location" Location.ofJson
    message := ← requireMember members "message" text }

end ToolDiagnostic

namespace FileReport

/-- The report of a file as JSON. -/
def toJson (report : FileReport) : Value :=
  .object [("file", .string report.file),
    ("violations", .list (report.violations.map Violation.toJson)),
    ("diagnostics", .list (report.diagnostics.map ToolDiagnostic.toJson))]

/-- The report of a file from JSON. -/
def ofJson : Decoder FileReport := fun value => do
  let members ← decodeRecord "FileReport"
    [.required "file" (decodeText "path string"),
     .required "violations" (decodeList Violation.ofJson),
     .required "diagnostics" (decodeList ToolDiagnostic.ofJson)] value
  return {
    file := ← requireMember members "file" (decodeText "path string")
    violations := ← requireMember members "violations" (decodeList Violation.ofJson)
    diagnostics := ← requireMember members "diagnostics" (decodeList ToolDiagnostic.ofJson) }

end FileReport

namespace FileFailure

/-- A file that could not be analyzed, as JSON. -/
def toJson (failure : FileFailure) : Value :=
  .object [("file", .string failure.file), ("message", .string failure.message)]

/-- A file that could not be analyzed, from JSON. -/
def ofJson : Decoder FileFailure := fun value => do
  let members ← decodeRecord "FileFailure"
    [.required "file" (decodeText "path string"), .required "message" (decodeText "a string")] value
  return {
    file := ← requireMember members "file" (decodeText "path string")
    message := ← requireMember members "message" (decodeText "a string") }

end FileFailure

namespace LintResult

/-- A result as JSON. -/
def toJson (result : LintResult) : Value :=
  .object [("violations", .list (result.violations.map Violation.toJson)),
    ("diagnostics", .list (result.diagnostics.map ToolDiagnostic.toJson)),
    ("failures", .list (result.failures.map FileFailure.toJson)),
    ("files_checked", .number (.natural result.filesChecked)),
    ("cancelled", .bool result.cancelled)]

/-- A result from JSON. A run that does not say so was not cancelled. -/
def ofJson : Decoder LintResult := fun value => do
  let members ← decodeRecord "LintResult"
    [.required "violations" (decodeList Violation.ofJson),
     .required "diagnostics" (decodeList ToolDiagnostic.ofJson),
     .required "failures" (decodeList FileFailure.ofJson),
     .required "files_checked" decodeWord, .optional "cancelled" decodeBool] value
  return {
    violations := ← requireMember members "violations" (decodeList Violation.ofJson)
    diagnostics := ← requireMember members "diagnostics" (decodeList ToolDiagnostic.ofJson)
    failures := ← requireMember members "failures" (decodeList FileFailure.ofJson)
    filesChecked := ← requireMember members "files_checked" decodeWord
    cancelled := ← memberOr members "cancelled" false decodeBool }

end LintResult

end TreeLint
