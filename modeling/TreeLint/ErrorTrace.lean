import TreeLint.Text.Decimal
import TreeLint.Text.Fields

/-!
# Traces of errors

A trace says what could not be done, and then why, from the nearest cause to the last.
-/

namespace TreeLint

/-- What could not be done, and why. -/
structure ErrorTrace where
  summary : String
  causes : List String
  deriving DecidableEq, Repr

namespace ErrorTrace

/-- A trace without causes. -/
def plain (summary : String) : ErrorTrace :=
  ⟨summary, []⟩

/-- A text behind a lead. Its further lines are indented as far as the lead is long. -/
def hang (lead text : String) : String :=
  let indent := String.ofList (List.replicate lead.length ' ')
  lead ++ ("\n" ++ indent).intercalate (Text.fieldsOf '\n' text)

/-- The lead of the cause with a number. -/
def numberLead (index : Nat) : String :=
  let number := Text.Decimal.text index
  String.ofList (List.replicate (5 - number.length) ' ') ++ number ++ ": "

/-- The causes, each on a line of its own. They are numbered if there is more than one. -/
def causeLines : List String → List String
  | [cause] => [hang "    " cause]
  | causes => causes.mapIdx fun index cause => hang (numberLead index) cause

/-- The written form of a trace. -/
def text (trace : ErrorTrace) : String :=
  let head := "Error: " ++ trace.summary
  if trace.causes.isEmpty then head
  else "\n".intercalate (head :: "" :: "Caused by:" :: causeLines trace.causes)

end ErrorTrace

end TreeLint
