/-!
# Severities

Every rule has one of five severities, from `info` up to `blocker`. The order decides whether a
finding reaches the threshold at which a run fails.
-/

namespace TreeLint

/-- How much a finding matters. -/
inductive Severity where
  | info
  | minor
  | major
  | critical
  | blocker
  deriving DecidableEq, Repr, Inhabited

namespace Severity

/-- Every severity, lowest first. -/
def all : List Severity :=
  [.info, .minor, .major, .critical, .blocker]

/-- The written form of a severity. -/
def name : Severity → String
  | .info => "info"
  | .minor => "minor"
  | .major => "major"
  | .critical => "critical"
  | .blocker => "blocker"

/-- The severity with a written form. -/
def ofName? (text : String) : Option Severity :=
  all.find? fun severity => severity.name == text

/-- The place of a severity, lowest first. -/
def rank : Severity → Nat
  | .info => 0
  | .minor => 1
  | .major => 2
  | .critical => 3
  | .blocker => 4

instance : LE Severity :=
  ⟨fun a b => a.rank ≤ b.rank⟩

instance (a b : Severity) : Decidable (a ≤ b) :=
  inferInstanceAs (Decidable (a.rank ≤ b.rank))

/-- The severities of a list from low to high, repetitions kept. -/
def sorted (severities : List Severity) : List Severity :=
  severities.mergeSort fun a b => decide (a ≤ b)

/-- The highest severity of a list. -/
def highest? (severities : List Severity) : Option Severity :=
  (sorted severities).getLast?

/-- The lowest severity of a list. -/
def lowest? (severities : List Severity) : Option Severity :=
  (sorted severities).head?

/-- A written form leads back to its severity. -/
@[simp]
theorem ofName?_name (severity : Severity) : ofName? severity.name = some severity := by
  cases severity <;> rfl

end Severity

end TreeLint
