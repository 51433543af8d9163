import TreeLint.Message
import TreeLint.Report.Basic
import TreeLint.Tree.Traversal

/-!
# Checks

A check is a rule that can be run: what it is called and says, the kinds of nodes it wants to hear
of, and a visitor. The visitor is a state machine. It starts afresh in every file, and it is told of
the visits to the nodes it wants to hear of. Each time it may report findings, and then it goes on
with a new state or fails.
-/

namespace TreeLint

/-- What a visitor may know about its surroundings. -/
structure Context where
  key : String
  severity : Severity
  file : String
  deriving DecidableEq, Repr

/-- Something that a visitor reports. -/
inductive Finding where
  /-- A violation at a node, with arguments for the message of the rule. -/
  | report (node : Node) (args : List String)
  /-- A violation at a node, with a message of its own. -/
  | message (node : Node) (text : String)
  | malformed (node : Node) (detail : String)

/-- An unforeseen end of a visitor, with a text if it left one. -/
structure Crash where
  text : Option String
  deriving DecidableEq, Repr

/-- The wording of a crash. -/
def Crash.message (crash : Crash) : String :=
  "panicked: " ++ crash.text.getD "unknown panic payload"

/-- How a visitor fails. -/
inductive Failure where
  | error (message : String)
  | crash (cause : Crash)
  deriving DecidableEq, Repr

/-- The wording of a failure. -/
def Failure.message : Failure → String
  | .error message => message
  | .crash cause => cause.message

/-- The answer of a visitor to a visit. -/
structure Response (σ : Type) where
  findings : List Finding
  next : Except Failure σ

/-- The answer of a visitor that goes on. -/
def Response.continue {σ : Type} (findings : List Finding) (state : σ) : Response σ :=
  ⟨findings, .ok state⟩

/-- A rule that can be run. -/
structure Check where
  /-- The key, unique among the checks of a run. -/
  key : String
  name : String
  description : String
  /-- The severity of its violations, unless it is overridden. -/
  severity : Severity
  message : String
  subscriptions : List NodeKind
  /-- Whether it also wants to hear when nodes are left. -/
  visitsLeave : Bool
  State : Type
  /-- What its visitor remembers at the start of a file. -/
  start : Except Crash State
  react : Context → Visit → State → Response State

namespace Check

/-- A check that remembers nothing and only reports. -/
def stateless (key name description : String) (severity : Severity) (message : String)
    (subscriptions : List NodeKind) (findings : Node → List Finding) : Check where
  key := key
  name := name
  description := description
  severity := severity
  message := message
  subscriptions := subscriptions
  visitsLeave := false
  State := Unit
  start := .ok ()
  react := fun _ visit state => .continue (findings visit.node) state

/-- Whether a name is the key or the name of a check. -/
def isCalled (check : Check) (name : String) : Bool :=
  check.key == name || check.name == name

end Check

end TreeLint
