import TreeLint.Check
import TreeLint.ScopeStack

/-!
# Events dispatched from constructors

A listener cannot be attached before an object is constructed, so an event that a constructor
dispatches reaches nobody. The rule reports calls of the dispatch function, with at least one
argument, anywhere inside a constructor of the innermost enclosing class.

The visitor keeps a scope for each enclosing class: its name, and the function that is at present
recognized as its constructor, the outermost one that has the name of the class.
-/

namespace TreeLint.Rules.ConstructorDispatch

/-- The key of the rule. -/
def key : String :=
  "S1467"

/-- The name of the rule. -/
def name : String :=
  "constructor-calls-dispatch-event"

/-- The usual name of the dispatch function. -/
def usualCall : String :=
  "dispatchEvent"

/-- The option that names the dispatch function. -/
def callOption : String :=
  "call_name"

/-- The name of a class: the token of the last of the identifiers of its name. -/
def className? (node : Node) : Option String := do
  let name ← node.firstChildOf? .className
  let identifiers ← name.firstChildOf? .classIdentifiers
  let last ← identifiers.lastChild?
  last.tokenValue?

/-- The name of a function. -/
def functionName? (node : Node) : Option String := do
  let name ← node.firstChildOf? .functionName
  name.tokenValue?

/-- Whether a primary expression calls a function with at least one argument. -/
def isCall (call : String) (node : Node) : Bool :=
  node.tokenValue? == some call
  && (match node.nextSibling? with
    | some next => next.kind == .arguments && (next.firstChildOf? .listExpression).isSome
    | none => false)

/-- A class that is being walked through. -/
structure ClassScope where
  /-- The name of the class, if it could be read. -/
  name : Option String
  /-- The place of the function that is recognized as the constructor. -/
  constructor : Option Nat
  deriving DecidableEq, Repr

/-- Enters a class. -/
def enterClass (node : Node) (classes : ScopeStack ClassScope) : Response (ScopeStack ClassScope) :=
  match className? node with
  | some name => .continue [] (classes.push ⟨some name, none⟩)
  | none => .continue [.malformed node "class name not found"] (classes.push ⟨none, none⟩)

/-- The scope of a class after a function in it is entered. -/
def recognize (node : Node) (scope : ClassScope) : ClassScope :=
  match scope.constructor, scope.name with
  | none, some name =>
    if functionName? node = some name then { scope with constructor := some node.id } else scope
  | _, _ => scope

/-- The scope of a class after a function in it is left. -/
def forget (node : Node) (scope : ClassScope) : ClassScope :=
  if scope.constructor = some node.id then { scope with constructor := none } else scope

/-- What is reported when a primary expression is entered. -/
def callFindings (call : String) (node : Node) (classes : ScopeStack ClassScope) : List Finding :=
  match classes.top? with
  | some ⟨some name, some _⟩ => if isCall call node then [.report node [name]] else []
  | _ => []

/-- The answer of the visitor to a visit. -/
def react (call : String) (visit : Visit) (classes : ScopeStack ClassScope) :
    Response (ScopeStack ClassScope) :=
  match visit.event, visit.node.kind with
  | .enter, .classDef => enterClass visit.node classes
  | .enter, .functionDef => .continue [] (classes.modifyTop (recognize visit.node))
  | .enter, .primaryExpr => .continue (callFindings call visit.node classes) classes
  | .leave, .classDef => .continue [] classes.pop
  | .leave, .functionDef => .continue [] (classes.modifyTop (forget visit.node))
  | _, _ => .continue [] classes

/-- The rule, with a severity, for a dispatch function. -/
def check (severity : Severity) (call : String) : Check where
  key := key
  name := name
  description := "Forbids dispatching events from class constructors"
  severity := severity
  message := "Remove this event dispatch from the \x7b0\x7d constructor"
  subscriptions := [.classDef, .functionDef, .primaryExpr]
  visitsLeave := true
  State := ScopeStack ClassScope
  start := .ok .empty
  react := fun _ visit classes => react call visit classes

/-- The rule with its usual severity. -/
def standard (call : String) : Check :=
  check .blocker call

end TreeLint.Rules.ConstructorDispatch
