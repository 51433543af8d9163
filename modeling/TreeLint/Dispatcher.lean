import TreeLint.Check
import TreeLint.Report.Sink

/-!
# Running checks over a tree

A dispatcher holds the registered checks and, for each kind of node, which of them want to hear of
it. It walks a tree once and tells the checks in the order of their registration. A check that fails
is left out for the rest of the file, which a diagnostic records; the others go on.
-/

namespace TreeLint

/-! ## Registration -/

/-- Why a check is not registered. -/
inductive RegistrationError where
  | duplicateKey (key : String)
  | emptySubscriptions (key : String)
  | duplicateSubscription (key : String) (kind : NodeKind)
  deriving DecidableEq, Repr

/-- The wording of an error. -/
def RegistrationError.message : RegistrationError → String
  | .duplicateKey key => s!"Duplicate rule key: {key}"
  | .emptySubscriptions key => s!"Rule {key} subscribes to no node kinds"
  | .duplicateSubscription key kind => s!"Rule {key} subscribes to {kind.name} more than once"

/-- A registered check and the severity its violations have. -/
structure Registered where
  check : Check
  severity : Severity

/-- Which checks, by their places, want to hear of a kind. -/
structure Subscribers where
  /-- The kinds that somebody wants to hear of, each with the places of the checks. -/
  entries : List (NodeKind × List Nat)

namespace Subscribers

/-- Nobody wants to hear of anything. -/
def empty : Subscribers :=
  ⟨[]⟩

/-- The checks that want to hear of a kind, if there are any. -/
def get? (table : Subscribers) (kind : NodeKind) : Option (List Nat) :=
  table.entries.lookup kind

/-- The entries with one more check behind those of a kind. -/
def insertEntry (kind : NodeKind) (index : Nat) :
    List (NodeKind × List Nat) → List (NodeKind × List Nat)
  | [] => [(kind, [index])]
  | (k, indices) :: rest =>
    if k = kind then (k, indices ++ [index]) :: rest
    else (k, indices) :: insertEntry kind index rest

/-- Adds a check behind those that want to hear of a kind. -/
def insert (table : Subscribers) (kind : NodeKind) (index : Nat) : Subscribers :=
  ⟨insertEntry kind index table.entries⟩

/-- Whether some check wants to hear of a kind. -/
def contains (table : Subscribers) (kind : NodeKind) : Bool :=
  (table.get? kind).isSome

end Subscribers

/-- The registered checks, and who wants to hear of what. -/
structure Dispatcher where
  /-- The checks in the order of their registration. -/
  checks : List Registered
  /-- Who wants to hear when a node is entered. -/
  onEnter : Subscribers
  onLeave : Subscribers

namespace Dispatcher

/-- No check is registered. -/
def empty : Dispatcher :=
  ⟨[], .empty, .empty⟩

/-- Enters the subscriptions of a check that are still to be entered. Those entered before may not
come again. -/
def subscribe (check : Check) (index : Nat) : (seen todo : List NodeKind) →
    Subscribers × Subscribers → Except RegistrationError (Subscribers × Subscribers)
  | _, [], tables => .ok tables
  | seen, kind :: todo, (onEnter, onLeave) =>
    if seen.contains kind then .error (.duplicateSubscription check.key kind)
    else subscribe check index (kind :: seen) todo
      (onEnter.insert kind index, if check.visitsLeave then onLeave.insert kind index else onLeave)

/-- Registers one more check, with its own severity unless one is given. -/
def register (dispatcher : Dispatcher) (check : Check) (severity : Option Severity) :
    Except RegistrationError Dispatcher :=
  if dispatcher.checks.any fun registered => registered.check.key == check.key then
    .error (.duplicateKey check.key)
  else if check.subscriptions = [] then .error (.emptySubscriptions check.key)
  else
    match subscribe check dispatcher.checks.length [] check.subscriptions
        (dispatcher.onEnter, dispatcher.onLeave) with
    | .error error => .error error
    | .ok (onEnter, onLeave) =>
      .ok ⟨dispatcher.checks ++ [⟨check, severity.getD check.severity⟩], onEnter, onLeave⟩

/-- Registers checks one after the other. The first one that cannot be registered is reported. -/
def build (registrations : List (Check × Option Severity)) :
    Except RegistrationError Dispatcher :=
  registrations.foldlM
    (fun dispatcher (check, severity) => dispatcher.register check severity) empty

/-- Who wants to hear of an event. -/
def subscribers (dispatcher : Dispatcher) : Event → Subscribers
  | .enter => dispatcher.onEnter
  | .leave => dispatcher.onLeave

/-! ## Running -/

/-- A registered check at work in a file. It has no state once it has failed. -/
structure Active where
  registered : Registered
  state : Option registered.check.State

/-- A run over a file. -/
structure Running where
  /-- The checks at work, in the order of their registration. -/
  active : List Active
  sink : Sink

/-- Takes a finding of a check. -/
def record (registered : Registered) (sink : Sink) : Finding → Sink
  | .report node args =>
    sink.addViolation registered.check.key registered.check.name registered.severity
      node.line node.column (Message.fill registered.check.message args)
  | .message node text =>
    sink.addViolation registered.check.key registered.check.name registered.severity
      node.line node.column text
  | .malformed node detail =>
    sink.addDiagnostic registered.check.key .malformedTree node.line node.column
      s!"{node.kind.name}: {detail}"

/-- Records that a check failed at a node. -/
def recordFailure (registered : Registered) (sink : Sink) (node : Node) (message : String) : Sink :=
  sink.addDiagnostic registered.check.key .checkFailed node.line node.column message

/-- Starts one check. One that crashes at the start has failed at the root. -/
def startCheck (root : Node) (running : Running) (registered : Registered) : Running :=
  match registered.check.start with
  | .ok state => { running with active := running.active ++ [⟨registered, some state⟩] }
  | .error crash =>
    { active := running.active ++ [⟨registered, none⟩]
      sink := recordFailure registered running.sink root crash.message }

/-- Starts every check. -/
def start (dispatcher : Dispatcher) (root : Node) (file : String) : Running :=
  dispatcher.checks.foldl (startCheck root) ⟨[], .empty file⟩

/-- Tells one check of a visit. -/
def tell (visit : Visit) (running : Running) (index : Nat) : Running :=
  match running.active[index]? with
  | none => running
  | some ⟨_, none⟩ => running
  | some ⟨registered, some state⟩ =>
    let context : Context := ⟨registered.check.key, registered.severity, running.sink.file⟩
    let response := registered.check.react context visit state
    let sink := response.findings.foldl (record registered) running.sink
    match response.next with
    | .ok state => { active := running.active.set index ⟨registered, some state⟩, sink }
    | .error failure =>
      { active := running.active.set index ⟨registered, none⟩
        sink := recordFailure registered sink visit.node failure.message }

/-- Tells every check of a visit that wants to hear of it. -/
def notify (dispatcher : Dispatcher) (running : Running) (visit : Visit) : Running :=
  match (dispatcher.subscribers visit.event).get? visit.node.kind with
  | none => running
  | some indices => indices.foldl (tell visit) running

/-- Runs every check over a tree and answers what they found. -/
def run (dispatcher : Dispatcher) (tree : SyntaxTree) (file : String) : FileReport :=
  (tree.walk dispatcher.onLeave.contains dispatcher.notify
    (dispatcher.start tree.root file)).sink.report

/-- The number of registered checks. -/
def checkCount (dispatcher : Dispatcher) : Nat :=
  dispatcher.checks.length

end Dispatcher

end TreeLint
