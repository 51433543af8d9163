import TreeLint.Proofs.Rules.ConstructorScopes
import TreeLint.Rules.NodeRule
import TreeLint.Rules.OctalValue

/-!
# Where rules fire

The rules that a run can have are those of three families: all nodes of a kind, octal literals, and
events dispatched from constructors. What a rule says about a node is a relation between the two
(`Rule.Says`), which looks at the node and at the nodes around it and at nothing that was seen before.

**The law** (`Rule.reports_exact`): a run reports, for the nodes in the order of their places and, at each
node, for the rules in the order of registration, one violation for each rule that says something about
the node, and nothing else. No rule of these families ever fails.
-/

namespace TreeLint

/-- A rule of one of the families that a run can have. -/
inductive Rule where
  /-- Every node of a kind. -/
  | nodes (key name : String) (kind : NodeKind) (message : String) (severity : Severity)
  /-- Octal literals. -/
  | octal (severity : Severity)
  /-- Events dispatched from constructors by calls of a function. -/
  | dispatch (severity : Severity) (call : String)
  deriving DecidableEq, Repr

namespace Rule

/-- The rule as a check. -/
def check : Rule → Check
  | .nodes key name kind message severity => Rules.NodeRule.check key name kind message severity
  | .octal severity => Rules.OctalValue.check severity
  | .dispatch severity call => Rules.ConstructorDispatch.check severity call

/-- **What a rule says about a node**, if it fires there. -/
inductive Says : Rule → Node → String → Prop
  | nodes {key name : String} {kind : NodeKind} {message : String} {severity : Severity} {node : Node} :
      node.kind = kind →
      Says (.nodes key name kind message severity) node
        (Message.fill message [node.tokenValue?.getD ""])
  | octal {severity : Severity} {node : Node} :
      node.kind = .octal → Says (.octal severity) node "Use decimal rather than octal values."
  | dispatch {severity : Severity} {call className : String} {node : Node} :
      Rules.ConstructorDispatch.Offends call node className →
      Says (.dispatch severity call) node
        ("Remove this event dispatch from the " ++ className ++ " constructor")

/-- What a rule says about a node, computed. -/
def message? : Rule → Node → Option String
  | .nodes _ _ kind message _, node =>
    if node.kind = kind then some (Message.fill message [node.tokenValue?.getD ""]) else none
  | .octal _, node =>
    if node.kind = .octal then some "Use decimal rather than octal values." else none
  | .dispatch _ call, node => (Rules.ConstructorDispatch.offence? call node).map fun className =>
      "Remove this event dispatch from the " ++ className ++ " constructor"

theorem message?_eq_some {rule : Rule} {node : Node} {text : String} :
    rule.message? node = some text ↔ rule.Says node text := by
  cases rule with
  | nodes key name kind message severity =>
    rw [message?, Option.ite_none_right_eq_some]
    constructor
    · rintro ⟨hkind, htext⟩
      cases htext
      exact .nodes hkind
    · intro hsays
      cases hsays with
      | nodes hkind => exact ⟨hkind, rfl⟩
  | octal severity =>
    rw [message?, Option.ite_none_right_eq_some]
    constructor
    · rintro ⟨hkind, htext⟩
      cases htext
      exact .octal hkind
    · intro hsays
      cases hsays with
      | octal hkind => exact ⟨hkind, rfl⟩
  | dispatch severity call =>
    rw [message?, Option.map_eq_some_iff]
    constructor
    · rintro ⟨className, hoffence, rfl⟩
      exact .dispatch (Rules.ConstructorDispatch.offence?_eq_some.mp hoffence)
    · intro hsays
      cases hsays with
      | dispatch hoffends =>
        exact ⟨_, Rules.ConstructorDispatch.offence?_eq_some.mpr hoffends, rfl⟩

/-- The violation for a node that a rule says something about. -/
def violation (rule : Rule) (override : Option Severity) (file : String) (node : Node) (text : String) :
    Violation :=
  ⟨rule.check.key, rule.check.name, override.getD rule.check.severity, ⟨file, node.line, node.column⟩,
    text⟩

/-- What a rule finds at a node. -/
def findings : Rule → Node → List Finding
  | .nodes _ _ kind _ _, node =>
    if node.kind ∈ [kind] then [.report node [node.tokenValue?.getD ""]] else []
  | .octal _, node => if node.kind ∈ [NodeKind.octal] then [.report node []] else []
  | .dispatch _ call, node => Rules.ConstructorDispatch.findings call node

/-- **Every rule judges nodes.** -/
theorem judges (rule : Rule) (override : Option Severity) (file : String) (tree : SyntaxTree) :
    (Registered.of (rule.check, override)).Judges file tree rule.findings := by
  cases rule with
  | nodes key name kind message severity =>
    exact Registered.judges_stateless key name _ severity message [kind] _ override file tree
  | octal severity => exact Registered.judges_stateless _ _ _ severity _ [.octal] _ override file tree
  | dispatch severity call =>
    exact Rules.ConstructorDispatch.judges severity call override file tree

/-- The message for an octal literal holds no placeholder. -/
theorem fill_octal (severity : Severity) :
    Message.fill (Rule.octal severity).check.message [] = "Use decimal rather than octal values." := by
  have hplain : '\x7b' ∉ "Use decimal rather than octal values.".toList := by decide
  exact Message.fill_plain [] hplain

theorem violations_findings (rule : Rule) (override : Option Severity) (file : String) (node : Node) :
    (rule.findings node).filterMap (Finding.violation? (Registered.of (rule.check, override)) file) =
      (rule.message? node).toList.map (rule.violation override file node) := by
  cases rule with
  | nodes key name kind message severity =>
    simp only [findings, message?, List.mem_singleton]
    split <;> rfl
  | octal severity =>
    simp only [findings, message?, List.mem_singleton]
    split
    · rw [Option.toList_some, List.map_singleton, violation, ← fill_octal severity]
      rfl
    · rfl
  | dispatch severity call =>
    refine (Rules.ConstructorDispatch.violations_findings severity call override file node).trans ?_
    rw [message?, Option.toList_map, List.map_map]
    rfl

section Run

variable {tree : SyntaxTree} {rules : List (Rule × Option Severity)} {dispatcher : Dispatcher}

/-- What a run of rules comes to. -/
theorem run_eq (built : tree.Built)
    (accepted : Dispatcher.build (rules.map fun (rule, override) => (rule.check, override)) =
      .ok dispatcher) (file : String) :
    dispatcher.run tree file =
      ⟨file,
        tree.toList.flatMap fun node => rules.flatMap fun (rule, override) =>
          (rule.message? node).toList.map (rule.violation override file node),
        tree.toList.flatMap fun node => rules.flatMap fun (rule, override) =>
          (rule.findings node).filterMap
            (Finding.diagnostic? (Registered.of (rule.check, override)) file)⟩ := by
  have hjudges : ∀ item ∈ rules, (Registered.of (item.1.check, item.2)).Judges file tree
      item.1.findings := fun item _ => item.1.judges item.2 file tree
  have hrun := Dispatcher.run_of_build built accepted file
  rw [List.map_map] at hrun
  refine hrun.trans ((Dispatcher.tourReport_of_judges rules
    (fun item => Registered.of (item.1.check, item.2)) built.wellFormed hjudges).trans ?_)
  simp only [violations_findings]

/-- **A violation is reported exactly when a rule says it of a node.** -/
theorem mem_violations_run (built : tree.Built)
    (accepted : Dispatcher.build (rules.map fun (rule, override) => (rule.check, override)) =
      .ok dispatcher) {file : String} {violation : Violation} :
    violation ∈ (dispatcher.run tree file).violations ↔
      ∃ node, node.tree = tree ∧ ∃ rule override, (rule, override) ∈ rules ∧ ∃ text,
        rule.Says node text ∧ rule.violation override file node text = violation := by
  simp only [run_eq built accepted, List.mem_flatMap, SyntaxTree.mem_toList, Prod.exists, List.mem_map,
    Option.mem_toList, message?_eq_some]

/-- The only trouble that a rule has is with trees that it cannot read. -/
theorem kind_of_mem_diagnostics_run (built : tree.Built)
    (accepted : Dispatcher.build (rules.map fun (rule, override) => (rule.check, override)) =
      .ok dispatcher) {file : String} {diagnostic : ToolDiagnostic}
    (h : diagnostic ∈ (dispatcher.run tree file).diagnostics) : diagnostic.kind = .malformedTree := by
  rw [run_eq built accepted] at h
  obtain ⟨node, _, h⟩ := List.mem_flatMap.mp h
  obtain ⟨item, _, h⟩ := List.mem_flatMap.mp h
  obtain ⟨finding, _, hdiagnostic⟩ := List.mem_filterMap.mp h
  cases finding <;> cases hdiagnostic
  rfl

/-- **What the rules say about the nodes is what is reported**, in the order of the nodes and for each
node in the order of the rules, once for each of them, and no rule fails. -/
theorem reports_exact (built : tree.Built)
    (accepted : Dispatcher.build (rules.map fun (rule, override) => (rule.check, override)) =
      .ok dispatcher) (file : String) :
    tree.toList.map Node.id = List.range tree.nodes.size ∧
      (∀ (rule : Rule) (node : Node) (text : String),
        rule.message? node = some text ↔ rule.Says node text) ∧
      (dispatcher.run tree file).violations = (tree.toList.flatMap fun node =>
        rules.flatMap fun (rule, override) => (rule.message? node).toList.map fun text =>
          ⟨rule.check.key, rule.check.name, override.getD rule.check.severity,
            ⟨file, node.line, node.column⟩, text⟩) ∧
      ∀ diagnostic ∈ (dispatcher.run tree file).diagnostics, diagnostic.kind ≠ .checkFailed := by
  refine ⟨tree.map_id_toList, fun _ _ _ => message?_eq_some, ?_, ?_⟩
  · rw [run_eq built accepted]
    rfl
  · intro diagnostic hmem hfailed
    rw [kind_of_mem_diagnostics_run built accepted hmem] at hfailed
    cases hfailed

end Run

/-- A rule about all calls beside the one about calls in constructors, and one that nothing breaks. -/
def callRules : List (Rule × Option Severity) :=
  [(.nodes "X1" "calls" .primaryExpr "Call of \x7b0\x7d" .minor, none),
    (.dispatch .blocker "dispatchEvent", some .critical), (.octal .major, none)]

theorem exists_build_callRules : ∃ dispatcher,
    Dispatcher.build (callRules.map fun (rule, override) => (rule.check, override)) = .ok dispatcher :=
  Dispatcher.exists_build_iff.mpr ⟨by decide, by decide, by decide⟩

open Rules.ConstructorDispatch in
/-- Both rules about calls fire at the same node, in the order of registration. -/
theorem callRules_reported : dispatchingTree.Built ∧ ∃ dispatcher,
    Dispatcher.build (callRules.map fun (rule, override) => (rule.check, override)) = .ok dispatcher ∧
      (dispatcher.run dispatchingTree "A.as").violations =
        [⟨"X1", "calls", .minor, ⟨"A.as", 3, 5⟩, "Call of dispatchEvent"⟩,
          ⟨"S1467", "constructor-calls-dispatch-event", .critical, ⟨"A.as", 3, 5⟩,
            "Remove this event dispatch from the A constructor"⟩] := by
  obtain ⟨dispatcher, accepted⟩ := exists_build_callRules
  obtain ⟨_, _, hviolations, _⟩ := reports_exact dispatchingTree_built accepted "A.as"
  refine ⟨dispatchingTree_built, dispatcher, accepted, ?_⟩
  rw [hviolations]
  cbv

end Rule

/-! ## Rules of a configuration -/

/-- The rule that an entry of a configuration declares, if it names a kind of node. -/
def NodeRuleConfig.rule? (entry : NodeRuleConfig) : Option Rule :=
  (NodeKind.ofName? entry.kind).map fun kind =>
    .nodes entry.key entry.name kind entry.message (entry.severity.getD .major)

theorem Rules.NodeRule.ofConfig_eq_ok {entry : NodeRuleConfig} {check : Check}
    (h : ofConfig entry = .ok check) : ∃ rule, entry.rule? = some rule ∧ rule.check = check := by
  unfold ofConfig at h
  unfold NodeRuleConfig.rule?
  split at h
  · next kind hkind =>
    cases h
    rw [hkind]
    exact ⟨_, rfl, rfl⟩
  · cases h

/-- The rules that a configuration declares, if each of them can be made. -/
theorem Rules.NodeRule.load_eq_ok {config : Config} {checks : List Check}
    (h : load config = .ok checks) :
    checks = (config.nodeRules.filterMap NodeRuleConfig.rule?).map Rule.check := by
  unfold load at h
  generalize config.nodeRules = entries at h ⊢
  induction entries generalizing checks with
  | nil =>
    cases h
    rfl
  | cons entry rest ih =>
    rw [List.mapM_cons] at h
    cases hentry : ofConfig entry with
    | error cause =>
      rw [hentry] at h
      cases h
    | ok check =>
      cases hrest : rest.mapM ofConfig with
      | error cause =>
        rw [hentry, hrest] at h
        cases h
      | ok others =>
        rw [hentry, hrest] at h
        cases h
        obtain ⟨rule, hrule, rfl⟩ := ofConfig_eq_ok hentry
        rw [List.filterMap_cons_some hrule, List.map_cons, ih hrest]

end TreeLint
