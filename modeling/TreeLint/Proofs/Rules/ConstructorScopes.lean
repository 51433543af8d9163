import TreeLint.Proofs.Dispatcher.Judging
import TreeLint.Proofs.Message.Pieces
import TreeLint.Rules.ConstructorDispatch

/-!
# Constructors, with a stack and without

The rule against dispatching events from constructors keeps a stack of classes, each with a slot for the
function that is recognized as its constructor, and changes it whenever a class or a function is entered
or left. **The law** (`ConstructorDispatch.dispatchCalls_exact`): it reports what a definition without
memory says, which looks from a call at the nodes around it (`ConstructorDispatch.Offends`). What a class
or a function is called is said there by their children (`ConstructorDispatch.ClassNamed`,
`ConstructorDispatch.FunctionNamed`), and not by the look-ups that find it.

The stack is a function of the nodes that are open (`ConstructorDispatch.scopes`). What has to be shown is
that leaving a node undoes what entering it did. For a function it does so because the slot never holds a
function that is not open, so that the slot holds the function that is left only if it was put there when
that function was entered.
-/

namespace TreeLint.Rules.ConstructorDispatch

/-! ## Names -/

/-- **The name of a class** is the text of the last of the identifiers of its name. -/
def ClassNamed (owner : Node) (className : String) : Prop :=
  ∃ name identifiers last, owner.IsFirstChild .className name ∧
    name.IsFirstChild .classIdentifiers identifiers ∧ identifiers.IsLastChild last ∧
    last.tokenValue? = some className

/-- **The name of a function** is the text of the node for its name. -/
def FunctionNamed (function : Node) (functionName : String) : Prop :=
  ∃ name, function.IsFirstChild .functionName name ∧ name.tokenValue? = some functionName

theorem className?_eq_some_iff {owner : Node} {className : String} :
    className? owner = some className ↔ ClassNamed owner className := by
  unfold className? ClassNamed
  simp only [Option.bind_eq_bind, Option.bind_eq_some_iff, Node.firstChildOf?_eq_some_iff,
    Node.lastChild?_eq_some_iff]
  constructor
  · rintro ⟨name, hname, identifiers, hidentifiers, last, hlast, htoken⟩
    exact ⟨name, identifiers, last, hname, hidentifiers, hlast, htoken⟩
  · rintro ⟨name, identifiers, last, hname, hidentifiers, hlast, htoken⟩
    exact ⟨name, hname, identifiers, hidentifiers, last, hlast, htoken⟩

theorem functionName?_eq_some_iff {function : Node} {functionName : String} :
    functionName? function = some functionName ↔ FunctionNamed function functionName := by
  unfold functionName? FunctionNamed
  simp only [Option.bind_eq_bind, Option.bind_eq_some_iff, Node.firstChildOf?_eq_some_iff]

theorem isSome_className? {owner : Node} :
    (className? owner).isSome = true ↔ ∃ className, ClassNamed owner className := by
  simp only [Option.isSome_iff_exists, className?_eq_some_iff]

/-- A class has no name that could be read if nothing is its name. -/
theorem className?_eq_none_iff {owner : Node} :
    className? owner = none ↔ ¬ ∃ className, ClassNamed owner className := by
  rw [← isSome_className?, Option.not_isSome_iff_eq_none]

instance (owner : Node) : Decidable (∃ className, ClassNamed owner className) :=
  decidable_of_iff _ isSome_className?

/-! ## The scopes of a path -/

/-- The scopes after a node is entered. -/
def enter (node : Node) (classes : ScopeStack ClassScope) : ScopeStack ClassScope :=
  match node.kind with
  | .classDef => classes.push ⟨className? node, none⟩
  | .functionDef => classes.modifyTop (recognize node)
  | _ => classes

/-- The scopes after a node is left. -/
def leave (node : Node) (classes : ScopeStack ClassScope) : ScopeStack ClassScope :=
  match node.kind with
  | .classDef => classes.pop
  | .functionDef => classes.modifyTop (forget node)
  | _ => classes

/-- The scopes when these nodes are open, the innermost first. -/
def scopes : List Node → ScopeStack ClassScope
  | [] => .empty
  | node :: outer => enter node (scopes outer)

section Kinds

variable {node : Node} {classes : ScopeStack ClassScope}

theorem enter_classDef (h : node.kind = .classDef) :
    enter node classes = classes.push ⟨className? node, none⟩ := by
  simp only [enter, h]

theorem enter_functionDef (h : node.kind = .functionDef) :
    enter node classes = classes.modifyTop (recognize node) := by
  simp only [enter, h]

theorem enter_other (hclass : node.kind ≠ .classDef) (hfunction : node.kind ≠ .functionDef) :
    enter node classes = classes := by
  unfold enter
  split
  · contradiction
  · contradiction
  · rfl

theorem leave_classDef (h : node.kind = .classDef) : leave node classes = classes.pop := by
  simp only [leave, h]

theorem leave_functionDef (h : node.kind = .functionDef) :
    leave node classes = classes.modifyTop (forget node) := by
  simp only [leave, h]

theorem leave_other (hclass : node.kind ≠ .classDef) (hfunction : node.kind ≠ .functionDef) :
    leave node classes = classes := by
  unfold leave
  split
  · contradiction
  · contradiction
  · rfl

end Kinds

theorem next_react_enter (call : String) (node : Node) (classes : ScopeStack ClassScope) :
    (react call ⟨.enter, node⟩ classes).next = .ok (enter node classes) := by
  unfold react enter
  cases hkind : node.kind
  case classDef =>
    unfold enterClass
    cases className? node <;> rfl
  all_goals rfl

theorem react_leave (call : String) (node : Node) (classes : ScopeStack ClassScope) :
    react call ⟨.leave, node⟩ classes = .continue [] (leave node classes) := by
  unfold react leave
  cases hkind : node.kind
  all_goals rfl

/-- Recognizing a function and forgetting it again changes nothing, if the slot did not hold it before. -/
theorem forget_recognize {node : Node} {scope : ClassScope} (h : scope.constructor ≠ some node.id) :
    forget node (recognize node scope) = scope := by
  have hforget : forget node scope = scope := if_neg h
  obtain ⟨name, constructor⟩ := scope
  unfold recognize
  split
  · next found hconstructor hname =>
    obtain rfl : constructor = none := hconstructor
    split
    · exact if_pos rfl
    · exact hforget
  · exact hforget

/-- **Leaving a node undoes entering it**, if no slot held it before. -/
theorem leave_enter {node : Node} {classes : ScopeStack ClassScope}
    (h : ∀ scope ∈ classes.inner, scope.constructor ≠ some node.id) :
    leave node (enter node classes) = classes := by
  by_cases hclass : node.kind = .classDef
  · rw [enter_classDef hclass, leave_classDef hclass]
    rfl
  · by_cases hfunction : node.kind = .functionDef
    · rw [enter_functionDef hfunction, leave_functionDef hfunction]
      obtain ⟨_ | ⟨scope, outer⟩⟩ := classes
      · rfl
      · have hscope := forget_recognize (h scope List.mem_cons_self)
        simp only [ScopeStack.modifyTop, hscope]
    · rw [enter_other hclass hfunction, leave_other hclass hfunction]

/-- A slot holds a function that is open. -/
theorem mem_of_constructor : ∀ {path : List Node} {scope : ClassScope} {id : Nat},
    scope ∈ (scopes path).inner → scope.constructor = some id → ∃ node ∈ path, node.id = id
  | node :: outer, scope, id, hmem, hid => by
    have ih : ∀ {scope : ClassScope}, scope ∈ (scopes outer).inner → scope.constructor = some id →
        ∃ other ∈ node :: outer, other.id = id := by
      intro scope hmem hid
      obtain ⟨other, hother, hid⟩ := mem_of_constructor hmem hid
      exact ⟨other, List.mem_cons_of_mem _ hother, hid⟩
    rw [scopes, enter] at hmem
    split at hmem
    · rcases List.mem_cons.mp hmem with rfl | hmem
      · cases hid
      · exact ih hmem hid
    · unfold ScopeStack.modifyTop at hmem
      split at hmem
      · exact ih hmem hid
      · next top rest hinner =>
        have htop : top ∈ (scopes outer).inner := by
          rw [hinner]
          exact List.mem_cons_self
        rcases List.mem_cons.mp hmem with rfl | hmem
        · unfold recognize at hid
          split at hid
          · split at hid
            · cases hid
              exact ⟨node, List.mem_cons_self, rfl⟩
            · exact ih htop hid
          · exact ih htop hid
        · refine ih ?_ hid
          rw [hinner]
          exact List.mem_cons_of_mem _ hmem
    · exact ih hmem hid

theorem leave_scopes (node : Node) :
    leave node (scopes (node :: node.ancestors)) = scopes node.ancestors := by
  refine leave_enter fun scope hmem hconstructor => ?_
  obtain ⟨other, hother, hid⟩ := mem_of_constructor hmem hconstructor
  have hlt := Node.id_lt_of_mem_ancestors node hother
  omega

/-- **The stack is the scopes of the path.** -/
theorem remembersPath (severity : Severity) (call : String) (override : Option Severity)
    (file : String) (tree : SyntaxTree) :
    (Registered.of (check severity call, override)).RemembersPath file tree scopes where
  start := rfl
  told := by
    rintro ⟨event, node⟩ _ _
    cases event with
    | enter => exact next_react_enter call node (scopes node.ancestors)
    | leave =>
      have hreact := react_leave call node (scopes (node :: node.ancestors))
      rw [leave_scopes] at hreact
      exact congrArg Response.next hreact
  passed := by
    rintro ⟨event, node⟩ _ hwants
    obtain ⟨hclass, hfunction, _⟩ : node.kind ≠ .classDef ∧ node.kind ≠ .functionDef ∧
        node.kind ≠ .primaryExpr := by
      cases event <;> simpa [Check.wants, Check.hearsOf, Registered.of, check] using hwants
    have hsame : scopes (node :: node.ancestors) = scopes node.ancestors :=
      enter_other hclass hfunction
    cases event with
    | enter => exact hsame.symm
    | leave => exact hsame

/-! ## The innermost class -/

/-- The outermost of the functions between a class and some node in it that has the name of the class. -/
def constructor? (owner : Node) (between : List Node) : Option Node :=
  (className? owner).bind fun className => between.reverse.find? fun function =>
    function.kind = .functionDef ∧ functionName? function = some className

theorem constructor?_cons (owner node : Node) (between : List Node) :
    constructor? owner (node :: between) =
      (constructor? owner between).or (constructor? owner [node]) := by
  unfold constructor?
  cases className? owner with
  | none => rfl
  | some className =>
    rw [Option.bind_some, Option.bind_some, Option.bind_some, List.reverse_cons, List.find?_append]
    rfl

theorem recognize_eq {owner node : Node} (hfunction : node.kind = .functionDef)
    (slot : Option Node) :
    recognize node ⟨className? owner, slot.map Node.id⟩ =
      ⟨className? owner, (slot.or (constructor? owner [node])).map Node.id⟩ := by
  cases slot with
  | some function => rfl
  | none =>
    rw [Option.none_or]
    unfold recognize constructor?
    cases className? owner with
    | none => rfl
    | some className =>
      simp only [Option.map_none, Option.bind_some, List.reverse_singleton, List.find?_singleton,
        hfunction, true_and, decide_eq_true_eq]
      split <;> rfl

/-- **The top of the stack** is the innermost class, with its name and its constructor. -/
theorem top?_scopes {owner : Node} (howner : owner.kind = .classDef) (above : List Node) :
    ∀ {between : List Node}, (∀ inner ∈ between, inner.kind ≠ .classDef) →
      (scopes (between ++ owner :: above)).top? =
        some ⟨className? owner, (constructor? owner between).map Node.id⟩
  | [], _ => by
    have hnone : constructor? owner [] = none := by
      unfold constructor?
      cases className? owner <;> rfl
    rw [List.nil_append, scopes, enter_classDef howner, hnone]
    rfl
  | node :: between, hbetween => by
    obtain ⟨hclass, hbetween⟩ := List.forall_mem_cons.mp hbetween
    have ih := top?_scopes howner above hbetween
    rw [List.cons_append, scopes, constructor?_cons]
    by_cases hfunction : node.kind = .functionDef
    · rw [enter_functionDef hfunction, ScopeStack.top?_modifyTop, ih, Option.map_some,
        recognize_eq hfunction]
    · have hnone : constructor? owner [node] = none := by
        unfold constructor?
        cases className? owner <;> simp [hfunction]
      rw [enter_other hclass hfunction, ih, hnone, Option.or_none]

theorem scopes_eq_empty : ∀ {path : List Node}, (∀ inner ∈ path, inner.kind ≠ .classDef) →
    scopes path = .empty
  | [], _ => rfl
  | node :: outer, hpath => by
    obtain ⟨hclass, houter⟩ := List.forall_mem_cons.mp hpath
    rw [scopes, scopes_eq_empty houter]
    by_cases hfunction : node.kind = .functionDef
    · rw [enter_functionDef hfunction]
      rfl
    · exact enter_other hclass hfunction

/-! ## The definition without memory -/

/-- **A call that the rule is about.** It calls the function with an argument, and on the way out to the
innermost class around it there is a function that has the name of the class. -/
structure Offends (call : String) (node : Node) (className : String) : Prop where
  kind_eq : node.kind = .primaryExpr
  called : node.tokenValue? = some call
  argued : ∃ next, node.nextSibling? = some next ∧ next.kind = .arguments ∧
    ∃ child ∈ next.children, child.kind = .listExpression
  enclosed : ∃ between owner above, node.ancestors = between ++ owner :: above ∧
    owner.kind = .classDef ∧ (∀ inner ∈ between, inner.kind ≠ .classDef) ∧
    ClassNamed owner className ∧
    ∃ function ∈ between, function.kind = .functionDef ∧ FunctionNamed function className

theorem isCall_iff {call : String} {node : Node} :
    isCall call node = true ↔ node.tokenValue? = some call ∧
      ∃ next, node.nextSibling? = some next ∧ next.kind = .arguments ∧
        ∃ child ∈ next.children, child.kind = .listExpression := by
  unfold isCall Node.firstChildOf?
  rw [Bool.and_eq_true, beq_iff_eq]
  refine and_congr_right fun _ => ?_
  cases node.nextSibling? with
  | none => simp
  | some next => simp [List.find?_isSome]

/-- The class in whose constructor a node stands, by its name. -/
theorem top?_scopes_iff {path : List Node} {className : String} :
    (∃ slot, (scopes path).top? = some ⟨some className, some slot⟩) ↔
      ∃ between owner above, path = between ++ owner :: above ∧ owner.kind = .classDef ∧
        (∀ inner ∈ between, inner.kind ≠ .classDef) ∧ ClassNamed owner className ∧
        ∃ function ∈ between, function.kind = .functionDef ∧ FunctionNamed function className := by
  simp only [← className?_eq_some_iff, ← functionName?_eq_some_iff]
  have hconstructor : ∀ {owner : Node} {between : List Node}, className? owner = some className →
      ((∃ slot, (constructor? owner between).map Node.id = some slot) ↔
        ∃ function ∈ between, function.kind = .functionDef ∧
          functionName? function = some className) := by
    intro owner between hname
    rw [← Option.isSome_iff_exists, Option.isSome_map, constructor?, hname, Option.bind_some,
      List.find?_isSome]
    simp only [List.mem_reverse, decide_eq_true_eq]
  constructor
  · rintro ⟨slot, htop⟩
    cases howner : path.find? fun inner => inner.kind = .classDef with
    | none =>
      rw [scopes_eq_empty (by simpa using List.find?_eq_none.mp howner)] at htop
      cases htop
    | some owner =>
      obtain ⟨hclass, between, above, rfl, hbetween⟩ := List.find?_eq_some_iff_append.mp howner
      have hclass : owner.kind = .classDef := of_decide_eq_true hclass
      have hbetween : ∀ inner ∈ between, inner.kind ≠ .classDef := by simpa using hbetween
      rw [top?_scopes hclass above hbetween] at htop
      injection htop with hscope
      injection hscope with hname hslot
      exact ⟨between, owner, above, rfl, hclass, hbetween, hname,
        (hconstructor hname).mp ⟨slot, hslot⟩⟩
  · rintro ⟨between, owner, above, rfl, hclass, hbetween, hname, hfunction⟩
    obtain ⟨slot, hslot⟩ := (hconstructor hname).mpr hfunction
    refine ⟨slot, ?_⟩
    rw [top?_scopes hclass above hbetween, hname, hslot]

/-- The name of the innermost class, if the stack has a constructor for it. -/
def constructed? (classes : ScopeStack ClassScope) : Option String :=
  match classes.top? with
  | some ⟨some className, some _⟩ => some className
  | _ => none

theorem constructed?_eq_some {classes : ScopeStack ClassScope} {className : String} :
    constructed? classes = some className ↔
      ∃ slot, classes.top? = some ⟨some className, some slot⟩ := by
  unfold constructed?
  rcases classes.top? with _ | ⟨_ | found, _ | slot⟩ <;> simp

theorem callFindings_eq (call : String) (node : Node) (classes : ScopeStack ClassScope) :
    callFindings call node classes =
      if isCall call node then
        (constructed? classes).toList.map fun className => .report node [className]
      else [] := by
  unfold callFindings constructed?
  rcases classes.top? with _ | ⟨_ | found, _ | slot⟩ <;> simp

/-- The class of a call that the rule is about, by its name. -/
def offence? (call : String) (node : Node) : Option String :=
  if node.kind = .primaryExpr ∧ isCall call node then constructed? (scopes node.ancestors) else none

theorem offence?_eq_some {call : String} {node : Node} {className : String} :
    offence? call node = some className ↔ Offends call node className := by
  unfold offence?
  rw [Option.ite_none_right_eq_some, isCall_iff, constructed?_eq_some, top?_scopes_iff]
  constructor
  · rintro ⟨⟨hkind, hcalled, hargued⟩, henclosed⟩
    exact ⟨hkind, hcalled, hargued, henclosed⟩
  · rintro ⟨hkind, hcalled, hargued, henclosed⟩
    exact ⟨⟨hkind, hcalled, hargued⟩, henclosed⟩

/-! ## The law -/

/-- What is reported when a node is entered. -/
def findings (call : String) (node : Node) : List Finding :=
  (offence? call node).toList.map (fun className => .report node [className]) ++
    if node.kind = .classDef ∧ className? node = none then
      [.malformed node "class name not found"] else []

theorem findings_react_enter (call : String) (node : Node) :
    (react call ⟨.enter, node⟩ (scopes node.ancestors)).findings = findings call node := by
  unfold findings offence?
  by_cases hprimary : node.kind = .primaryExpr
  · have hfindings : (react call ⟨.enter, node⟩ (scopes node.ancestors)).findings =
        callFindings call node (scopes node.ancestors) := by
      simp only [react, hprimary, Response.continue]
    rw [hfindings, callFindings_eq]
    simp only [hprimary, true_and, reduceCtorEq, false_and, if_false, List.append_nil]
    split <;> rfl
  · rw [if_neg fun h => hprimary h.1, Option.toList_none, List.map_nil, List.nil_append]
    by_cases hclass : node.kind = .classDef
    · simp only [react, hclass, enterClass, true_and]
      cases className? node <;> rfl
    · rw [if_neg fun h => hclass h.1]
      unfold react
      split
      · contradiction
      · rfl
      · contradiction
      · contradiction
      · contradiction
      · rfl

/-- The rule reports what it says about the node and the nodes around it. -/
theorem findingsAt_eq (severity : Severity) (call : String) (override : Option Severity)
    (file : String) (node : Node) :
    (Registered.of (check severity call, override)).findingsAt file scopes node =
      findings call node := by
  have hresponse : ((Registered.of (check severity call, override)).response file ⟨.enter, node⟩
      (scopes node.ancestors)).findings = findings call node := findings_react_enter call node
  unfold Registered.findingsAt
  split
  · exact hresponse
  · next hwants =>
    obtain ⟨hclass, _, hprimary⟩ : node.kind ≠ .classDef ∧ node.kind ≠ .functionDef ∧
        node.kind ≠ .primaryExpr := by
      simpa [Check.wants, Check.hearsOf, Registered.of, check] using hwants
    unfold findings offence?
    rw [if_neg fun h => hprimary h.1, if_neg fun h => hclass h.1]
    rfl

/-- **The rule judges nodes** by what it says about them. -/
theorem judges (severity : Severity) (call : String) (override : Option Severity) (file : String)
    (tree : SyntaxTree) :
    (Registered.of (check severity call, override)).Judges file tree (findings call) := by
  refine ⟨scopes, remembersPath severity call override file tree, ?_,
    findingsAt_eq severity call override file⟩
  rintro ⟨event, node⟩ rfl _
  exact congrArg Response.findings (react_leave call node _)

/-- The calls in a tree that the rule is about, each with the name of its class, in document order. -/
def offenders (call : String) (tree : SyntaxTree) : List (Node × String) :=
  tree.toList.filterMap fun node => (offence? call node).map (Prod.mk node)

theorem mem_offenders {call : String} {tree : SyntaxTree} {node : Node} {className : String} :
    (node, className) ∈ offenders call tree ↔ node.tree = tree ∧ Offends call node className := by
  unfold offenders
  rw [List.mem_filterMap]
  constructor
  · rintro ⟨other, hmem, hother⟩
    obtain ⟨found, hfound, heq⟩ := Option.map_eq_some_iff.mp hother
    cases heq
    exact ⟨SyntaxTree.mem_toList.mp hmem, offence?_eq_some.mp hfound⟩
  · rintro ⟨htree, hoffends⟩
    exact ⟨node, SyntaxTree.mem_toList.mpr htree,
      Option.map_eq_some_iff.mpr ⟨className, offence?_eq_some.mpr hoffends, rfl⟩⟩

theorem offenders_pairwise (call : String) (tree : SyntaxTree) :
    (offenders call tree).Pairwise fun first second => first.1.id < second.1.id := by
  unfold offenders
  rw [List.pairwise_filterMap]
  refine tree.toList_pairwise.imp fun {first second} hlt => ?_
  intro early hearly late hlate
  obtain ⟨_, _, rfl⟩ := Option.map_eq_some_iff.mp hearly
  obtain ⟨_, _, rfl⟩ := Option.map_eq_some_iff.mp hlate
  exact hlt

/-- The message for a call in a constructor. -/
theorem fill_message (severity : Severity) (call className : String) :
    Message.fill (check severity call).message [className] =
      "Remove this event dispatch from the " ++ className ++ " constructor" := by
  have htemplate : (check severity call).message =
      "Remove this event dispatch from the " ++ "\x7b0\x7d" ++ " constructor" := by
    simp only [check, String.reduceAppend]
  have hbefore : '\x7b' ∉ "Remove this event dispatch from the ".toList := by decide
  have hafter : '\x7b' ∉ " constructor".toList := by decide
  rw [htemplate]
  exact Message.fill_one className hbefore hafter

section Report

variable (severity : Severity) (call : String) (override : Option Severity) (file : String)

/-- The violation for a call in a constructor. -/
def violation (node : Node) (className : String) : Violation :=
  ⟨key, name, override.getD severity, ⟨file, node.line, node.column⟩,
    "Remove this event dispatch from the " ++ className ++ " constructor"⟩

/-- The diagnostic for a class whose name cannot be read. -/
def unnamed (node : Node) : ToolDiagnostic :=
  ⟨key, .malformedTree, ⟨file, node.line, node.column⟩, "CLASS_DEF: class name not found"⟩

theorem violations_findings (node : Node) :
    (findings call node).filterMap
        (Finding.violation? (Registered.of (check severity call, override)) file) =
      (offence? call node).toList.map (violation severity override file node) := by
  unfold findings
  rw [List.filterMap_append]
  have hmalformed : (if node.kind = .classDef ∧ className? node = none then
      [Finding.malformed node "class name not found"] else []).filterMap
        (Finding.violation? (Registered.of (check severity call, override)) file) = [] := by
    split <;> rfl
  rw [hmalformed, List.append_nil]
  cases offence? call node with
  | none => rfl
  | some className =>
    rw [Option.toList_some, List.map_singleton, List.map_singleton, violation,
      ← fill_message severity call]
    rfl

theorem diagnostics_findings (node : Node) :
    (findings call node).filterMap
        (Finding.diagnostic? (Registered.of (check severity call, override)) file) =
      if node.kind = .classDef ∧ className? node = none then [unnamed file node] else [] := by
  unfold findings
  rw [List.filterMap_append]
  have hreports : ((offence? call node).toList.map fun className =>
      Finding.report node [className]).filterMap
        (Finding.diagnostic? (Registered.of (check severity call, override)) file) = [] := by
    cases offence? call node <;> rfl
  rw [hreports, List.nil_append]
  split
  · next hunnamed =>
    have hdetail : node.kind.name ++ ": " ++ "class name not found" =
        "CLASS_DEF: class name not found" := by
      rw [hunnamed.1]
      decide
    rw [unnamed, ← hdetail]
    rfl
  · rfl

/-- The report of the rule on its own. -/
theorem tourReport_check {tree : SyntaxTree} (wf : Arena.WellFormed tree.nodes) :
    Dispatcher.tourReport [Registered.of (check severity call, override)] tree file =
      ⟨file,
        (offenders call tree).map fun (node, className) => violation severity override file node className,
        (tree.toList.filter fun node => node.kind = .classDef ∧ className? node = none).map
          (unnamed file)⟩ := by
  have hreport := Dispatcher.tourReport_of_judges [()]
    (fun _ => Registered.of (check severity call, override)) wf fun _ _ =>
      judges severity call override file tree
  rw [List.map_singleton] at hreport
  rw [hreport]
  simp only [List.flatMap_singleton, violations_findings, diagnostics_findings]
  have hviolations : (tree.toList.flatMap fun node =>
      (offence? call node).toList.map (violation severity override file node)) =
        (offenders call tree).map
          fun (node, className) => violation severity override file node className := by
    unfold offenders
    rw [List.filterMap_eq_flatMap_toList, List.map_flatMap]
    refine List.flatMap_congr fun node _ => ?_
    cases offence? call node <;> rfl
  have hdiagnostics : (tree.toList.flatMap fun node =>
      if node.kind = .classDef ∧ className? node = none then [unnamed file node] else []) =
        (tree.toList.filter fun node => node.kind = .classDef ∧ className? node = none).map
          (unnamed file) := by
    rw [← List.filterMap_eq_filter, List.filterMap_eq_flatMap_toList, List.map_flatMap]
    refine List.flatMap_congr fun node _ => ?_
    unfold Option.guard
    simp only [decide_eq_true_eq]
    split <;> rfl
  rw [hviolations, hdiagnostics]

end Report

/-- **The rule reports exactly the calls that it is about**, once each and in document order, and the
classes whose names cannot be read. -/
theorem dispatchCalls_exact {tree : SyntaxTree} (built : tree.Built) (severity : Severity)
    (call : String) (override : Option Severity) (file : String) :
    ∃ dispatcher, Dispatcher.build [(check severity call, override)] = .ok dispatcher ∧
      ∃ offenders : List (Node × String),
        offenders.Pairwise (fun first second => first.1.id < second.1.id) ∧
        (∀ node className,
          (node, className) ∈ offenders ↔ node.tree = tree ∧ Offends call node className) ∧
        (dispatcher.run tree file).violations = offenders.map (fun (node, className) =>
          ⟨key, name, override.getD severity, ⟨file, node.line, node.column⟩,
            "Remove this event dispatch from the " ++ className ++ " constructor"⟩) ∧
        (dispatcher.run tree file).diagnostics =
          (tree.toList.filter fun node =>
              node.kind = .classDef ∧ ¬ ∃ className, ClassNamed node className).map
            fun node => ⟨key, .malformedTree, ⟨file, node.line, node.column⟩,
              "CLASS_DEF: class name not found"⟩ := by
  have acceptable : Dispatcher.Acceptable [(check severity call, override)] :=
    ⟨List.nodup_singleton _, by simp [check], by simp [check]⟩
  obtain ⟨dispatcher, accepted⟩ := Dispatcher.exists_build_iff.mpr acceptable
  have hrun := Dispatcher.run_of_build built accepted file
  rw [List.map_singleton, tourReport_check severity call override file built.wellFormed] at hrun
  refine ⟨dispatcher, accepted, offenders call tree, offenders_pairwise call tree,
    fun node className => mem_offenders, ?_, ?_⟩
  · rw [hrun]
    rfl
  · rw [hrun]
    simp only [← className?_eq_none_iff]
    rfl

/-- A class whose constructor dispatches an event. -/
def dispatchingDump : Dump :=
  ⟨none, [⟨.classDef, none, 1, 1, 2⟩, ⟨.className, none, 1, 7, 1⟩, ⟨.classIdentifiers, none, 1, 7, 1⟩,
    ⟨.identifier, some "A", 1, 7, 0⟩, ⟨.functionDef, none, 2, 3, 3⟩, ⟨.functionName, some "A", 2, 12, 0⟩,
    ⟨.primaryExpr, some "dispatchEvent", 3, 5, 0⟩, ⟨.arguments, none, 3, 18, 1⟩,
    ⟨.listExpression, some "e", 3, 19, 0⟩]⟩

/-- The tree of it. -/
def dispatchingTree : SyntaxTree where
  nodes := #[⟨.classDef, none, 1, 1, none, 0, #[1, 4]⟩, ⟨.className, none, 1, 7, some 0, 0, #[2]⟩,
    ⟨.classIdentifiers, none, 1, 7, some 1, 0, #[3]⟩, ⟨.identifier, some "A", 1, 7, some 2, 0, #[]⟩,
    ⟨.functionDef, none, 2, 3, some 0, 1, #[5, 6, 7]⟩,
    ⟨.functionName, some "A", 2, 12, some 4, 0, #[]⟩,
    ⟨.primaryExpr, some "dispatchEvent", 3, 5, some 4, 1, #[]⟩,
    ⟨.arguments, none, 3, 18, some 4, 2, #[8]⟩,
    ⟨.listExpression, some "e", 3, 19, some 7, 0, #[]⟩]
  nonempty := by decide

theorem dispatchingTree_built : dispatchingTree.Built :=
  .ofDump dispatchingDump rfl

/-- The node at a place of that tree. -/
def dispatchingNode (id : Fin 9) : Node :=
  ⟨dispatchingTree, id, id.isLt⟩

theorem ancestors_dispatchingNode :
    (dispatchingNode 6).ancestors = [dispatchingNode 4, dispatchingNode 0] := by
  have wf := dispatchingTree_built.wellFormed
  have hcall : dispatchingNode 6 ∈ (dispatchingNode 4).children := by decide
  have hfunction : dispatchingNode 4 ∈ (dispatchingNode 0).children := by decide
  have hclass : (dispatchingNode 0).ancestors = [] := Node.ancestors_root wf
  rw [Node.ancestors_of_mem_children wf hcall, Node.ancestors_of_mem_children wf hfunction, hclass]

theorem dispatchingNode_offends : Offends "dispatchEvent" (dispatchingNode 6) "A" where
  kind_eq := rfl
  called := rfl
  argued := ⟨dispatchingNode 7, rfl, rfl, dispatchingNode 8, by decide, rfl⟩
  enclosed := ⟨[dispatchingNode 4], dispatchingNode 0, [], ancestors_dispatchingNode, rfl, by decide,
    className?_eq_some_iff.mp rfl, dispatchingNode 4, List.mem_singleton_self _, rfl,
    functionName?_eq_some_iff.mp rfl⟩

/-- The rule reports the call in that tree. -/
theorem dispatchingTree_reported :
    dispatchingTree.Built ∧ ∃ dispatcher,
      Dispatcher.build [(standard "dispatchEvent", none)] = .ok dispatcher ∧
        ⟨"S1467", "constructor-calls-dispatch-event", .blocker, ⟨"A.as", 3, 5⟩,
          "Remove this event dispatch from the A constructor"⟩ ∈
            (dispatcher.run dispatchingTree "A.as").violations := by
  obtain ⟨dispatcher, accepted, offenders, _, hmem, hviolations, _⟩ :=
    dispatchCalls_exact dispatchingTree_built .blocker "dispatchEvent" none "A.as"
  refine ⟨dispatchingTree_built, dispatcher, accepted, ?_⟩
  rw [hviolations]
  refine List.mem_map.mpr ⟨(dispatchingNode 6, "A"), (hmem _ _).mpr ⟨rfl, dispatchingNode_offends⟩, ?_⟩
  rfl

end TreeLint.Rules.ConstructorDispatch
