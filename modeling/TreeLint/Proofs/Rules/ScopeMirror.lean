import Mathlib.Data.List.Forall2
import TreeLint.Proofs.Dispatcher.Moments
import TreeLint.Proofs.Rules.ConstructorScopes

/-!
# The stack of classes, record by record

The rule against dispatching events from constructors changes its stack at every class and every function.
`TreeLint.Proofs.Rules.ConstructorScopes` reads the top of it, which is all that a report shows. Here the
whole stack is read. **The law** (`ConstructorDispatch.stack_mirrors_path`): whenever the visitor is told of
a visit, its stack has one record for each class that was entered and not left, the outermost first. The
record has the name of the class, and its slot holds the outermost function that was entered and not left,
stands in the class with no other class between them, and has its name (`ConstructorDispatch.mirror`).

The classes and functions that are open are read off the visits that were handed on before. That no other
check of the same run can disturb the stack is part of the law.
-/

namespace TreeLint.Rules.ConstructorDispatch

/-! ## The records for open nodes -/

/-- The innermost class around a node. -/
def enclosingClass? (node : Node) : Option Node :=
  node.ancestors.find? fun outer => outer.kind = .classDef

/-- A node is a function in a class, with no other class between them, and has the name of the class. -/
def Constructs (owner node : Node) : Prop :=
  node.kind = .functionDef ∧ enclosingClass? node = some owner ∧
    ∃ className, ClassNamed owner className ∧ FunctionNamed node className

theorem constructs_iff {owner node : Node} :
    Constructs owner node ↔ node.kind = .functionDef ∧ enclosingClass? node = some owner ∧
      (className? owner).isSome = true ∧ functionName? node = className? owner := by
  simp only [Constructs, ← className?_eq_some_iff, ← functionName?_eq_some_iff, Option.isSome_iff_exists]
  refine and_congr_right fun _ => and_congr_right fun _ => ?_
  constructor
  · rintro ⟨className, hclass, hfunction⟩
    exact ⟨⟨className, hclass⟩, hfunction.trans hclass.symm⟩
  · rintro ⟨⟨className, hclass⟩, hsame⟩
    exact ⟨className, hclass, hsame.trans hclass⟩

instance (owner node : Node) : Decidable (Constructs owner node) :=
  decidable_of_iff' _ constructs_iff

/-- The record of a class, by the nodes that are open, the outermost first. -/
def recordOf (openNodes : List Node) (owner : Node) : ClassScope :=
  ⟨className? owner, (openNodes.find? fun node => Constructs owner node).map Node.id⟩

/-- The classes among some nodes. -/
def classesOf (nodes : List Node) : List Node :=
  nodes.filter fun node => node.kind = .classDef

/-- **The records for the nodes that are open**: one for each class, in order. -/
def mirror (openNodes : List Node) : List ClassScope :=
  (classesOf openNodes).map (recordOf openNodes)

/-- The records are made of the classes and the functions among the open nodes. -/
theorem mirror_congr {first second : List Node} (hclasses : classesOf first = classesOf second)
    (hfunctions : first.filter (·.kind = .functionDef) = second.filter (·.kind = .functionDef)) :
    mirror first = mirror second ∧ ∀ owner, recordOf first owner = recordOf second owner := by
  have hfind : ∀ (nodes : List Node) (owner : Node),
      (nodes.find? fun node => Constructs owner node) =
        (nodes.filter (·.kind = .functionDef)).find? fun node => Constructs owner node := by
    intro nodes owner
    rw [List.find?_filter]
    refine congrArg (fun p => nodes.find? p) (funext fun node => decide_eq_decide.mpr ?_)
    rw [decide_eq_true_eq, decide_eq_true_eq]
    exact ⟨fun h => ⟨h.1, h⟩, And.right⟩
  have hrecord : ∀ owner, recordOf first owner = recordOf second owner := by
    intro owner
    unfold recordOf
    rw [hfind first, hfind second, hfunctions]
  refine ⟨?_, hrecord⟩
  unfold mirror
  rw [hclasses]
  exact List.map_congr_left fun owner _ => hrecord owner

/-- The names of the records are those of the classes. -/
theorem mirror_named (openNodes : List Node) :
    List.Forall₂ (fun owner (scope : ClassScope) => ∀ className, scope.name = some className ↔
      ClassNamed owner className) (classesOf openNodes) (mirror openNodes) := by
  unfold mirror
  rw [List.forall₂_map_right_iff, List.forall₂_same]
  exact fun owner _ className => className?_eq_some_iff

/-- One more open node changes the record of no class of which it is not the constructor. -/
theorem recordOf_concat_of_not {owner node : Node} (h : ¬ Constructs owner node) (openNodes : List Node) :
    recordOf (openNodes ++ [node]) owner = recordOf openNodes owner := by
  unfold recordOf
  rw [List.find?_append, List.find?_singleton, if_neg (by simpa using h), Option.or_none]

/-- Entering a function does to the record of the class around it what one more open node does. -/
theorem recognize_recordOf {owner node : Node} (hfunction : node.kind = .functionDef)
    (howner : enclosingClass? node = some owner) (openNodes : List Node) :
    recognize node (recordOf openNodes owner) = recordOf (openNodes ++ [node]) owner := by
  by_cases hconstructs : Constructs owner node
  · have hfind : [node].find? (fun other => Constructs owner other) = some node := by
      rw [List.find?_singleton, if_pos (decide_eq_true hconstructs)]
    obtain ⟨-, -, className, hclass, hnamed⟩ := hconstructs
    unfold recordOf recognize
    rw [List.find?_append, hfind, className?_eq_some_iff.mpr hclass]
    cases openNodes.find? fun other => Constructs owner other with
    | some other => rfl
    | none => exact if_pos (functionName?_eq_some_iff.mpr hnamed)
  · rw [recordOf_concat_of_not hconstructs]
    unfold recognize
    split
    · next className _ hname =>
      have hclass : ClassNamed owner className := className?_eq_some_iff.mp hname
      exact if_neg fun hnamed => hconstructs
        ⟨hfunction, howner, className, hclass, functionName?_eq_some_iff.mp hnamed⟩
    · rfl

/-! ## The stack of a path -/

/-- The innermost class around a node is the last of the classes that are open around it. -/
theorem enclosingClass?_eq_getLast? (node : Node) :
    enclosingClass? node = (classesOf node.ancestors.reverse).getLast? := by
  unfold enclosingClass? classesOf
  rw [List.filter_reverse, List.getLast?_reverse, List.head?_filter]

section Concat

variable {node : Node}

theorem classesOf_concat (hclass : node.kind = .classDef) (openNodes : List Node) :
    classesOf (openNodes ++ [node]) = classesOf openNodes ++ [node] := by
  unfold classesOf
  rw [List.filter_append, List.filter_cons_of_pos (by simpa using hclass), List.filter_nil]

theorem classesOf_concat_of_not (hclass : node.kind ≠ .classDef) (openNodes : List Node) :
    classesOf (openNodes ++ [node]) = classesOf openNodes := by
  unfold classesOf
  rw [List.filter_append, List.filter_cons_of_neg (by simpa using hclass), List.filter_nil,
    List.append_nil]

/-- No function around a class stands in that class, so its slot is empty when it is entered. -/
theorem mirror_concat_classDef (hclass : node.kind = .classDef) :
    mirror (node.ancestors.reverse ++ [node]) =
      mirror node.ancestors.reverse ++ [⟨className? node, none⟩] := by
  have hnone : ∀ other ∈ node.ancestors.reverse ++ [node], ¬ Constructs node other := by
    rintro other hmem ⟨-, howner, -⟩
    have hinner := Node.id_lt_of_mem_ancestors other (List.mem_of_find?_eq_some howner)
    rcases List.mem_append.mp hmem with hmem | hmem
    · have houter := Node.id_lt_of_mem_ancestors node (List.mem_reverse.mp hmem)
      omega
    · obtain rfl := List.mem_singleton.mp hmem
      omega
  have hrecord : recordOf (node.ancestors.reverse ++ [node]) node = ⟨className? node, none⟩ := by
    unfold recordOf
    rw [List.find?_eq_none.mpr (by simpa using hnone)]
    rfl
  have hothers : ∀ owner, ¬ Constructs owner node := by
    rintro owner ⟨hfunction, -⟩
    rw [hfunction] at hclass
    cases hclass
  unfold mirror
  rw [classesOf_concat hclass, List.map_append, List.map_singleton, hrecord]
  congr 1
  exact List.map_congr_left fun owner _ => recordOf_concat_of_not (hothers owner) _

/-- A function that is entered concerns the last record only, since that is the record of the innermost
class around it. -/
theorem mirror_concat_functionDef (hfunction : node.kind = .functionDef) :
    mirror (node.ancestors.reverse ++ [node]) =
      (mirror node.ancestors.reverse).dropLast ++
        ((mirror node.ancestors.reverse).getLast?.map (recognize node)).toList := by
  have hclass : node.kind ≠ .classDef := by
    rw [hfunction]
    decide
  have hlast := enclosingClass?_eq_getLast? node
  have hnodup : (classesOf node.ancestors.reverse).Nodup :=
    (List.nodup_reverse.mpr (Node.lineage_ancestors node).nodup).filter _
  unfold mirror
  rw [classesOf_concat_of_not hclass]
  rcases List.eq_nil_or_concat (classesOf node.ancestors.reverse) with hnil | ⟨others, owner, hsplit⟩
  · rw [hnil]
    rfl
  · rw [List.concat_eq_append] at hsplit
    rw [hsplit] at hlast hnodup ⊢
    rw [List.getLast?_concat] at hlast
    have hothers : ∀ other ∈ others, ¬ Constructs other node := by
      rintro other hmem ⟨-, hother, -⟩
      rw [hlast, Option.some.injEq] at hother
      subst hother
      exact List.disjoint_of_nodup_append hnodup hmem List.mem_cons_self
    rw [List.map_append, List.map_append, List.map_singleton, List.map_singleton, List.dropLast_concat,
      List.getLast?_concat, Option.map_some, Option.toList_some, recognize_recordOf hfunction hlast]
    congr 1
    exact List.map_congr_left fun other hmem => recordOf_concat_of_not (hothers other hmem) _

theorem mirror_concat_other (hclass : node.kind ≠ .classDef) (hfunction : node.kind ≠ .functionDef)
    (openNodes : List Node) : mirror (openNodes ++ [node]) = mirror openNodes := by
  unfold mirror
  rw [classesOf_concat_of_not hclass]
  exact List.map_congr_left fun owner _ => recordOf_concat_of_not (fun h => hfunction h.1) _

end Concat

/-- **The stack of a path has the records for its nodes.** -/
theorem records_scopes : ∀ {path : List Node}, Node.Lineage path →
    (scopes path).records = mirror path.reverse
  | [], _ => rfl
  | node :: outer, ⟨houter, hlineage⟩ => by
    have ih := records_scopes hlineage
    subst houter
    rw [scopes, List.reverse_cons]
    by_cases hclass : node.kind = .classDef
    · rw [enter_classDef hclass, ScopeStack.records_push, ih, mirror_concat_classDef hclass]
    · by_cases hfunction : node.kind = .functionDef
      · rw [enter_functionDef hfunction, ScopeStack.records_modifyTop, ih,
          mirror_concat_functionDef hfunction]
      · rw [enter_other hclass hfunction, ih, mirror_concat_other hclass hfunction]

/-! ## The stack at each moment -/

/-- **What is true of the stack when the visitor is about to be told of a visit**, while some nodes are
open. -/
structure Mirrors (call : String) (openNodes : List Node) (visit : Visit) (stack : ScopeStack ClassScope) :
    Prop where
  /-- There is one record for each open class. -/
  records_eq : stack.records = mirror openNodes
  /-- Each record has the name of its class, or no name if the class has none. -/
  named : List.Forall₂ (fun owner scope => ∀ className, scope.name = some className ↔
    ClassNamed owner className) (classesOf openNodes) stack.records
  /-- The record that is taken off when a class is left is the record of that class. -/
  popped : visit.event = .leave → visit.node.kind = .classDef →
    stack.top? = some (recordOf openNodes visit.node)
  /-- Leaving a node leaves alone the records of the other classes, but for the one whose constructor the
  node is. -/
  kept : visit.event = .leave → ∃ after : ScopeStack ClassScope, (react call visit stack).next = .ok after ∧
    ∀ (place : Nat) (owner : Node), (classesOf openNodes)[place]? = some owner → owner ≠ visit.node →
      ¬ Constructs owner visit.node → after.records[place]? = some (recordOf openNodes owner)

theorem lineage_path : ∀ visit : Visit, Node.Lineage visit.path
  | ⟨.enter, node⟩ => node.lineage_ancestors
  | ⟨.leave, node⟩ => ⟨rfl, node.lineage_ancestors⟩

/-- The records of the classes around a node, after it is left. -/
theorem getElem?_records_left {node owner : Node} {place : Nat}
    (hplace : (classesOf (node.ancestors.reverse ++ [node]))[place]? = some owner) (hother : owner ≠ node)
    (hconstructs : ¬ Constructs owner node) :
    (scopes node.ancestors).records[place]? =
      some (recordOf (node.ancestors.reverse ++ [node]) owner) := by
  have houter : (classesOf node.ancestors.reverse)[place]? = some owner := by
    by_cases hclass : node.kind = .classDef
    · rw [classesOf_concat hclass, List.getElem?_append] at hplace
      split at hplace
      · exact hplace
      · exact absurd (List.mem_singleton.mp (List.mem_of_getElem? hplace)) hother
    · rwa [classesOf_concat_of_not hclass] at hplace
  rw [records_scopes node.lineage_ancestors, mirror, List.getElem?_map, houter, Option.map_some,
    recordOf_concat_of_not hconstructs]

/-- The stack of the path to a visit, by the nodes of that path. -/
theorem mirrors_path (call : String) (visit : Visit) :
    Mirrors call visit.path.reverse visit (scopes visit.path) where
  records_eq := records_scopes (lineage_path visit)
  named := by
    rw [records_scopes (lineage_path visit)]
    exact mirror_named _
  popped := by
    obtain ⟨event, node⟩ := visit
    rintro rfl hclass
    have hpath : (⟨.leave, node⟩ : Visit).path.reverse = node.ancestors.reverse ++ [node] :=
      List.reverse_cons
    rw [ScopeStack.top?_eq, records_scopes (lineage_path _), hpath, mirror, classesOf_concat hclass,
      List.map_append, List.map_singleton, List.getLast?_concat]
  kept := by
    obtain ⟨event, node⟩ := visit
    rintro rfl
    have hpath : (⟨.leave, node⟩ : Visit).path.reverse = node.ancestors.reverse ++ [node] :=
      List.reverse_cons
    rw [hpath]
    refine ⟨scopes node.ancestors, ?_, fun place owner => getElem?_records_left⟩
    have hreact := react_leave call node (scopes (node :: node.ancestors))
    rw [leave_scopes] at hreact
    exact congrArg Response.next hreact

/-- What is true of the stack depends on the classes and the functions that are open only. -/
theorem Mirrors.congr {call : String} {first second : List Node} {visit : Visit}
    {stack : ScopeStack ClassScope} (h : Mirrors call first visit stack)
    (hclasses : classesOf second = classesOf first)
    (hfunctions : second.filter (·.kind = .functionDef) = first.filter (·.kind = .functionDef)) :
    Mirrors call second visit stack := by
  obtain ⟨hmirror, hrecord⟩ := mirror_congr hclasses hfunctions
  have hrecords := h.records_eq.trans hmirror.symm
  refine ⟨hrecords, ?_, ?_, ?_⟩
  · rw [hrecords]
    exact mirror_named second
  · rw [hrecord]
    exact h.popped
  · simp only [hrecord, hclasses]
    exact h.kept

/-- **The stack mirrors the path.** Whatever checks run over a tree: whenever the visitor of the rule is
about to be told of a visit, its stack is described by the classes and functions that were entered and not
left, and when the run ends it is empty. -/
theorem stack_mirrors_path {tree : SyntaxTree} (built : tree.Built)
    {registrations : List (Check × Option Severity)} {dispatcher : Dispatcher}
    (accepted : Dispatcher.build registrations = .ok dispatcher) {index : Nat} {severity : Severity}
    {call : String} {override : Option Severity}
    (registered : registrations[index]? = some (check severity call, override)) (file : String) :
    dispatcher.run tree file =
        (dispatcher.runningAfter tree file (dispatcher.handedOn tree)).sink.report ∧
      (∀ moment : dispatcher.Moment tree file, moment.index = index →
        ∃ stack, moment.running.active[index]? =
            some ⟨Registered.of (check severity call, override), some stack⟩ ∧
          Mirrors call (Visit.openAfter moment.before) moment.visit stack) ∧
      (dispatcher.runningAfter tree file (dispatcher.handedOn tree)).active[index]? =
        some ⟨Registered.of (check severity call, override), some .empty⟩ := by
  obtain ⟨exact, hchecks⟩ := Dispatcher.build_spec accepted
  have wf := built.wellFormed
  have hindex : dispatcher.checks[index]? = some (Registered.of (check severity call, override)) := by
    rw [hchecks, List.getElem?_map, registered, Option.map_some]
  have hremembers := remembersPath severity call override file tree
  refine ⟨Dispatcher.run_eq_runningAfter wf, ?_, Dispatcher.active_handedOn wf exact hindex hremembers⟩
  rintro moment rfl
  refine ⟨scopes moment.visit.path, moment.active_eq wf exact hindex hremembers, ?_⟩
  -- the rule itself wants to hear when classes and functions are left
  have hleaves : ∀ node : Node, node.kind = .classDef ∨ node.kind = .functionDef →
      dispatcher.onLeave.contains node.kind = true := by
    intro node hkind
    refine Dispatcher.isHandedOn_of_wants exact (List.mem_of_getElem? hindex) ⟨.leave, node⟩ ?_
    rcases hkind with hkind | hkind <;> simp [Check.wants, Check.hearsOf, Registered.of, check, hkind]
  refine (mirrors_path call moment.visit).congr ?_ ?_
  · exact moment.filter_openAfter wf fun node h => hleaves node (.inl (of_decide_eq_true h))
  · exact moment.filter_openAfter wf fun node h => hleaves node (.inr (of_decide_eq_true h))

/-- The rule on its own, registered. -/
def dispatchingDispatcher : Dispatcher :=
  ⟨[Registered.of (standard "dispatchEvent", none)],
    ⟨[(.classDef, [0]), (.functionDef, [0]), (.primaryExpr, [0])]⟩,
    ⟨[(.classDef, [0]), (.functionDef, [0]), (.primaryExpr, [0])]⟩⟩

/-- In the tree of a class whose constructor dispatches an event, the moment when the call is entered. -/
def dispatchingMoment : dispatchingDispatcher.Moment dispatchingTree "A.as" where
  before := [0, 1, 2, 3, 4, 5].map fun id => ⟨.enter, dispatchingNode id⟩
  visit := ⟨.enter, dispatchingNode 6⟩
  after := [⟨.leave, dispatchingNode 6⟩, ⟨.enter, dispatchingNode 7⟩, ⟨.enter, dispatchingNode 8⟩,
    ⟨.leave, dispatchingNode 4⟩, ⟨.leave, dispatchingNode 0⟩]
  handedOn_eq := by decide
  earlier := []
  index := 0
  later := []
  indices_eq := by decide

/-- At that moment the stack has one record, of the class and its constructor. -/
theorem dispatchingMoment_mirrored :
    dispatchingTree.Built ∧
      Dispatcher.build [(standard "dispatchEvent", none)] = .ok dispatchingDispatcher ∧
      ∃ stack : ScopeStack ClassScope, dispatchingMoment.running.active[0]? =
          some ⟨Registered.of (standard "dispatchEvent", none), some stack⟩ ∧
        stack.records = [⟨some "A", some 4⟩] := by
  have accepted : Dispatcher.build [(standard "dispatchEvent", none)] = .ok dispatchingDispatcher := rfl
  obtain ⟨-, hmoments, -⟩ := stack_mirrors_path dispatchingTree_built accepted
    (show [(standard "dispatchEvent", none)][0]? = some (check .blocker "dispatchEvent", none) from rfl)
    "A.as"
  obtain ⟨stack, hstack, hmirrors⟩ := hmoments dispatchingMoment rfl
  refine ⟨dispatchingTree_built, accepted, stack, hstack, ?_⟩
  have hopen : Visit.openAfter dispatchingMoment.before = [0, 1, 2, 3, 4, 5].map dispatchingNode := by decide
  have henclosing : enclosingClass? (dispatchingNode 4) = some (dispatchingNode 0) := by
    have wf := dispatchingTree_built.wellFormed
    have hfunction : dispatchingNode 4 ∈ (dispatchingNode 0).children := by decide
    rw [enclosingClass?, Node.ancestors_of_mem_children wf hfunction]
    rfl
  have hconstructs : Constructs (dispatchingNode 0) (dispatchingNode 4) :=
    ⟨rfl, henclosing, "A", className?_eq_some_iff.mp rfl, functionName?_eq_some_iff.mp rfl⟩
  have hconstructor : ([0, 1, 2, 3, 4, 5].map dispatchingNode).find?
      (fun node => Constructs (dispatchingNode 0) node) = some (dispatchingNode 4) := by
    have hearlier : ∀ node ∈ [0, 1, 2, 3].map dispatchingNode, node.kind ≠ .functionDef := by decide
    refine List.find?_eq_some_iff_append.mpr ⟨decide_eq_true hconstructs,
      [0, 1, 2, 3].map dispatchingNode, [dispatchingNode 5], rfl, fun node hmem => ?_⟩
    simpa using fun h : Constructs _ node => hearlier node hmem h.1
  have hclasses : classesOf ([0, 1, 2, 3, 4, 5].map dispatchingNode) = [dispatchingNode 0] := by decide
  rw [hmirrors.records_eq, hopen, mirror, hclasses, List.map_singleton, recordOf, hconstructor]
  rfl

end TreeLint.Rules.ConstructorDispatch
