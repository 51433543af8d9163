/-!
# Scope stacks

A stack of records, one for each enclosing scope during a traversal. The innermost scope is on top.
-/

namespace TreeLint

/-- A stack of records, kept with the innermost first. -/
structure ScopeStack (α : Type) where
  inner : List α
  deriving DecidableEq, Repr

namespace ScopeStack

variable {α : Type}

/-- The stack with no record. -/
def empty : ScopeStack α :=
  ⟨[]⟩

instance : Inhabited (ScopeStack α) :=
  ⟨empty⟩

/-- Enters a scope. -/
def push (stack : ScopeStack α) (record : α) : ScopeStack α :=
  ⟨record :: stack.inner⟩

/-- Leaves the innermost scope. -/
def pop (stack : ScopeStack α) : ScopeStack α :=
  ⟨stack.inner.tail⟩

/-- The record of the innermost scope. -/
def top? (stack : ScopeStack α) : Option α :=
  stack.inner.head?

/-- Changes the record of the innermost scope, if there is one. -/
def modifyTop (stack : ScopeStack α) (f : α → α) : ScopeStack α :=
  match stack.inner with
  | [] => stack
  | record :: outer => ⟨f record :: outer⟩

/-- Whether no scope is open. -/
def isEmpty (stack : ScopeStack α) : Bool :=
  stack.inner.isEmpty

/-- The records, outermost first. -/
def records (stack : ScopeStack α) : List α :=
  stack.inner.reverse

@[simp]
theorem records_empty : (empty : ScopeStack α).records = [] :=
  rfl

@[simp]
theorem records_push (stack : ScopeStack α) (record : α) :
    (stack.push record).records = stack.records ++ [record] := by
  simp [records, push]

@[simp]
theorem records_pop (stack : ScopeStack α) : stack.pop.records = stack.records.dropLast := by
  simp [records, pop, List.dropLast_reverse]

@[simp]
theorem top?_eq (stack : ScopeStack α) : stack.top? = stack.records.getLast? := by
  simp [records, top?]

theorem records_modifyTop (stack : ScopeStack α) (f : α → α) :
    (stack.modifyTop f).records =
      stack.records.dropLast ++ (stack.records.getLast?.map f).toList := by
  obtain ⟨_ | _⟩ := stack <;> simp [records, modifyTop]

theorem top?_modifyTop (stack : ScopeStack α) (f : α → α) :
    (stack.modifyTop f).top? = stack.top?.map f := by
  obtain ⟨_ | _⟩ := stack <;> rfl

end ScopeStack

end TreeLint
