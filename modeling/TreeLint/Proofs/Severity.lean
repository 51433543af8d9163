import Mathlib.Data.List.Sort
import Mathlib.Order.Bounds.Basic
import TreeLint.Severity

/-!
# The order of severities

Severities are ordered by their places: `info < minor < major < critical < blocker`
(`Severity.ascending`). The order is linear, so a severity that does not reach a threshold is below it.
The highest severity of a list and the lowest one are read off the ends of the sorted list
(`Severity.highest?_eq_some_iff`, `Severity.lowest?_eq_some_iff`).
-/

namespace TreeLint.Severity

theorem rank_injective : Function.Injective rank := by
  intro first second h
  cases first <;> cases second <;> first | rfl | cases h

instance : LinearOrder Severity :=
  LinearOrder.lift' rank rank_injective

/-- **The order of severities.** -/
theorem ascending :
    Severity.info < .minor ∧ Severity.minor < .major ∧ Severity.major < .critical ∧
      Severity.critical < .blocker := by
  decide

variable {severities : List Severity} {severity : Severity}

theorem mem_sorted : severity ∈ sorted severities ↔ severity ∈ severities :=
  List.mem_mergeSort

theorem sorted_pairwise (severities : List Severity) : (sorted severities).Pairwise (· ≤ ·) :=
  List.pairwise_mergeSort' (· ≤ ·) severities

theorem sorted_ne_nil (h : severity ∈ severities) : sorted severities ≠ [] :=
  List.ne_nil_of_mem (mem_sorted.mpr h)

/-! ## The ends of a sorted list -/

theorem isGreatest_of_highest? (h : highest? severities = some severity) :
    IsGreatest {other | other ∈ severities} severity := by
  obtain ⟨front, hsorted⟩ := List.getLast?_eq_some_iff.mp h
  have hpairwise := sorted_pairwise severities
  rw [hsorted, List.pairwise_append] at hpairwise
  have hmem : ∀ {other}, other ∈ severities ↔ other ∈ front ∨ other = severity := by
    intro other
    rw [← mem_sorted, hsorted, List.mem_append, List.mem_singleton]
  refine ⟨hmem.mpr (.inr rfl), fun other hother => ?_⟩
  rcases hmem.mp hother with hfront | rfl
  · exact hpairwise.2.2 other hfront severity List.mem_cons_self
  · exact le_refl other

theorem isLeast_of_lowest? (h : lowest? severities = some severity) :
    IsLeast {other | other ∈ severities} severity := by
  obtain ⟨rest, hsorted⟩ := List.head?_eq_some_iff.mp h
  have hpairwise := sorted_pairwise severities
  rw [hsorted, List.pairwise_cons] at hpairwise
  have hmem : ∀ {other}, other ∈ severities ↔ other = severity ∨ other ∈ rest := by
    intro other
    rw [← mem_sorted, hsorted, List.mem_cons]
  refine ⟨hmem.mpr (.inl rfl), fun other hother => ?_⟩
  rcases hmem.mp hother with rfl | hrest
  · exact le_refl other
  · exact hpairwise.1 other hrest

/-- The highest severity of a list is in it, and none in it is above. -/
theorem highest?_eq_some_iff :
    highest? severities = some severity ↔ IsGreatest {other | other ∈ severities} severity := by
  refine ⟨isGreatest_of_highest?, fun h => ?_⟩
  obtain ⟨found, hfound⟩ : ∃ found, highest? severities = some found :=
    ⟨_, List.getLast?_eq_some_getLast (sorted_ne_nil h.1)⟩
  rw [hfound, (isGreatest_of_highest? hfound).unique h]

/-- The lowest severity of a list is in it, and none in it is below. -/
theorem lowest?_eq_some_iff :
    lowest? severities = some severity ↔ IsLeast {other | other ∈ severities} severity := by
  refine ⟨isLeast_of_lowest?, fun h => ?_⟩
  obtain ⟨found, hfound⟩ : ∃ found, lowest? severities = some found :=
    ⟨_, List.head?_eq_some_head (sorted_ne_nil h.1)⟩
  rw [hfound, (isLeast_of_lowest? hfound).unique h]

end TreeLint.Severity
