import TreeLint.Proofs.Dispatcher.Run

/-!
# Checks do not see one another

The checks of a dispatcher share a sink, a walk and the tables of who wants to hear of what, and one that
fails is taken out on the way. **The law** (`Dispatcher.checks_isolated`): none of that shows. What a check
leaves in the report, reports and failures alike, is what it leaves when others are not there, or stand
in another order.

It is a statement about two runs of two dispatchers with different tables. Both are read as reports of
the tour, in which every check is on its own, and there it is one about lists: keeping the entries of some
keys is running the checks that have them (`Dispatcher.keep_tourReport`).

The entries of different checks do stand in another order when the checks do.
-/

namespace TreeLint

/-- The part of a report whose codes are to be kept, in the same order. -/
def FileReport.keep (report : FileReport) (kept : String → Prop) [DecidablePred kept] : FileReport :=
  { report with
    violations := report.violations.filter fun violation => kept violation.code
    diagnostics := report.diagnostics.filter fun diagnostic => kept diagnostic.code }

/-- The part of a report that has one of these codes. -/
def FileReport.only (report : FileReport) (codes : List String) : FileReport :=
  report.keep fun code => code ∈ codes

namespace Dispatcher

/-- The keys of the checks. -/
def keys (registrations : List (Check × Option Severity)) : List String :=
  registrations.map fun registration => registration.1.key

/-! ## Fewer checks -/

/-- **Keeping the entries of some keys is running the checks that have these keys.** -/
theorem keep_tourReport (checks : List Registered) (tree : SyntaxTree) (file : String)
    (kept : String → Prop) [DecidablePred kept] :
    (tourReport checks tree file).keep kept =
      tourReport (checks.filter fun registered => kept registered.check.key) tree file := by
  have hviolations := filter_violations (fun code => decide (kept code)) checks tree file
  have hdiagnostics := filter_diagnostics (fun code => decide (kept code)) checks tree file
  rw [FileReport.keep, hviolations, hdiagnostics]
  rfl

/-- **Registering fewer checks** gives the part of a report that has their keys. -/
theorem exists_build_filter {registrations : List (Check × Option Severity)} {dispatcher : Dispatcher}
    (accepted : build registrations = .ok dispatcher) (stays : Check → Prop) [DecidablePred stays]
    (kept : String → Prop) [DecidablePred kept]
    (hkept : ∀ registered ∈ dispatcher.checks, kept registered.check.key ↔ stays registered.check) :
    ∃ smaller, build (registrations.filter fun registration => stays registration.1) = .ok smaller ∧
      ∀ tree : SyntaxTree, tree.Built → ∀ file,
        smaller.run tree file = (dispatcher.run tree file).keep kept := by
  have acceptable := exists_build_iff.mp ⟨dispatcher, accepted⟩
  obtain ⟨smaller, hsmaller⟩ := exists_build_iff.mpr (acceptable.sublist List.filter_sublist)
  refine ⟨smaller, hsmaller, fun tree built file => ?_⟩
  rw [(build_spec accepted).2] at hkept
  have hchecks : ((registrations.map Registered.of).filter fun registered =>
      decide (kept registered.check.key)) =
      (registrations.filter fun registration => stays registration.1).map Registered.of := by
    rw [List.filter_map]
    refine congrArg (List.map Registered.of) (List.filter_congr fun registration hmem => ?_)
    exact decide_eq_decide.mpr (hkept (.of registration) (List.mem_map_of_mem hmem))
  rw [run_of_build built hsmaller, run_of_build built accepted, keep_tourReport, hchecks]

/-! ## Which checks have some keys -/

/-- Among checks with different keys, those that have the keys of some are these. -/
theorem filter_keys_of_sublist {few many : List (Check × Option Severity)} (hsub : few.Sublist many)
    (hnodup : (keys many).Nodup) :
    (many.filter fun registration => registration.1.key ∈ keys few) = few := by
  induction hsub with
  | slnil => rfl
  | @cons few many extra hsub ih =>
    obtain ⟨hextra, hmany⟩ := List.nodup_cons.mp hnodup
    have hnew : extra.1.key ∉ keys few := fun hmem => hextra ((hsub.map _).subset hmem)
    rw [List.filter_cons, if_neg (decide_eq_true_iff.not.mpr hnew)]
    exact ih hmany
  | @cons_cons few many kept hsub ih =>
    obtain ⟨hkept, hmany⟩ := List.nodup_cons.mp hnodup
    have hhead : kept.1.key ∈ keys (kept :: few) := List.mem_cons_self
    rw [List.filter_cons, if_pos (decide_eq_true hhead)]
    congr 1
    refine Eq.trans (List.filter_congr fun registration hmem => ?_) (ih hmany)
    have hother : registration.1.key ≠ kept.1.key := fun heq =>
      hkept (List.mem_map.mpr ⟨registration, hmem, heq⟩)
    exact decide_eq_decide.mpr (List.mem_cons.trans (or_iff_right hother))

/-- Among checks with different keys, the one that has a key is the same in any order. -/
theorem filter_key_of_perm {first second : List Registered} (hperm : second.Perm first)
    (hnodup : (first.map fun registered => registered.check.key).Nodup) (key : String) :
    (second.filter fun registered => registered.check.key = key) =
      first.filter fun registered => registered.check.key = key := by
  have hfilter := hperm.filter fun registered => decide (registered.check.key = key)
  cases hfirst : first.filter fun registered => decide (registered.check.key = key) with
  | nil =>
    rw [hfirst] at hfilter
    exact hfilter.eq_nil
  | cons registered rest =>
    have hfound : registered ∈ first.filter fun registered => decide (registered.check.key = key) := by
      rw [hfirst]
      exact List.mem_cons_self
    obtain ⟨hmem, hkey⟩ := List.mem_filter.mp hfound
    obtain rfl := of_decide_eq_true hkey
    rw [filter_key_eq_singleton hnodup hmem] at hfirst hfilter
    rw [← hfirst]
    exact List.perm_singleton.mp hfilter

/-! ## Two runs -/

/-- **Checks do not see one another.** Of the checks of an accepted list, any may be left out, and those
that stay leave what they left. They may also be put in another order, and what each leaves is the
same. -/
theorem checks_isolated {registrations : List (Check × Option Severity)} {dispatcher : Dispatcher}
    (accepted : build registrations = .ok dispatcher) :
    (∀ few : List (Check × Option Severity), few.Sublist registrations →
      ∃ smaller, build few = .ok smaller ∧ ∀ tree : SyntaxTree, tree.Built → ∀ file,
        smaller.run tree file = (dispatcher.run tree file).only (keys few)) ∧
    (∀ shuffled : List (Check × Option Severity), shuffled.Perm registrations →
      ∃ other, build shuffled = .ok other ∧ ∀ tree : SyntaxTree, tree.Built → ∀ file key,
        (other.run tree file).only [key] = (dispatcher.run tree file).only [key]) := by
  have acceptable := exists_build_iff.mp ⟨dispatcher, accepted⟩
  constructor
  · intro few hsub
    have hfewer := exists_build_filter accepted (fun check => check.key ∈ keys few)
      (fun code => code ∈ keys few) fun _ _ => Iff.rfl
    rw [filter_keys_of_sublist hsub acceptable.keys_nodup] at hfewer
    exact hfewer
  · intro shuffled hperm
    obtain ⟨other, hother⟩ := exists_build_iff.mpr (acceptable.perm hperm)
    refine ⟨other, hother, fun tree built file key => ?_⟩
    rw [run_of_build built hother, run_of_build built accepted, FileReport.only, FileReport.only,
      keep_tourReport, keep_tourReport]
    simp only [List.mem_singleton]
    rw [filter_key_of_perm (hperm.map Registered.of) (nodup_keys acceptable)]

/-- A brittle check and one that goes on: either leaves the same without the other, and before it. -/
theorem watchers_isolated :
    TreeBuilder.troubledTree.Built ∧ ∃ dispatcher, build watchers = .ok dispatcher ∧
      (∃ smaller, build [(watcher "W2" false, some .info)] = .ok smaller ∧
        smaller.run TreeBuilder.troubledTree "A.as" =
          (dispatcher.run TreeBuilder.troubledTree "A.as").only ["W2"]) ∧
      (∃ other, build [(watcher "W2" false, some .info), (watcher "W1" true, none)] = .ok other ∧
        ∀ key, (other.run TreeBuilder.troubledTree "A.as").only [key] =
          (dispatcher.run TreeBuilder.troubledTree "A.as").only [key]) := by
  have built : TreeBuilder.troubledTree.Built := .ofRequests _ TreeBuilder.troubledTree_mem
  obtain ⟨dispatcher, accepted⟩ := exists_build_watchers
  obtain ⟨hfewer, hshuffled⟩ := checks_isolated accepted
  obtain ⟨smaller, hsmaller, hpart⟩ := hfewer [(watcher "W2" false, some .info)]
    (List.sublist_cons_self _ _)
  obtain ⟨other, hother, hsame⟩ :=
    hshuffled [(watcher "W2" false, some .info), (watcher "W1" true, none)] (List.Perm.swap _ _ _)
  exact ⟨built, dispatcher, accepted, ⟨smaller, hsmaller, hpart _ built _⟩,
    ⟨other, hother, hsame _ built _⟩⟩

end Dispatcher

end TreeLint
