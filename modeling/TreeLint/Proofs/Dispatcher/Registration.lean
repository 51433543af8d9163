import Mathlib.Data.List.Basic
import TreeLint.Dispatcher

/-!
# Registering checks

Which checks can be registered together, and what the two tables of a dispatcher hold then.

`Dispatcher.exists_build_iff` says that checks are accepted exactly when their keys differ and each of
them wants to hear of something and lists nothing twice (`Dispatcher.Acceptable`). The condition says
nothing about the order of the checks, and it holds of fewer checks when it holds of more.

`Dispatcher.build_spec` says that an accepted list of checks gives a dispatcher with these checks in
this order, and with exact tables (`Dispatcher.Exact`): for an event and a kind, the table holds the
places of the checks that want to hear of them, in the order of registration.
-/

namespace TreeLint

/-! ## Tables -/

namespace Subscribers

/-- The places of the checks that want to hear of a kind. -/
def indices (table : Subscribers) (kind : NodeKind) : List Nat :=
  (table.get? kind).getD []

theorem lookup_cons_eq (kind k : NodeKind) (indices : List Nat)
    (rest : List (NodeKind × List Nat)) :
    ((k, indices) :: rest).lookup kind = if kind = k then some indices else rest.lookup kind := by
  rw [List.lookup_cons]
  by_cases h : kind = k
  · rw [if_pos h, beq_iff_eq.mpr h]
  · rw [if_neg h, beq_eq_false_iff_ne.mpr h]

theorem lookup_insertEntry (kind other : NodeKind) (index : Nat) :
    ∀ entries : List (NodeKind × List Nat),
      (insertEntry kind index entries).lookup other =
        if other = kind then some ((entries.lookup kind).getD [] ++ [index])
        else entries.lookup other
  | [] => lookup_cons_eq other kind [index] []
  | (k, indices) :: rest => by
    have ih := lookup_insertEntry kind other index rest
    unfold insertEntry
    by_cases hk : k = kind
    · subst hk
      rw [if_pos rfl, lookup_cons_eq, lookup_cons_eq, lookup_cons_eq, if_pos rfl]
      by_cases hother : other = k
      · rw [if_pos hother, if_pos hother]
        rfl
      · rw [if_neg hother, if_neg hother, if_neg hother]
    · rw [if_neg hk, lookup_cons_eq, lookup_cons_eq, lookup_cons_eq, ih, if_neg (Ne.symm hk)]
      by_cases hother : other = k
      · rw [if_pos hother, if_neg (hother ▸ hk), if_pos hother]
      · rw [if_neg hother, if_neg hother]

theorem get?_insert (table : Subscribers) (kind other : NodeKind) (index : Nat) :
    (table.insert kind index).get? other =
      if other = kind then some (table.indices kind ++ [index]) else table.get? other :=
  lookup_insertEntry kind other index table.entries

theorem indices_insert (table : Subscribers) (kind other : NodeKind) (index : Nat) :
    (table.insert kind index).indices other =
      table.indices other ++ if other = kind then [index] else [] := by
  unfold indices
  rw [get?_insert]
  by_cases h : other = kind
  · subst h
    simp [indices]
  · simp [h]

/-- Adds a check behind those that want to hear of a kind, for each of some kinds. -/
def insertAll (table : Subscribers) (kinds : List NodeKind) (index : Nat) : Subscribers :=
  kinds.foldl (fun table kind => table.insert kind index) table

/-- A check that lists its kinds once comes last in the table for each of them. -/
theorem indices_insertAll (index : Nat) (other : NodeKind) :
    ∀ {kinds : List NodeKind} (table : Subscribers), kinds.Nodup →
      (table.insertAll kinds index).indices other =
        table.indices other ++ if other ∈ kinds then [index] else []
  | [], table, _ => by simp [insertAll]
  | kind :: rest, table, hnodup => by
    obtain ⟨hkind, hrest⟩ := List.nodup_cons.mp hnodup
    have ih := indices_insertAll index other (table.insert kind index) hrest
    show ((table.insert kind index).insertAll rest index).indices other = _
    rw [ih, indices_insert]
    by_cases h : other = kind
    · subst h
      simp [hkind]
    · simp [h]

end Subscribers

/-! ## One check -/

/-- Whether a check wants to hear of an event at nodes of a kind. -/
def Check.hearsOf (check : Check) (event : Event) (kind : NodeKind) : Bool :=
  check.subscriptions.contains kind && (event == .enter || check.visitsLeave)

/-- A check that is to be registered, with the severity its violations will have. -/
def Registered.of (registration : Check × Option Severity) : Registered :=
  ⟨registration.1, registration.2.getD registration.1.severity⟩

namespace Dispatcher

/-- A dispatcher is exact when its tables say which checks want to hear of what: for an event and a
kind they hold the places of these checks, in order. -/
def Exact (dispatcher : Dispatcher) : Prop :=
  ∀ (event : Event) (kind : NodeKind), (dispatcher.subscribers event).indices kind =
    dispatcher.checks.findIdxs fun registered => registered.check.hearsOf event kind

/-- One more kind in front, which was not seen before: the others are new if they differ from it too. -/
theorem fresh_cons_iff {kind : NodeKind} {kinds seen : List NodeKind} (hseen : kind ∉ seen) :
    (kinds.Nodup ∧ ∀ other ∈ kinds, other ∉ kind :: seen) ↔
      ((kind :: kinds).Nodup ∧ ∀ other ∈ kind :: kinds, other ∉ seen) := by
  rw [List.nodup_cons]
  constructor
  · rintro ⟨hnodup, hnew⟩
    refine ⟨⟨fun hmem => hnew kind hmem List.mem_cons_self, hnodup⟩, fun other hmem => ?_⟩
    rcases List.mem_cons.mp hmem with rfl | hmem
    · exact hseen
    · exact fun h => hnew other hmem (List.mem_cons_of_mem _ h)
  · rintro ⟨⟨hkind, hnodup⟩, hnew⟩
    refine ⟨hnodup, fun other hmem h => ?_⟩
    rcases List.mem_cons.mp h with rfl | h
    · exact hkind hmem
    · exact hnew other (List.mem_cons_of_mem _ hmem) h

/-- Entering subscriptions succeeds exactly when none comes twice, and then it enters all of them. -/
theorem subscribe_eq_ok_iff (check : Check) (index : Nat) (result : Subscribers × Subscribers) :
    ∀ (todo seen : List NodeKind) (tables : Subscribers × Subscribers),
      subscribe check index seen todo tables = .ok result ↔
        (todo.Nodup ∧ ∀ kind ∈ todo, kind ∉ seen) ∧
          result = (tables.1.insertAll todo index,
            if check.visitsLeave then tables.2.insertAll todo index else tables.2)
  | [], seen, tables => by
    have hnothing : (tables.1.insertAll [] index,
        if check.visitsLeave then tables.2.insertAll [] index else tables.2) = tables := by
      cases check.visitsLeave <;> rfl
    rw [hnothing]
    unfold subscribe
    rw [Except.ok.injEq]
    constructor
    · rintro rfl
      exact ⟨⟨List.nodup_nil, fun _ h => nomatch h⟩, rfl⟩
    · rintro ⟨_, rfl⟩
      rfl
  | kind :: todo, seen, (onEnter, onLeave) => by
    unfold subscribe
    by_cases hseen : kind ∈ seen
    · rw [if_pos (List.contains_iff_mem.mpr hseen)]
      constructor
      · intro h
        cases h
      · rintro ⟨⟨_, hnew⟩, _⟩
        exact absurd hseen (hnew kind List.mem_cons_self)
    · rw [if_neg (by rw [List.contains_iff_mem]; exact hseen), subscribe_eq_ok_iff]
      have htables : ((onEnter.insert kind index).insertAll todo index,
          if check.visitsLeave then
            (if check.visitsLeave then onLeave.insert kind index else onLeave).insertAll todo index
          else if check.visitsLeave then onLeave.insert kind index else onLeave) =
          (onEnter.insertAll (kind :: todo) index,
            if check.visitsLeave then onLeave.insertAll (kind :: todo) index else onLeave) := by
        cases check.visitsLeave <;> rfl
      rw [htables, fresh_cons_iff hseen]

/-- The dispatcher with one more check behind the others. -/
def withCheck (dispatcher : Dispatcher) (check : Check) (severity : Option Severity) : Dispatcher where
  checks := dispatcher.checks ++ [.of (check, severity)]
  onEnter := dispatcher.onEnter.insertAll check.subscriptions dispatcher.checks.length
  onLeave :=
    if check.visitsLeave then
      dispatcher.onLeave.insertAll check.subscriptions dispatcher.checks.length
    else dispatcher.onLeave

/-- **What registering a check can do.** It succeeds exactly when the key is new and the check wants to
hear of something and lists nothing twice. -/
theorem register_eq_ok_iff {dispatcher after : Dispatcher} {check : Check}
    {severity : Option Severity} :
    dispatcher.register check severity = .ok after ↔
      check.key ∉ dispatcher.checks.map (fun registered => registered.check.key) ∧
        check.subscriptions ≠ [] ∧ check.subscriptions.Nodup ∧
        after = dispatcher.withCheck check severity := by
  have hkey : (dispatcher.checks.any fun registered => registered.check.key == check.key) = true ↔
      check.key ∈ dispatcher.checks.map fun registered => registered.check.key := by
    simp [List.any_eq_true, List.mem_map]
  unfold register
  by_cases hused : check.key ∈ dispatcher.checks.map fun registered => registered.check.key
  · rw [if_pos (hkey.mpr hused)]
    exact ⟨fun h => (nomatch h), fun h => absurd hused h.1⟩
  · rw [if_neg (fun h => hused (hkey.mp h))]
    by_cases hempty : check.subscriptions = []
    · rw [if_pos hempty]
      exact ⟨fun h => (nomatch h), fun h => absurd hempty h.2.1⟩
    · rw [if_neg hempty]
      cases hsub : subscribe check dispatcher.checks.length [] check.subscriptions
          (dispatcher.onEnter, dispatcher.onLeave) with
      | error error =>
        constructor
        · intro h
          cases h
        · rintro ⟨_, _, hnodup, _⟩
          have := (subscribe_eq_ok_iff check dispatcher.checks.length _ check.subscriptions []
            (dispatcher.onEnter, dispatcher.onLeave)).mpr
              ⟨⟨hnodup, fun _ _ => List.not_mem_nil⟩, rfl⟩
          rw [hsub] at this
          cases this
      | ok tables =>
        obtain ⟨⟨hnodup, _⟩, rfl⟩ := (subscribe_eq_ok_iff ..).mp hsub
        constructor
        · intro h
          cases h
          exact ⟨hused, hempty, hnodup, rfl⟩
        · rintro ⟨_, _, _, rfl⟩
          rfl

/-- **Registering a check keeps the tables exact.** -/
theorem Exact.withCheck {dispatcher : Dispatcher} (exact : dispatcher.Exact) {check : Check}
    (severity : Option Severity) (hnodup : check.subscriptions.Nodup) :
    (dispatcher.withCheck check severity).Exact := by
  intro event kind
  have hlast : [Registered.of (check, severity)].findIdxs
      (fun registered => registered.check.hearsOf event kind) (0 + dispatcher.checks.length) =
      if check.hearsOf event kind then [dispatcher.checks.length] else [] := by
    rw [List.findIdxs_singleton, Nat.zero_add]
    rfl
  show _ = (dispatcher.checks ++ [Registered.of (check, severity)]).findIdxs _
  rw [List.findIdxs_append, ← exact event kind, hlast]
  cases event with
  | enter =>
    show (dispatcher.onEnter.insertAll _ _).indices kind = dispatcher.onEnter.indices kind ++ _
    rw [Subscribers.indices_insertAll _ _ _ hnodup]
    simp [Check.hearsOf]
  | leave =>
    show (if check.visitsLeave then dispatcher.onLeave.insertAll _ _
      else dispatcher.onLeave).indices kind = dispatcher.onLeave.indices kind ++ _
    cases hleave : check.visitsLeave with
    | true =>
      rw [if_pos rfl, Subscribers.indices_insertAll _ _ _ hnodup]
      simp [Check.hearsOf, hleave]
    | false => simp [Check.hearsOf, hleave]

/-! ## All checks -/

/-- **Checks that can be registered together.** -/
structure Acceptable (registrations : List (Check × Option Severity)) : Prop where
  keys_nodup : (registrations.map fun registration => registration.1.key).Nodup
  /-- Every check wants to hear of something. -/
  subscribes : ∀ registration ∈ registrations, registration.1.subscriptions ≠ []
  kinds_nodup : ∀ registration ∈ registrations, registration.1.subscriptions.Nodup

/-- One more check in front: its key is new, and it wants to hear of something and lists nothing
twice. -/
theorem acceptable_cons {registration : Check × Option Severity}
    {rest : List (Check × Option Severity)} :
    Acceptable (registration :: rest) ↔
      registration.1.key ∉ rest.map (fun other => other.1.key) ∧
        registration.1.subscriptions ≠ [] ∧ registration.1.subscriptions.Nodup ∧
        Acceptable rest := by
  constructor
  · intro h
    obtain ⟨hkey, hkeys⟩ := List.nodup_cons.mp h.keys_nodup
    obtain ⟨hempty, hempties⟩ := List.forall_mem_cons.mp h.subscribes
    obtain ⟨hnodup, hnodups⟩ := List.forall_mem_cons.mp h.kinds_nodup
    exact ⟨hkey, hempty, hnodup, hkeys, hempties, hnodups⟩
  · rintro ⟨hkey, hempty, hnodup, hkeys, hempties, hnodups⟩
    exact ⟨List.nodup_cons.mpr ⟨hkey, hkeys⟩, List.forall_mem_cons.mpr ⟨hempty, hempties⟩,
      List.forall_mem_cons.mpr ⟨hnodup, hnodups⟩⟩

/-- Fewer checks can be registered together if more can. -/
theorem Acceptable.sublist {few many : List (Check × Option Severity)} (h : Acceptable many)
    (hsub : few.Sublist many) : Acceptable few :=
  ⟨h.keys_nodup.sublist (hsub.map _), fun registration hmem => h.subscribes registration (hsub.mem hmem),
    fun registration hmem => h.kinds_nodup registration (hsub.mem hmem)⟩

/-- The order of the checks does not matter for whether they can be registered together. -/
theorem Acceptable.perm {first second : List (Check × Option Severity)} (h : Acceptable first)
    (hperm : second.Perm first) : Acceptable second :=
  ⟨(hperm.map _).nodup_iff.mpr h.keys_nodup,
    fun registration hmem => h.subscribes registration (hperm.mem_iff.mp hmem),
    fun registration hmem => h.kinds_nodup registration (hperm.mem_iff.mp hmem)⟩

/-- One step of registering checks one after the other. -/
def registerNext (dispatcher : Dispatcher) (registration : Check × Option Severity) :
    Except RegistrationError Dispatcher :=
  dispatcher.register registration.1 registration.2

theorem build_eq_foldlM (registrations : List (Check × Option Severity)) :
    build registrations = registrations.foldlM registerNext empty :=
  rfl

theorem foldlM_registerNext_cons {dispatcher after : Dispatcher}
    {registration : Check × Option Severity} {rest : List (Check × Option Severity)} :
    (registration :: rest).foldlM registerNext dispatcher = .ok after ↔
      ∃ middle, dispatcher.registerNext registration = .ok middle ∧
        rest.foldlM registerNext middle = .ok after := by
  rw [List.foldlM_cons]
  cases hfirst : dispatcher.registerNext registration with
  | error error => exact ⟨fun h => (nomatch h), fun ⟨_, h, _⟩ => (nomatch h)⟩
  | ok middle =>
    constructor
    · intro h
      exact ⟨middle, rfl, h⟩
    · rintro ⟨_, heq, h⟩
      cases heq
      exact h

/-- **What a run of registrations preserves**: exact tables, and the order of the checks. -/
theorem exact_of_foldlM : ∀ {registrations : List (Check × Option Severity)}
    {dispatcher after : Dispatcher}, dispatcher.Exact →
      registrations.foldlM registerNext dispatcher = .ok after →
      after.Exact ∧ after.checks = dispatcher.checks ++ registrations.map Registered.of
  | [], dispatcher, after, exact, h => by
    cases h
    exact ⟨exact, (List.append_nil _).symm⟩
  | registration :: rest, dispatcher, after, exact, h => by
    obtain ⟨middle, hfirst, hrest⟩ := foldlM_registerNext_cons.mp h
    obtain ⟨_, _, hnodup, rfl⟩ := register_eq_ok_iff.mp hfirst
    obtain ⟨hexact, hchecks⟩ := exact_of_foldlM (exact.withCheck registration.2 hnodup) hrest
    refine ⟨hexact, hchecks.trans ?_⟩
    rw [List.map_cons]
    exact List.append_assoc _ _ _

/-- A run of registrations succeeds exactly when the checks can be registered together and none has a
key that was used before. -/
theorem exists_foldlM_iff : ∀ (registrations : List (Check × Option Severity))
    (dispatcher : Dispatcher),
      (∃ after, registrations.foldlM registerNext dispatcher = .ok after) ↔
        Acceptable registrations ∧ ∀ registration ∈ registrations,
          registration.1.key ∉ dispatcher.checks.map fun registered => registered.check.key
  | [], dispatcher => by
    refine ⟨fun _ => ⟨⟨List.nodup_nil, ?_, ?_⟩, ?_⟩, fun _ => ⟨dispatcher, rfl⟩⟩ <;>
      exact fun _ h => nomatch h
  | registration :: rest, dispatcher => by
    have ih := exists_foldlM_iff rest (dispatcher.withCheck registration.1 registration.2)
    have hkeys : (dispatcher.withCheck registration.1 registration.2).checks.map
        (fun registered => registered.check.key) =
        dispatcher.checks.map (fun registered => registered.check.key) ++ [registration.1.key] :=
      List.map_append
    rw [hkeys] at ih
    rw [acceptable_cons]
    constructor
    · rintro ⟨after, h⟩
      obtain ⟨middle, hfirst, hrest⟩ := foldlM_registerNext_cons.mp h
      obtain ⟨hnew, hempty, hnodup, rfl⟩ := register_eq_ok_iff.mp hfirst
      obtain ⟨hacceptable, hothers⟩ := ih.mp ⟨after, hrest⟩
      refine ⟨⟨fun hmem => ?_, hempty, hnodup, hacceptable⟩, List.forall_mem_cons.mpr ⟨hnew, ?_⟩⟩
      · obtain ⟨other, hother, hkey⟩ := List.mem_map.mp hmem
        exact hothers other hother (List.mem_append_right _ (List.mem_singleton.mpr hkey))
      · exact fun other hmem h => hothers other hmem (List.mem_append_left _ h)
    · rintro ⟨⟨hkey, hempty, hnodup, hacceptable⟩, hused⟩
      obtain ⟨hnew, hothers⟩ := List.forall_mem_cons.mp hused
      have hfresh : ∀ other ∈ rest, other.1.key ∉
          dispatcher.checks.map (fun registered => registered.check.key) ++ [registration.1.key] := by
        intro other hmem h
        rcases List.mem_append.mp h with h | h
        · exact hothers other hmem h
        · exact hkey (List.mem_map.mpr ⟨other, hmem, List.mem_singleton.mp h⟩)
      obtain ⟨after, hrest⟩ := ih.mpr ⟨hacceptable, hfresh⟩
      exact ⟨after, foldlM_registerNext_cons.mpr
        ⟨_, register_eq_ok_iff.mpr ⟨hnew, hempty, hnodup, rfl⟩, hrest⟩⟩

/-- **Checks are accepted exactly when they can be registered together.** -/
theorem exists_build_iff {registrations : List (Check × Option Severity)} :
    (∃ dispatcher, build registrations = .ok dispatcher) ↔ Acceptable registrations := by
  rw [build_eq_foldlM, exists_foldlM_iff]
  exact ⟨fun h => h.1, fun h => ⟨h, fun _ _ => List.not_mem_nil⟩⟩

/-- **What is built**: the checks in the order of their registration, with exact tables. -/
theorem build_spec {registrations : List (Check × Option Severity)} {dispatcher : Dispatcher}
    (h : build registrations = .ok dispatcher) :
    dispatcher.Exact ∧ dispatcher.checks = registrations.map Registered.of := by
  refine exact_of_foldlM ?_ h
  intro event kind
  cases event <;> rfl

end Dispatcher

end TreeLint
