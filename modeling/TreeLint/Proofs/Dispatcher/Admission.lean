import Mathlib.Data.List.Basic
import TreeLint.Proofs.Dispatcher.Registration

/-!
# Which checks are admitted

Checks are registered one after the other, and the tables grow while the checks are still being looked at.
**The law** (`Dispatcher.build_exact`) separates the two. Which checks are admitted depends on their keys
and subscriptions (`Dispatcher.Acceptable`); if they are not, the error is about the first check with
which something is wrong, and about one thing that is wrong with it (`Dispatcher.Offends`): its key before
its subscriptions. If they are, the tables list for each kind the places of the checks that want to hear of
it, from first to last, and hold no kind of which nobody wants to hear (`Subscribers.Lists`).

That registering stops at the first offence is a fact about every run that may fail
(`foldlM_eq_error_iff`): what went well before the failure is a run of its own, and
`Dispatcher.exists_build_iff` tells when such a run goes well.
-/

namespace TreeLint

/-- **A run fails exactly where its first step fails**, after steps that went well. -/
theorem foldlM_eq_error_iff {State : Type u} {Item : Type v} {Error : Type w}
    {step : State → Item → Except Error State} {error : Error} : ∀ {items : List Item} {start : State},
      items.foldlM step start = .error error ↔ ∃ earlier item later middle,
        items = earlier ++ item :: later ∧ earlier.foldlM step start = .ok middle ∧
          step middle item = .error error
  | [], start => by
    constructor
    · intro h
      cases h
    · rintro ⟨earlier, item, later, _, hsplit, _⟩
      exact absurd hsplit.symm (List.append_ne_nil_of_right_ne_nil _ (List.cons_ne_nil _ _))
  | first :: rest, start => by
    rw [List.foldlM_cons]
    constructor
    · intro h
      cases hfirst : step start first with
      | error cause =>
        rw [hfirst] at h
        cases h
        exact ⟨[], first, rest, start, rfl, rfl, hfirst⟩
      | ok next =>
        rw [hfirst] at h
        obtain ⟨earlier, item, later, middle, rfl, hearlier, hitem⟩ := foldlM_eq_error_iff.mp h
        refine ⟨first :: earlier, item, later, middle, rfl, ?_, hitem⟩
        rw [List.foldlM_cons, hfirst]
        exact hearlier
    · rintro ⟨earlier, item, later, middle, hsplit, hearlier, hitem⟩
      cases earlier with
      | nil =>
        cases hsplit
        cases hearlier
        rw [hitem]
        rfl
      | cons other earlier =>
        cases hsplit
        rw [List.foldlM_cons] at hearlier
        cases hfirst : step start first with
        | error cause =>
          rw [hfirst] at hearlier
          cases hearlier
        | ok next =>
          rw [hfirst] at hearlier
          exact foldlM_eq_error_iff.mpr ⟨earlier, item, later, middle, rfl, hearlier, hitem⟩

/-! ## What tables list -/

namespace Subscribers

/-- **A table lists places under a kind**: those that are wanted, from first to last. If none is wanted,
the kind is not in the table. -/
def Lists (table : Subscribers) (kind : NodeKind) (wanted : Nat → Prop) : Prop :=
  ∃ indices : List Nat, indices.Pairwise (· < ·) ∧ (∀ index, index ∈ indices ↔ wanted index) ∧
    table.get? kind = if indices = [] then none else some indices

/-- No kind is in the table without a check. -/
def Occupied (table : Subscribers) : Prop :=
  ∀ kind, table.get? kind ≠ some []

variable {table : Subscribers}

theorem Occupied.insert (h : table.Occupied) (kind : NodeKind) (index : Nat) :
    (table.insert kind index).Occupied := by
  intro other
  rw [get?_insert]
  split
  · intro hnil
    exact List.append_ne_nil_of_right_ne_nil _ (List.cons_ne_nil _ _) (Option.some.inj hnil)
  · exact h other

theorem Occupied.insertAll (h : table.Occupied) (kinds : List NodeKind) (index : Nat) :
    (table.insertAll kinds index).Occupied := by
  unfold Subscribers.insertAll
  induction kinds generalizing table with
  | nil => exact h
  | cons kind rest ih => exact ih (h.insert kind index)

theorem Occupied.get?_eq (h : table.Occupied) (kind : NodeKind) :
    table.get? kind = if table.indices kind = [] then none else some (table.indices kind) := by
  have hkind := h kind
  unfold indices
  cases hget : table.get? kind with
  | none => rfl
  | some found =>
    rw [hget] at hkind
    exact (if_neg fun hnil => hkind (congrArg some hnil)).symm

end Subscribers

theorem Check.hearsOf_enter {check : Check} {kind : NodeKind} :
    check.hearsOf .enter kind = true ↔ kind ∈ check.subscriptions := by
  simp [hearsOf]

theorem Check.hearsOf_leave {check : Check} {kind : NodeKind} :
    check.hearsOf .leave kind = true ↔ kind ∈ check.subscriptions ∧ check.visitsLeave = true := by
  simp [hearsOf]

namespace Dispatcher

/-- Neither table holds a kind of which nobody wants to hear. -/
def Occupied (dispatcher : Dispatcher) : Prop :=
  ∀ event, (dispatcher.subscribers event).Occupied

/-- **Registering a check leaves no kind without a check.** -/
theorem Occupied.withCheck {dispatcher : Dispatcher} (h : dispatcher.Occupied) (check : Check)
    (severity : Option Severity) : (dispatcher.withCheck check severity).Occupied := by
  intro event
  cases event with
  | enter => exact (h .enter).insertAll _ _
  | leave =>
    show (if check.visitsLeave then _ else dispatcher.onLeave : Subscribers).Occupied
    split
    · exact (h .leave).insertAll _ _
    · exact h .leave

/-- **A run of registrations leaves no kind without a check.** -/
theorem occupied_of_foldlM : ∀ {registrations : List (Check × Option Severity)}
    {dispatcher after : Dispatcher}, dispatcher.Occupied →
      registrations.foldlM registerNext dispatcher = .ok after → after.Occupied
  | [], _, _, occupied, h => by
    cases h
    exact occupied
  | registration :: rest, dispatcher, after, occupied, h => by
    obtain ⟨middle, hfirst, hrest⟩ := foldlM_registerNext_cons.mp h
    obtain ⟨_, _, _, rfl⟩ := register_eq_ok_iff.mp hfirst
    exact occupied_of_foldlM (occupied.withCheck registration.1 registration.2) hrest

theorem occupied_of_build {registrations : List (Check × Option Severity)} {dispatcher : Dispatcher}
    (h : build registrations = .ok dispatcher) : dispatcher.Occupied := by
  refine occupied_of_foldlM ?_ h
  intro event kind
  cases event <;> exact nofun

/-- **What the tables of an accepted list of checks hold**: for an event and a kind, the places of the
checks that want to hear of them. -/
theorem lists_of_build {registrations : List (Check × Option Severity)} {dispatcher : Dispatcher}
    (h : build registrations = .ok dispatcher) (event : Event) (kind : NodeKind) :
    (dispatcher.subscribers event).Lists kind fun index =>
      ∃ registration, registrations[index]? = some registration ∧
        registration.1.hearsOf event kind = true := by
  obtain ⟨exact, hchecks⟩ := build_spec h
  refine ⟨(dispatcher.subscribers event).indices kind, ?_, fun index => ?_,
    (occupied_of_build h event).get?_eq kind⟩
  · rw [exact event kind]
    exact List.pairwise_findIdxs
  · rw [exact event kind, hchecks, List.findIdxs_map, List.mem_findIdxs_iff_exists_getElem_pos]
    simp only [List.getElem?_eq_some_iff]
    constructor
    · rintro ⟨hlt, hhears⟩
      exact ⟨_, ⟨hlt, rfl⟩, hhears⟩
    · rintro ⟨registration, ⟨hlt, rfl⟩, hhears⟩
      exact ⟨hlt, hhears⟩

/-! ## What is wrong with a check -/

/-- **What is wrong with a check** when some keys are taken: its key is; or else it wants to hear of
nothing; or else it lists a kind that it has listed before, and this is the first one. -/
inductive Offends (taken : List String) (check : Check) : RegistrationError → Prop
  | duplicateKey : check.key ∈ taken → Offends taken check (.duplicateKey check.key)
  | emptySubscriptions : check.key ∉ taken → check.subscriptions = [] →
      Offends taken check (.emptySubscriptions check.key)
  | duplicateSubscription {before after : List NodeKind} {kind : NodeKind} : check.key ∉ taken →
      check.subscriptions = before ++ kind :: after → before.Nodup → kind ∈ before →
      Offends taken check (.duplicateSubscription check.key kind)

/-- Entering subscriptions fails at the first kind that comes again. -/
theorem subscribe_eq_error_iff (check : Check) (index : Nat) (error : RegistrationError) :
    ∀ (todo seen : List NodeKind) (tables : Subscribers × Subscribers),
      subscribe check index seen todo tables = .error error ↔
        ∃ before kind after, todo = before ++ kind :: after ∧
          (before.Nodup ∧ ∀ other ∈ before, other ∉ seen) ∧ (kind ∈ before ∨ kind ∈ seen) ∧
          error = .duplicateSubscription check.key kind
  | [], seen, tables => by
    unfold subscribe
    constructor
    · intro h
      cases h
    · rintro ⟨before, kind, after, hsplit, _⟩
      exact absurd hsplit.symm (List.append_ne_nil_of_right_ne_nil _ (List.cons_ne_nil _ _))
  | first :: rest, seen, (onEnter, onLeave) => by
    unfold subscribe
    by_cases hseen : first ∈ seen
    · rw [if_pos (List.contains_iff_mem.mpr hseen)]
      constructor
      · intro h
        cases h
        exact ⟨[], first, rest, rfl, ⟨List.nodup_nil, fun _ hmem => absurd hmem List.not_mem_nil⟩,
          .inr hseen, rfl⟩
      · rintro ⟨before, kind, after, hsplit, ⟨_, hnew⟩, _, rfl⟩
        cases before with
        | nil =>
          cases hsplit
          rfl
        | cons other before =>
          cases hsplit
          exact absurd hseen (hnew first List.mem_cons_self)
    · rw [if_neg (by rw [List.contains_iff_mem]; exact hseen), subscribe_eq_error_iff]
      constructor
      · rintro ⟨before, kind, after, rfl, hfresh, hagain, rfl⟩
        refine ⟨first :: before, kind, after, rfl, (fresh_cons_iff hseen).mp hfresh, ?_, rfl⟩
        rw [List.mem_cons] at hagain ⊢
        tauto
      · rintro ⟨before, kind, after, hsplit, hfresh, hagain, rfl⟩
        cases before with
        | nil =>
          cases hsplit
          exact absurd (hagain.resolve_left List.not_mem_nil) hseen
        | cons other before =>
          cases hsplit
          refine ⟨before, kind, after, rfl, (fresh_cons_iff hseen).mpr hfresh, ?_, rfl⟩
          rw [List.mem_cons] at hagain ⊢
          tauto

/-- **How registering a check fails**: with what is wrong with it. -/
theorem register_eq_error_iff {dispatcher : Dispatcher} {check : Check} {severity : Option Severity}
    {error : RegistrationError} :
    dispatcher.register check severity = .error error ↔
      Offends (dispatcher.checks.map fun registered => registered.check.key) check error := by
  have hkey : (dispatcher.checks.any fun registered => registered.check.key == check.key) = true ↔
      check.key ∈ dispatcher.checks.map fun registered => registered.check.key := by
    simp [List.any_eq_true, List.mem_map]
  unfold register
  split
  · next htaken =>
    rw [hkey] at htaken
    constructor
    · intro h
      cases h
      exact .duplicateKey htaken
    · intro h
      cases h with
      | duplicateKey _ => rfl
      | emptySubscriptions hnew _ => exact absurd htaken hnew
      | duplicateSubscription hnew _ _ _ => exact absurd htaken hnew
  · next hnew =>
    rw [hkey] at hnew
    split
    · next hempty =>
      constructor
      · intro h
        cases h
        exact .emptySubscriptions hnew hempty
      · intro h
        cases h with
        | duplicateKey htaken => exact absurd htaken hnew
        | emptySubscriptions _ _ => rfl
        | duplicateSubscription _ hsplit _ _ =>
          rw [hempty] at hsplit
          exact absurd hsplit.symm (List.append_ne_nil_of_right_ne_nil _ (List.cons_ne_nil _ _))
    · next hempty =>
      have hrepeats : Offends (dispatcher.checks.map fun registered => registered.check.key) check
          error ↔ subscribe check dispatcher.checks.length [] check.subscriptions
            (dispatcher.onEnter, dispatcher.onLeave) = .error error := by
        rw [subscribe_eq_error_iff]
        constructor
        · intro h
          cases h with
          | duplicateKey htaken => exact absurd htaken hnew
          | emptySubscriptions _ hnone => exact absurd hnone hempty
          | duplicateSubscription _ hsplit hnodup hagain =>
            exact ⟨_, _, _, hsplit, ⟨hnodup, fun _ _ => List.not_mem_nil⟩, .inl hagain, rfl⟩
        · rintro ⟨before, kind, after, hsplit, ⟨hnodup, _⟩, hagain, rfl⟩
          exact .duplicateSubscription hnew hsplit hnodup (hagain.resolve_right List.not_mem_nil)
      rw [hrepeats]
      cases subscribe check dispatcher.checks.length [] check.subscriptions
          (dispatcher.onEnter, dispatcher.onLeave) with
      | error cause => simp
      | ok tables => simp

/-- **How registering checks fails**: with what is wrong with the first check with which something is. -/
theorem build_eq_error_iff {registrations : List (Check × Option Severity)}
    {error : RegistrationError} :
    build registrations = .error error ↔ ∃ earlier offender later,
      registrations = earlier ++ offender :: later ∧ Acceptable earlier ∧
        Offends (earlier.map fun registration => registration.1.key) offender.1 error := by
  have htaken : ∀ {earlier : List (Check × Option Severity)} {middle : Dispatcher},
      build earlier = .ok middle →
        (middle.checks.map fun registered => registered.check.key) =
          earlier.map fun registration => registration.1.key := by
    intro earlier middle h
    rw [(build_spec h).2, List.map_map]
    rfl
  rw [build_eq_foldlM, foldlM_eq_error_iff]
  constructor
  · rintro ⟨earlier, offender, later, middle, rfl, hearlier, hoffender⟩
    have hoffends := register_eq_error_iff.mp hoffender
    rw [htaken hearlier] at hoffends
    exact ⟨earlier, offender, later, rfl, exists_build_iff.mp ⟨middle, hearlier⟩, hoffends⟩
  · rintro ⟨earlier, offender, later, rfl, acceptable, hoffends⟩
    obtain ⟨middle, hearlier⟩ := exists_build_iff.mpr acceptable
    rw [← htaken hearlier] at hoffends
    exact ⟨earlier, offender, later, middle, rfl, hearlier, register_eq_error_iff.mpr hoffends⟩

/-- **Exactly the checks that can be registered together are admitted, and the tables are exact.** Checks
are admitted if their keys differ and each of them wants to hear of something and lists nothing twice.
Otherwise the error says what is wrong with the first check with which something is. The tables of
admitted checks list, for each kind, the places of the checks that want to hear of it, and of those that
also want to hear when it is left. -/
theorem build_exact (registrations : List (Check × Option Severity)) :
    ((∃ dispatcher, build registrations = .ok dispatcher) ↔ Acceptable registrations) ∧
    (∀ error, build registrations = .error error ↔ ∃ earlier offender later,
      registrations = earlier ++ offender :: later ∧ Acceptable earlier ∧
        Offends (earlier.map fun registration => registration.1.key) offender.1 error) ∧
    ∀ dispatcher, build registrations = .ok dispatcher →
      dispatcher.checks = registrations.map Registered.of ∧ ∀ kind,
        (dispatcher.onEnter.Lists kind fun index => ∃ registration,
          registrations[index]? = some registration ∧ kind ∈ registration.1.subscriptions) ∧
        (dispatcher.onLeave.Lists kind fun index => ∃ registration,
          registrations[index]? = some registration ∧ kind ∈ registration.1.subscriptions ∧
            registration.1.visitsLeave = true) := by
  refine ⟨exists_build_iff, fun error => build_eq_error_iff, fun dispatcher h => ?_⟩
  refine ⟨(build_spec h).2, fun kind => ?_⟩
  have henter : dispatcher.onEnter.Lists kind _ := lists_of_build h .enter kind
  have hleave : dispatcher.onLeave.Lists kind _ := lists_of_build h .leave kind
  simp only [Check.hearsOf_enter] at henter
  simp only [Check.hearsOf_leave] at hleave
  exact ⟨henter, hleave⟩

/-- A check with a key and subscriptions that reports nothing. -/
def listener (key : String) (subscriptions : List NodeKind) (visitsLeave : Bool) :
    Check × Option Severity :=
  ({ Check.stateless key "listener" "" .minor "" subscriptions fun _ => [] with visitsLeave }, none)

/-- The second check wants to hear of what the first does, and also when it is left. The third has the key
of the first; that it lists a kind twice is not told, and nor is what is wrong with the fourth. -/
theorem listeners_admitted :
    (∃ dispatcher, build [listener "A" [.block, .octal] false, listener "B" [.octal] true] =
        .ok dispatcher ∧
      (dispatcher.onEnter.Lists .octal fun index => ∃ registration,
        [listener "A" [.block, .octal] false, listener "B" [.octal] true][index]? =
            some registration ∧
          .octal ∈ registration.1.subscriptions)) ∧
    build [listener "A" [.block] false, listener "B" [.octal] true,
        listener "A" [.octal, .octal] false, listener "C" [] false] = .error (.duplicateKey "A") := by
  obtain ⟨haccepted, _, htables⟩ :=
    build_exact [listener "A" [.block, .octal] false, listener "B" [.octal] true]
  obtain ⟨_, hrefused, _⟩ := build_exact [listener "A" [.block] false, listener "B" [.octal] true,
    listener "A" [.octal, .octal] false, listener "C" [] false]
  constructor
  · obtain ⟨dispatcher, hbuild⟩ := haccepted.mpr ⟨by decide, by decide, by decide⟩
    exact ⟨dispatcher, hbuild, ((htables dispatcher hbuild).2 .octal).1⟩
  · refine (hrefused _).mpr ⟨[listener "A" [.block] false, listener "B" [.octal] true],
      listener "A" [.octal, .octal] false, [listener "C" [] false], rfl,
      ⟨by decide, by decide, by decide⟩, .duplicateKey (by decide)⟩

end Dispatcher

end TreeLint
