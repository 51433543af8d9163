import Mathlib.Data.List.Basic

/-!
# Going through a list that may be at fault

A step that may fail is taken for each item of a list, until it fails. It goes through the whole list exactly
when no item is at fault (`exists_mapM_iff`), and then the results are those of the items
(`exists_mem_mapM_iff`); otherwise the error is that of the first item at fault (`mapM_eq_error_iff`).
-/

namespace TreeLint

variable {Item : Type u} {Result : Type v} {Error : Type w} {step : Item → Except Error Result}

theorem mapM_cons_eq_ok_iff {item : Item} {rest : List Item} {results : List Result} :
    (item :: rest).mapM step = .ok results ↔ ∃ first others, step item = .ok first ∧
      rest.mapM step = .ok others ∧ results = first :: others := by
  rw [List.mapM_cons]
  cases hitem : step item with
  | error cause => exact ⟨fun h => (nomatch h), fun ⟨_, _, h, _⟩ => (nomatch h)⟩
  | ok first =>
    cases hrest : rest.mapM step with
    | error cause => exact ⟨fun h => (nomatch h), fun ⟨_, _, _, h, _⟩ => (nomatch h)⟩
    | ok others =>
      constructor
      · intro h
        cases h
        exact ⟨first, others, rfl, rfl, rfl⟩
      · rintro ⟨_, _, hfirst, hothers, rfl⟩
        cases hfirst
        cases hothers
        rfl

/-- The first item at fault is either the one in front, or the first one behind it. -/
theorem mapM_cons_eq_error_iff {item : Item} {rest : List Item} {error : Error} :
    (item :: rest).mapM step = .error error ↔ step item = .error error ∨
      (∃ result, step item = .ok result) ∧ rest.mapM step = .error error := by
  rw [List.mapM_cons]
  cases hitem : step item with
  | error cause =>
    constructor
    · intro h
      cases h
      exact .inl rfl
    · rintro (h | ⟨⟨_, h⟩, _⟩)
      · cases h
        rfl
      · cases h
  | ok first =>
    cases hrest : rest.mapM step with
    | error cause =>
      constructor
      · intro h
        cases h
        exact .inr ⟨⟨first, rfl⟩, rfl⟩
      · rintro (h | ⟨_, h⟩)
        · cases h
        · cases h
          rfl
    | ok others =>
      constructor
      · intro h
        cases h
      · rintro (h | ⟨_, h⟩) <;> cases h

/-- **All of a list is gone through exactly when no item is at fault.** -/
theorem exists_mapM_iff (items : List Item) :
    (∃ results, items.mapM step = .ok results) ↔
      ∀ item ∈ items, ∃ result, step item = .ok result := by
  induction items with
  | nil => exact ⟨fun _ _ hmem => absurd hmem List.not_mem_nil, fun _ => ⟨[], rfl⟩⟩
  | cons item rest ih =>
    rw [List.forall_mem_cons, ← ih]
    simp only [mapM_cons_eq_ok_iff]
    constructor
    · rintro ⟨_, first, others, hfirst, hothers, _⟩
      exact ⟨⟨first, hfirst⟩, others, hothers⟩
    · rintro ⟨⟨first, hfirst⟩, others, hothers⟩
      exact ⟨_, first, others, hfirst, hothers, rfl⟩

/-- The results are those of the items. -/
theorem exists_mem_mapM_iff {items : List Item} {results : List Result} (h : items.mapM step = .ok results)
    {P : Result → Prop} :
    (∃ result ∈ results, P result) ↔ ∃ item ∈ items, ∃ result, step item = .ok result ∧ P result := by
  induction items generalizing results with
  | nil =>
    cases h
    simp
  | cons item rest ih =>
    obtain ⟨first, others, hfirst, hothers, rfl⟩ := mapM_cons_eq_ok_iff.mp h
    simp [ih hothers, hfirst]

/-- **The error is that of the first item at fault.** -/
theorem mapM_eq_error_iff {items : List Item} {error : Error} :
    items.mapM step = .error error ↔ ∃ earlier item later, items = earlier ++ item :: later ∧
      (∀ other ∈ earlier, ∃ result, step other = .ok result) ∧ step item = .error error := by
  induction items with
  | nil =>
    constructor
    · intro h
      cases h
    · rintro ⟨earlier, item, later, hsplit, _⟩
      exact absurd hsplit.symm (List.append_ne_nil_of_right_ne_nil _ (List.cons_ne_nil _ _))
  | cons first rest ih =>
    rw [mapM_cons_eq_error_iff, ih]
    constructor
    · rintro (hfirst | ⟨hfirst, earlier, item, later, rfl, hearlier, hitem⟩)
      · exact ⟨[], first, rest, rfl, fun _ hmem => absurd hmem List.not_mem_nil, hfirst⟩
      · exact ⟨first :: earlier, item, later, rfl, List.forall_mem_cons.mpr ⟨hfirst, hearlier⟩, hitem⟩
    · rintro ⟨earlier, item, later, hsplit, hearlier, hitem⟩
      cases earlier with
      | nil =>
        cases hsplit
        exact .inl hitem
      | cons other earlier =>
        cases hsplit
        obtain ⟨hfirst, hearlier⟩ := List.forall_mem_cons.mp hearlier
        exact .inr ⟨hfirst, earlier, item, later, rfl, hearlier, hitem⟩

end TreeLint
