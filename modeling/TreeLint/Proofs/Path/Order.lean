import Mathlib.Data.List.Lex
import Mathlib.Data.List.Sort
import Mathlib.Data.String.Basic
import TreeLint.Path

/-!
# The order of paths

Paths are compared by their components, from the first to the last. The order is strict and total on
lists of components (`Path.Before`), and two paths that neither comes before the other have the same
components, though they may be written differently.

**Putting paths in order** (`Path.sorted`) gives a list that is strictly increasing
(`Path.sorted_pairwise`), and of the paths with the same components it keeps the one that was there first
(`Path.mem_sorted`). This depends on sorting being stable, and on paths with the same components becoming
neighbours.
-/

namespace TreeLint.Path

/-! ## Components -/

namespace Component

/-- One component comes before another. -/
def Before (a b : Component) : Prop :=
  a.before b = true

/-- The kind of a component counts first, and then its name. -/
theorem before_iff {a b : Component} :
    a.Before b ↔ a.rank < b.rank ∨ ∃ x y, a = .name x ∧ b = .name y ∧ x < y := by
  unfold Before
  cases a <;> cases b <;> simp [before, rank]

theorem eq_of_rank {a b : Component} (h : a.rank = b.rank) :
    a = b ∨ ∃ x y, a = .name x ∧ b = .name y := by
  cases a <;> cases b <;> simp_all [rank]

instance : Std.Asymm Before where
  asymm a b h h' := by
    rw [before_iff] at h h'
    rcases h with h | ⟨x, y, rfl, rfl, h⟩
    · rcases h' with h' | ⟨x, y, rfl, rfl, _⟩
      · exact Nat.lt_asymm h h'
      · exact Nat.lt_irrefl _ h
    · rcases h' with h' | ⟨_, _, hy, hx, h'⟩
      · exact Nat.lt_irrefl _ h'
      · cases hy
        cases hx
        exact String.lt_asymm h h'

instance : Std.Trichotomous Before where
  trichotomous a b h h' := by
    rw [before_iff, not_or] at h h'
    rcases eq_of_rank (Nat.le_antisymm (Nat.le_of_not_lt h'.1) (Nat.le_of_not_lt h.1)) with
      rfl | ⟨x, y, rfl, rfl⟩
    · rfl
    · have hle : ¬ x < y := fun hlt => h.2 ⟨x, y, rfl, rfl, hlt⟩
      have hge : ¬ y < x := fun hlt => h'.2 ⟨y, x, rfl, rfl, hlt⟩
      rw [le_antisymm (not_lt.mp hge) (not_lt.mp hle)]

theorem Before.trans {a b c : Component} (h : a.Before b) (h' : b.Before c) : a.Before c := by
  rw [before_iff] at h h' ⊢
  rcases h with h | ⟨x, y, rfl, rfl, h⟩
  · rcases h' with h' | ⟨y, z, rfl, rfl, _⟩
    · exact .inl (Nat.lt_trans h h')
    · exact .inl h
  · rcases h' with h' | ⟨_, z, heq, rfl, h'⟩
    · exact .inl h'
    · cases heq
      exact .inr ⟨x, z, rfl, rfl, String.lt_trans h h'⟩

end Component

/-! ## Paths -/

/-- **One path comes before another**: its list of components does. -/
def Before (a b : String) : Prop :=
  List.Lex Component.Before (components a) (components b)

theorem Before.trans {a b c : String} (h : Before a b) (h' : Before b c) : Before a c :=
  List.lex_trans Component.Before.trans h h'

theorem same_iff {a b : String} : same a b = true ↔ components a = components b := by
  unfold same
  exact beq_iff_eq

/-- No path comes before one with the same components. -/
theorem Before.not_same {a b : String} (h : Before a b) : same a b = false := by
  rw [Bool.eq_false_iff]
  intro hsame
  unfold Before at h
  rw [same_iff.mp hsame] at h
  exact irrefl_of (List.Lex Component.Before) _ h

theorem notAfter_iff {as bs : List Component} :
    notAfter as bs = true ↔ as = bs ∨ List.Lex Component.Before as bs := by
  induction as generalizing bs with
  | nil =>
    cases bs with
    | nil => simp [notAfter]
    | cons b bs => simp [notAfter]
  | cons a as ih =>
    cases bs with
    | nil =>
      constructor
      · nofun
      · rintro (h | h) <;> cases h
    | cons b bs =>
      rw [notAfter]
      by_cases heq : a = b
      · subst heq
        rw [if_pos rfl, ih, List.lex_cons_iff, List.cons.injEq, and_iff_right rfl]
      · rw [if_neg heq]
        constructor
        · exact fun h => .inr (.rel h)
        · rintro (h | h)
          · exact absurd (List.cons.inj h).1 heq
          · cases h with
            | rel h => exact h
            | cons h => exact absurd rfl heq

theorem le_iff {a b : String} : le a b = true ↔ same a b = true ∨ Before a b := by
  rw [same_iff]
  exact notAfter_iff

theorem le_trans (a b c : String) (h : le a b = true) (h' : le b c = true) : le a c = true := by
  rw [le_iff, same_iff] at *
  unfold Before at *
  rcases h with h | h
  · rw [h]
    exact h'
  · rcases h' with h' | h'
    · rw [← h']
      exact .inr h
    · exact .inr (List.lex_trans Component.Before.trans h h')

theorem le_total (a b : String) : (le a b || le b a) = true := by
  rw [Bool.or_eq_true, le_iff, le_iff, same_iff]
  rcases trichotomous_of (List.Lex Component.Before) (components a) (components b) with h | h | h
  · exact .inl (.inr h)
  · exact .inl (.inl h)
  · exact .inr (.inr h)

/-! ## Paths in order -/

theorem dropRepeats_eq_cons (path : String) (paths : List String) :
    dropRepeats (path :: paths) = path :: (dropRepeats (path :: paths)).tail := by
  cases paths with
  | nil => rfl
  | cons next paths =>
    rw [dropRepeats]
    split
    · rfl
    · split <;> rfl

/-- Of neighbours with the same components the first one stays. -/
theorem dropRepeats_cons_cons (a b : String) (rest : List String) :
    dropRepeats (a :: b :: rest) =
      a :: if same a b then (dropRepeats (b :: rest)).tail else dropRepeats (b :: rest) := by
  rw [dropRepeats, dropRepeats_eq_cons b rest]
  dsimp only
  split <;> rfl

/-- A path that comes before another comes before those with the same components. -/
theorem Before.of_same {a b c : String} (hsame : same a b = true) (h : Before b c) : Before a c := by
  unfold Before
  rw [same_iff.mp hsame]
  exact h

/-- **Paths in order, without repetitions, are strictly in order.** -/
theorem dropRepeats_pairwise {paths : List String} (h : paths.Pairwise fun a b => le a b = true) :
    (dropRepeats paths).Pairwise Before := by
  induction paths with
  | nil => exact .nil
  | cons a paths ih =>
    cases paths with
    | nil => exact List.pairwise_singleton _ _
    | cons b rest =>
      obtain ⟨hfirst, hrest⟩ := List.pairwise_cons.mp h
      have hstrict := ih hrest
      rw [dropRepeats_eq_cons] at hstrict
      obtain ⟨hb, htail⟩ := List.pairwise_cons.mp hstrict
      rw [dropRepeats_cons_cons]
      split
      · next hsame => exact List.pairwise_cons.mpr ⟨fun c hc => (hb c hc).of_same hsame, htail⟩
      · next hdiffers =>
        have hab : Before a b := (le_iff.mp (hfirst b List.mem_cons_self)).resolve_left hdiffers
        rw [dropRepeats_eq_cons]
        refine List.pairwise_cons.mpr ⟨fun c hc => ?_, hstrict⟩
        rcases List.mem_cons.mp hc with rfl | hc
        · exact hab
        · exact hab.trans (hb c hc)

theorem same_self (path : String) : same path path = true :=
  same_iff.mpr rfl

/-- **Without repetitions, the first path of those with the same components is there.** -/
theorem mem_dropRepeats {paths : List String} (h : paths.Pairwise fun a b => le a b = true)
    {path : String} : path ∈ dropRepeats paths ↔ paths.find? (same path) = some path := by
  induction paths with
  | nil => simp [dropRepeats]
  | cons a paths ih =>
    have hhead : same path a = true → ((a :: paths).find? (same path) = some path ↔ path = a) := by
      intro hsame
      rw [List.find?_cons_of_pos hsame, Option.some.injEq, eq_comm]
    have hstrict := dropRepeats_pairwise h
    rw [dropRepeats_eq_cons] at hstrict ⊢
    rw [List.mem_cons]
    have hfirst := (List.pairwise_cons.mp hstrict).1
    by_cases hsame : same path a = true
    · -- the paths behind the first one have other components
      rw [hhead hsame]
      refine ⟨fun hmem => hmem.resolve_right fun hlater => ?_, .inl⟩
      have := (hfirst path hlater).not_same
      rw [same_iff.mpr (same_iff.mp hsame).symm] at this
      cases this
    · have hne : path ≠ a := by
        rintro rfl
        exact hsame (same_self path)
      rw [List.find?_cons_of_neg hsame, ← ih (List.pairwise_cons.mp h).2, or_iff_right hne]
      cases paths with
      | nil => simp [dropRepeats]
      | cons b rest =>
        rw [dropRepeats_cons_cons, List.tail_cons]
        split
        · next hab =>
          have hneb : path ≠ b := by
            rintro rfl
            exact hsame (same_iff.mpr (same_iff.mp hab).symm)
          rw [dropRepeats_eq_cons b rest, List.tail_cons, List.mem_cons, or_iff_right hneb]
        · rfl

/-- Sorting leaves the paths with given components as they are. -/
theorem find?_mergeSort (paths : List String) (path : String) :
    (paths.mergeSort le).find? (same path) = paths.find? (same path) := by
  have hclass : (paths.filter (same path)).Pairwise fun a b => le a b = true := by
    refine List.pairwise_of_forall_mem_list fun a ha b hb => le_iff.mpr (.inl ?_)
    have ha := same_iff.mp (List.mem_filter.mp ha).2
    have hb := same_iff.mp (List.mem_filter.mp hb).2
    exact same_iff.mpr (ha.symm.trans hb)
  have hstable : (paths.filter (same path)).Sublist ((paths.mergeSort le).filter (same path)) := by
    have := (List.sublist_mergeSort le_trans le_total hclass List.filter_sublist).filter (same path)
    rwa [List.filter_filter, List.filter_congr fun _ _ => Bool.and_self _] at this
  have hlength := ((List.mergeSort_perm paths le).filter (same path)).length_eq
  rw [← List.head?_filter, ← List.head?_filter, hstable.eq_of_length hlength.symm]

theorem sorted_pairwise (paths : List String) : (sorted paths).Pairwise Before :=
  dropRepeats_pairwise (List.pairwise_mergeSort le_trans le_total paths)

/-- **Of the paths with the same components, the first one is there when paths are put in order.** -/
theorem mem_sorted {paths : List String} {path : String} :
    path ∈ sorted paths ↔ paths.find? (same path) = some path := by
  rw [sorted, mem_dropRepeats (List.pairwise_mergeSort le_trans le_total paths), find?_mergeSort]

/-- Paths that are put in order all stay if they are told apart by their components. -/
theorem mem_sorted_of_injOn {paths : List String}
    (h : ∀ a ∈ paths, ∀ b ∈ paths, components a = components b → a = b) {path : String} :
    path ∈ sorted paths ↔ path ∈ paths := by
  rw [mem_sorted]
  refine ⟨List.mem_of_find?_eq_some, fun hmem => ?_⟩
  cases hfind : paths.find? (same path) with
  | none => exact absurd (same_self path) (List.find?_eq_none.mp hfind path hmem)
  | some first =>
    have hsame := same_iff.mp (List.find?_some hfind)
    rw [h path hmem first (List.mem_of_find?_eq_some hfind) hsame]

/-- Lists that are strictly in order are equal if they have the same members. -/
theorem eq_of_mem_iff {as bs : List String} (ha : as.Pairwise Before) (hb : bs.Pairwise Before)
    (h : ∀ path, path ∈ as ↔ path ∈ bs) : as = bs := by
  have : Std.Irrefl Before := ⟨fun path hpath => by simpa [same_self] using hpath.not_same⟩
  have : Std.Antisymm Before := ⟨fun a b hab hba => absurd (hab.trans hba) (irrefl_of Before a)⟩
  exact ha.eq_of_mem_iff hb h

end TreeLint.Path
