import Mathlib.Data.List.DropRight
import TreeLint.Proofs.Path.Parts

/-!
# What is above a path

`Path.ancestors` goes up from a path as its text tells: it takes off the last part that counts, and takes
`..` for such a part. So what is above a path are its beginnings. **The law**
(`Path.exists_of_ancestors_eq`): the parts of an ancestor that count are the first ones of the path, and
between the path and the ancestor stand all beginnings that are longer. That the walk is cut off by the
length of the path does not show.

All this is about paths that start at the root.
-/

namespace TreeLint.Path

/-- The parts of a path that count. -/
def steps (path : String) : List String :=
  (parts path).filter fun part => !isIdle part

variable {path : String}

/-- The parts of a path, put together again. -/
theorem intercalate_parts (path : String) : "/".intercalate (parts path) = path := by
  have hparts : (parts path).map String.toList = Text.fields '/' path.toList := by
    rw [parts, Text.fieldsOf, List.map_map]
    exact (List.map_congr_left fun field _ => String.toList_ofList).trans (List.map_id _)
  rw [← String.toList_inj, String.toList_intercalate, hparts]
  exact Text.intercalate_fields '/' path.toList

/-- A path that starts at the root has an empty part in front of others. -/
theorem exists_parts_eq_cons (habsolute : isAbsolute path = true) :
    ∃ rest, rest ≠ [] ∧ parts path = "" :: rest := by
  unfold isAbsolute at habsolute
  unfold parts Text.fieldsOf
  cases hchars : path.toList with
  | nil => simp [hchars] at habsolute
  | cons c chars =>
    obtain rfl : c = '/' := by simpa [hchars] using habsolute
    refine ⟨(Text.fields '/' chars).map String.ofList, ?_, ?_⟩
    · simpa using Text.fields_ne_nil '/' chars
    · rw [Text.fields_cons_separator]
      rfl

theorem isAbsolute_append (habsolute : isAbsolute path = true) (rest : String) :
    isAbsolute (path ++ rest) = true := by
  unfold isAbsolute at habsolute ⊢
  rw [beq_iff_eq] at habsolute ⊢
  rw [String.toList_append, List.head?_append, habsolute]
  rfl

/-- A path that is seen from the root starts there. -/
theorem isAbsolute_join {base : String} (habsolute : isAbsolute base = true) (path : String) :
    isAbsolute (join base path) = true := by
  unfold join
  split
  · assumption
  · split
    · exact isAbsolute_append habsolute path
    · exact isAbsolute_append (isAbsolute_append habsolute "/") path

/-! ## One step up -/

/-- Idle parts are taken off at the end, and no others. -/
theorem exists_trimEnd_append (names : List String) :
    ∃ idle, names = trimEnd names ++ idle ∧ ∀ part ∈ idle, isIdle part = true :=
  ⟨names.rtakeWhile isIdle, (List.rdropWhile_append_rtakeWhile ..).symm, fun _ => List.mem_rtakeWhile_imp⟩

theorem filter_of_idle {idle : List String} (h : ∀ part ∈ idle, isIdle part = true) :
    idle.filter (fun part => !isIdle part) = [] :=
  List.filter_eq_nil_iff.mpr fun part hmem => by simp [h part hmem]

theorem filter_trimEnd (names : List String) :
    (trimEnd names).filter (fun part => !isIdle part) = names.filter fun part => !isIdle part := by
  obtain ⟨idle, hsplit, hidle⟩ := exists_trimEnd_append names
  conv_rhs => rw [hsplit, List.filter_append, filter_of_idle hidle, List.append_nil]

/-- The path of the first of some parts is the beginning of the path of all. -/
theorem exists_eq_unparts_append (kept : List String) {more : List String} (hmore : more ≠ []) :
    ∃ tail, "/".intercalate ("" :: (kept ++ more)) = unparts "" kept ++ tail := by
  by_cases hkept : kept = []
  · subst hkept
    exact ⟨"/".intercalate more, String.intercalate_cons_of_ne_nil hmore⟩
  · refine ⟨"/" ++ "/".intercalate more, ?_⟩
    rw [unparts, if_neg fun h => hkept h.2, ← List.cons_append,
      intercalate_append (List.cons_ne_nil "" kept) hmore, String.append_assoc]

theorem isAbsolute_unparts (kept : List String) : isAbsolute (unparts "" kept) = true := by
  unfold unparts
  split
  · rfl
  · next hkept =>
    have hkept : kept ≠ [] := fun h => hkept ⟨rfl, h⟩
    exact (isAbsolute_intercalate (by decide) hkept).mpr rfl

theorem steps_unparts {kept : List String} (hslash : ∀ part ∈ kept, '/' ∉ part.toList) :
    steps (unparts "" kept) = kept.filter fun part => !isIdle part := by
  unfold unparts steps
  split
  · next hkept =>
    rw [hkept.2]
    decide
  · rw [parts_intercalate (List.cons_ne_nil "" kept)
      (List.forall_mem_cons.mpr ⟨by decide, hslash⟩)]
    rfl

/-- What is taken off in one step up: the last part that counts, and the idle ones around it. -/
theorem exists_parts_of_parent? (habsolute : isAbsolute path = true) {above : String}
    (h : parent? path = some above) :
    ∃ kept gap last idle, parts path = "" :: (kept ++ (gap ++ last :: idle)) ∧ above = unparts "" kept ∧
      isIdle last = false ∧ (∀ part ∈ gap, isIdle part = true) ∧ ∀ part ∈ idle, isIdle part = true := by
  obtain ⟨rest, -, hparts⟩ := exists_parts_eq_cons habsolute
  unfold parent? at h
  rw [hparts] at h
  dsimp only at h
  split at h
  · cases h
  · next htrim =>
    have hlast : isIdle ((trimEnd rest).getLast htrim) = false :=
      Bool.eq_false_iff.mpr (List.rdropWhile_last_not isIdle rest htrim)
    obtain ⟨idle, hrest, hidle⟩ := exists_trimEnd_append rest
    obtain ⟨gap, hfront, hgap⟩ := exists_trimEnd_append (trimEnd rest).dropLast
    refine ⟨trimEnd (trimEnd rest).dropLast, gap, (trimEnd rest).getLast htrim, idle, ?_,
      (Option.some.inj h).symm, hlast, hgap, hidle⟩
    have htrimmed := List.dropLast_append_getLast htrim
    rw [hparts, ← List.append_assoc, ← hfront, List.append_cons, htrimmed, ← hrest]

/-- **One step up**: what is above a path is a beginning of it, and has one part less that counts. -/
theorem parent?_eq_some (habsolute : isAbsolute path = true) {above : String}
    (h : parent? path = some above) :
    isAbsolute above = true ∧ (∃ last, steps path = steps above ++ [last]) ∧
      ∃ tail, path = above ++ tail := by
  obtain ⟨kept, gap, last, idle, hparts, rfl, hlast, hgap, hidle⟩ := exists_parts_of_parent? habsolute h
  have hslash : ∀ part ∈ kept, '/' ∉ part.toList := fun part hmem =>
    notMem_of_mem_parts (hparts ▸ List.mem_cons_of_mem "" (List.mem_append_left _ hmem))
  refine ⟨isAbsolute_unparts kept, ⟨last, ?_⟩, ?_⟩
  · have hempty : isIdle "" = true := rfl
    rw [steps_unparts hslash, steps, hparts, List.filter_cons_of_neg (by simp [hempty]), List.filter_append,
      List.filter_append, List.filter_cons_of_pos (by simp [hlast]), filter_of_idle hgap,
      filter_of_idle hidle, List.nil_append]
  · obtain ⟨tail, htail⟩ := exists_eq_unparts_append kept
      (List.append_ne_nil_of_right_ne_nil gap (List.cons_ne_nil last idle))
    rw [← hparts, intercalate_parts] at htail
    exact ⟨tail, htail⟩

/-- A path that has nothing above it has no part that counts. -/
theorem steps_of_parent?_eq_none (habsolute : isAbsolute path = true) (h : parent? path = none) :
    steps path = [] := by
  obtain ⟨rest, -, hparts⟩ := exists_parts_eq_cons habsolute
  unfold parent? at h
  rw [hparts] at h
  dsimp only at h
  split at h
  · next htrim =>
    rw [steps, hparts]
    exact (filter_trimEnd rest).symm.trans (by rw [htrim]; rfl)
  · cases h

/-! ## All the way up -/

theorem length_lt_of_parent? (habsolute : isAbsolute path = true) {above : String}
    (h : parent? path = some above) : above.length < path.length := by
  obtain ⟨-, ⟨last, hsteps⟩, tail, htail⟩ := parent?_eq_some habsolute h
  have hne : tail ≠ "" := by
    rintro rfl
    rw [String.append_empty] at htail
    rw [htail] at hsteps
    exact absurd (congrArg List.length hsteps) (by simp)
  have hpos : 0 < tail.length := Nat.pos_of_ne_zero fun h => hne (String.length_eq_zero_iff.mp h)
  rw [htail, String.length_append]
  omega

/-- **Induction from what is above a path to the path.** -/
@[elab_as_elim]
theorem parent_induction {motive : (path : String) → isAbsolute path = true → Prop}
    (top : ∀ path habsolute, parent? path = none → motive path habsolute)
    (step : ∀ path above habsolute habove, parent? path = some above → motive above habove →
      motive path habsolute) (path : String) (habsolute : isAbsolute path = true) : motive path habsolute := by
  cases hparent : parent? path with
  | none => exact top path habsolute hparent
  | some above =>
    have hlt := length_lt_of_parent? habsolute hparent
    have habove := (parent?_eq_some habsolute hparent).1
    exact step path above habsolute habove hparent (parent_induction top step above habove)
termination_by path.length

/-- More than the length of a path is not needed to go all the way up. -/
theorem up_eq_up (habsolute : isAbsolute path = true) : ∀ {fuel more : Nat}, path.length ≤ fuel →
    path.length ≤ more → ancestors.up fuel path = ancestors.up more path := by
  induction path, habsolute using parent_induction with
  | top path habsolute hparent =>
    intro fuel more _ _
    cases fuel <;> cases more <;> simp only [ancestors.up, hparent]
  | step path above habsolute habove hparent ih =>
    intro fuel more hfuel hmore
    have hlt := length_lt_of_parent? habsolute hparent
    cases fuel with
    | zero => omega
    | succ fuel =>
      cases more with
      | zero => omega
      | succ more =>
        simp only [ancestors.up, hparent]
        rw [ih (Nat.le_of_lt_succ (Nat.lt_of_lt_of_le hlt hfuel))
          (Nat.le_of_lt_succ (Nat.lt_of_lt_of_le hlt hmore))]

theorem ancestors_of_parent? (habsolute : isAbsolute path = true) {above : String}
    (h : parent? path = some above) : ancestors path = path :: ancestors above := by
  have hlt := length_lt_of_parent? habsolute h
  have habove := (parent?_eq_some habsolute h).1
  unfold ancestors
  rw [up_eq_up habsolute (Nat.le_refl _) (Nat.le_succ path.length), ancestors.up, h]
  exact congrArg (path :: ·) (up_eq_up habove (Nat.le_of_lt hlt) (Nat.le_refl _))

theorem ancestors_of_parent?_eq_none (h : parent? path = none) : ancestors path = [path] := by
  unfold ancestors
  cases path.length with
  | zero => rfl
  | succ fuel => rw [ancestors.up, h]

/-- What is above a path starts at the root and is a beginning of it. -/
theorem exists_append_of_mem_ancestors (habsolute : isAbsolute path = true) {above : String}
    (h : above ∈ ancestors path) : isAbsolute above = true ∧ ∃ tail, path = above ++ tail := by
  induction path, habsolute using parent_induction with
  | top path habsolute hparent =>
    rw [ancestors_of_parent?_eq_none hparent, List.mem_singleton] at h
    subst h
    exact ⟨habsolute, "", String.append_empty.symm⟩
  | step path next habsolute hnext hparent ih =>
    rw [ancestors_of_parent? habsolute hparent, List.mem_cons] at h
    rcases h with rfl | h
    · exact ⟨habsolute, "", String.append_empty.symm⟩
    · obtain ⟨habove, more, hmore⟩ := ih h
      obtain ⟨-, -, tail, htail⟩ := parent?_eq_some habsolute hparent
      exact ⟨habove, more ++ tail, by rw [htail, hmore, String.append_assoc]⟩

theorem ne_empty_of_mem_ancestors (habsolute : isAbsolute path = true) {above : String}
    (h : above ∈ ancestors path) : above ≠ "" := by
  rintro rfl
  cases (exists_append_of_mem_ancestors habsolute h).1

theorem head?_ancestors (path : String) : (ancestors path).head? = some path := by
  unfold ancestors
  cases path.length with
  | zero => rfl
  | succ fuel =>
    rw [ancestors.up]
    cases parent? path <;> rfl

/-- **What is above a path are its beginnings**: between the path and what is above it stand the longer
ones, all of them. -/
theorem exists_of_ancestors_eq (habsolute : isAbsolute path = true) {before after : List String}
    {above : String} (h : ancestors path = before ++ above :: after) :
    ∃ more, steps path = steps above ++ more ∧ ∀ front, front ≠ [] → front <+: more →
      ∃ nearer ∈ before, steps nearer = steps above ++ front := by
  induction before generalizing path with
  | nil =>
    have hhead := head?_ancestors path
    rw [h] at hhead
    cases hhead
    exact ⟨[], (List.append_nil _).symm, fun front hne hbegins => absurd (List.prefix_nil.mp hbegins) hne⟩
  | cons first before ih =>
    cases hparent : parent? path with
    | none =>
      rw [ancestors_of_parent?_eq_none hparent] at h
      simp at h
    | some next =>
      obtain ⟨hnext, ⟨last, hlast⟩, -⟩ := parent?_eq_some habsolute hparent
      rw [ancestors_of_parent? habsolute hparent] at h
      obtain ⟨rfl, hrest⟩ := List.cons.inj h
      obtain ⟨more, hmore, hnearer⟩ := ih hnext hrest
      have hsteps : steps path = steps above ++ (more ++ [last]) := by
        rw [hlast, hmore, List.append_assoc]
      refine ⟨more ++ [last], hsteps, fun front hne hbegins => ?_⟩
      rcases List.prefix_concat_iff.mp hbegins with rfl | hbegins
      · exact ⟨path, List.mem_cons_self, hsteps⟩
      · obtain ⟨nearer, hmem, hfront⟩ := hnearer front hne hbegins
        exact ⟨nearer, List.mem_cons_of_mem _ hmem, hfront⟩

/-! ## Names in what is above -/

section Join

variable {base name : String}

theorem isAbsolute_eq_false (hname : name ≠ "") (hslash : '/' ∉ name.toList) : isAbsolute name = false := by
  have h := isAbsolute_intercalate_eq_false (List.cons_ne_nil name [])
    (List.forall_mem_cons.mpr ⟨⟨hname, hslash⟩, fun _ hmem => nomatch hmem⟩)
  rwa [String.intercalate_singleton] at h

/-- What is put in front of a name is the path and at most a slash. -/
theorem exists_join_eq (hname : name ≠ "") (hslash : '/' ∉ name.toList) (base : String) :
    ∃ slash, join base name = base ++ slash ++ name ∧ (slash = "" ∨ slash = "/") := by
  unfold join
  rw [isAbsolute_eq_false hname hslash, if_neg Bool.false_ne_true]
  split
  · exact ⟨"", by rw [String.append_empty], .inl rfl⟩
  · exact ⟨"/", rfl, .inr rfl⟩

/-- A name behind a path is one more part. -/
theorem exists_parts_join (hbase : base ≠ "") (hname : name ≠ "") (hslash : '/' ∉ name.toList) :
    ∃ front, parts (join base name) = front ++ [name] ∧
      front.filter (fun part => !isIdle part) = steps base := by
  have hempty : base.isEmpty = false := String.isEmpty_eq_false_iff.mpr hbase
  unfold join
  rw [isAbsolute_eq_false hname hslash, hempty, if_neg Bool.false_ne_true, Bool.false_or]
  split
  · next hends =>
    obtain ⟨stem, hstem⟩ := List.getLast?_eq_some_iff.mp (beq_iff_eq.mp hends)
    have hbase : base = String.ofList stem ++ "/" ++ "" := by
      rw [String.append_empty, ← String.toList_inj, String.toList_append, String.toList_ofList, hstem]
      rfl
    refine ⟨parts (String.ofList stem), ?_, ?_⟩
    · rw [hbase, String.append_empty, parts_append, parts_of_notMem hslash]
    · rw [steps, hbase, parts_append, List.filter_append]
      exact (List.append_nil _).symm
  · exact ⟨parts base, by rw [parts_append, parts_of_notMem hslash], rfl⟩

end Join

end TreeLint.Path
