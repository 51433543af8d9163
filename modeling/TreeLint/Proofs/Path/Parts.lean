import Mathlib.Algebra.Order.Ring.Nat
import Mathlib.Data.List.Basic
import TreeLint.Path

/-!
# Parts of paths

A path that is put together from parts has these parts (`Path.parts_intercalate`), as long as no slash is
in any of them. Its components are those of the parts in front, and one more for each name that follows
(`Path.components_intercalate`), so that names behind the same parts lead to different components.
-/

namespace TreeLint

/-! ## Fields -/

namespace Text

variable {separator : Char}

theorem fields_cons_separator (text : List Char) :
    fields separator (separator :: text) = [] :: fields separator text := by
  rw [fields]
  cases h : fields separator text with
  | nil => exact absurd h (fields_ne_nil separator text)
  | cons field more => simp

theorem fields_cons_of_ne {c : Char} (hc : c ≠ separator) {text field : List Char}
    {more : List (List Char)} (h : fields separator text = field :: more) :
    fields separator (c :: text) = (c :: field) :: more := by
  rw [fields, h]
  exact if_neg hc

/-- The fields of two texts with a separator between them are those of the first and those of the
second. -/
theorem fields_append (first second : List Char) :
    fields separator (first ++ separator :: second) =
      fields separator first ++ fields separator second := by
  induction first with
  | nil => exact fields_cons_separator second
  | cons c first ih =>
    rw [List.cons_append]
    by_cases hc : c = separator
    · rw [hc, fields_cons_separator, fields_cons_separator, ih, List.cons_append]
    · obtain ⟨field, more, hfirst⟩ := List.exists_cons_of_ne_nil (fields_ne_nil separator first)
      rw [hfirst, List.cons_append] at ih
      rw [fields_cons_of_ne hc ih, fields_cons_of_ne hc hfirst, List.cons_append]

theorem fields_of_notMem {text : List Char} (h : separator ∉ text) : fields separator text = [text] := by
  induction text with
  | nil => rfl
  | cons c text ih =>
    rw [List.mem_cons, not_or] at h
    obtain ⟨hc, htext⟩ := h
    exact fields_cons_of_ne (Ne.symm hc) (ih htext)

/-- The characters of a field are characters of the text, and none is a separator. -/
theorem mem_of_mem_fields {text field : List Char} (h : field ∈ fields separator text) {c : Char}
    (hc : c ∈ field) : c ∈ text ∧ c ≠ separator := by
  induction text generalizing field with
  | nil =>
    rw [List.mem_singleton.mp h] at hc
    cases hc
  | cons d text ih =>
    have hlater : ∀ {other}, other ∈ fields separator text → c ∈ other → c ∈ d :: text ∧ c ≠ separator :=
      fun hother hc => ⟨List.mem_cons_of_mem d (ih hother hc).1, (ih hother hc).2⟩
    by_cases hd : d = separator
    · rw [hd, fields_cons_separator, List.mem_cons] at h
      rcases h with rfl | h
      · cases hc
      · exact hlater h hc
    · obtain ⟨first, more, htext⟩ := List.exists_cons_of_ne_nil (fields_ne_nil separator text)
      rw [fields_cons_of_ne hd htext, List.mem_cons] at h
      rw [htext] at hlater
      rcases h with rfl | h
      · rcases List.mem_cons.mp hc with rfl | hc
        · exact ⟨List.mem_cons_self, hd⟩
        · exact hlater List.mem_cons_self hc
      · exact hlater (List.mem_cons_of_mem _ h) hc

end Text

namespace Path

theorem parts_append (first second : String) :
    parts (first ++ "/" ++ second) = parts first ++ parts second := by
  unfold parts Text.fieldsOf
  rw [String.toList_append, String.toList_append, List.append_assoc, ← List.map_append,
    ← Text.fields_append]
  rfl

theorem parts_of_notMem {part : String} (h : '/' ∉ part.toList) : parts part = [part] := by
  unfold parts Text.fieldsOf
  rw [Text.fields_of_notMem h, List.map_singleton, String.ofList_toList]

theorem mem_of_mem_parts {path part : String} (h : part ∈ parts path) {c : Char}
    (hc : c ∈ part.toList) : c ∈ path.toList ∧ c ≠ '/' := by
  obtain ⟨field, hfield, rfl⟩ := List.mem_map.mp h
  rw [String.toList_ofList] at hc
  exact Text.mem_of_mem_fields hfield hc

theorem notMem_of_mem_parts {path part : String} (h : part ∈ parts path) : '/' ∉ part.toList :=
  fun hmem => (mem_of_mem_parts h hmem).2 rfl

/-- A path that does not start at the root has a part that is not empty. -/
theorem filter_parts_ne_nil {path : String} (hne : path ≠ "") (hrelative : isAbsolute path = false) :
    (parts path).filter (· ≠ "") ≠ [] := by
  unfold isAbsolute at hrelative
  unfold parts Text.fieldsOf
  cases hchars : path.toList with
  | nil => exact absurd (String.toList_eq_nil_iff.mp hchars) hne
  | cons c chars =>
    have hc : c ≠ '/' := by simpa [hchars] using hrelative
    obtain ⟨field, more, hfields⟩ := List.exists_cons_of_ne_nil (Text.fields_ne_nil '/' chars)
    rw [Text.fields_cons_of_ne hc hfields, List.map_cons, List.filter_cons_of_pos]
    · exact List.cons_ne_nil _ _
    · simp

/-- **A path that is put together from parts has these parts.** -/
theorem parts_intercalate {names : List String} (hne : names ≠ [])
    (h : ∀ name ∈ names, '/' ∉ name.toList) : parts ("/".intercalate names) = names := by
  induction names with
  | nil => exact absurd rfl hne
  | cons first rest ih =>
    obtain ⟨hfirst, hrest⟩ := List.forall_mem_cons.mp h
    by_cases hnil : rest = []
    · rw [hnil, String.intercalate_singleton, parts_of_notMem hfirst]
    · rw [String.intercalate_cons_of_ne_nil hnil, parts_append, parts_of_notMem hfirst, ih hnil hrest]
      rfl

theorem intercalate_append {first second : List String} (hfirst : first ≠ []) (hsecond : second ≠ []) :
    "/".intercalate (first ++ second) = "/".intercalate first ++ "/" ++ "/".intercalate second := by
  induction first with
  | nil => exact absurd rfl hfirst
  | cons part rest ih =>
    by_cases hnil : rest = []
    · rw [hnil, List.singleton_append, String.intercalate_cons_of_ne_nil hsecond,
        String.intercalate_singleton]
    · rw [List.cons_append, String.intercalate_cons_of_ne_nil (List.append_ne_nil_of_left_ne_nil hnil _),
        ih hnil, String.intercalate_cons_of_ne_nil hnil]
      simp only [String.append_assoc]

/-- A path that is put together from several parts starts at the root exactly if the first one is empty. -/
theorem isAbsolute_intercalate {first : String} {rest : List String} (hfirst : '/' ∉ first.toList)
    (hrest : rest ≠ []) : isAbsolute ("/".intercalate (first :: rest)) = true ↔ first = "" := by
  unfold isAbsolute
  rw [String.intercalate_cons_of_ne_nil hrest, String.toList_append, String.toList_append, beq_iff_eq]
  constructor
  · intro h
    cases hchars : first.toList with
    | nil => exact String.toList_eq_nil_iff.mp hchars
    | cons c chars =>
      rw [hchars] at h hfirst
      cases h
      exact absurd List.mem_cons_self hfirst
  · rintro rfl
    rfl

theorem mem_intercalate {names : List String} {c : Char} (h : c ∈ ("/".intercalate names).toList) :
    c = '/' ∨ ∃ name ∈ names, c ∈ name.toList := by
  induction names with
  | nil => cases h
  | cons first rest ih =>
    by_cases hnil : rest = []
    · rw [hnil, String.intercalate_singleton] at h
      exact .inr ⟨first, List.mem_cons_self, h⟩
    · rw [String.intercalate_cons_of_ne_nil hnil, String.toList_append, String.toList_append,
        List.mem_append, List.mem_append] at h
      rcases h with (h | h) | h
      · exact .inr ⟨first, List.mem_cons_self, h⟩
      · exact .inl (List.mem_singleton.mp h)
      · rcases ih h with h | ⟨name, hname, h⟩
        · exact .inl h
        · exact .inr ⟨name, List.mem_cons_of_mem first hname, h⟩

/-- The size of a path that is put together from parts: each part is followed by a slash, but the last. -/
theorem utf8ByteSize_intercalate {names : List String} (hne : names ≠ []) :
    ("/".intercalate names).utf8ByteSize + 1 = (names.map fun name => name.utf8ByteSize + 1).sum := by
  induction names with
  | nil => exact absurd rfl hne
  | cons first rest ih =>
    rw [List.map_cons, List.sum_cons]
    by_cases hnil : rest = []
    · rw [hnil, String.intercalate_singleton]
      rfl
    · rw [String.intercalate_cons_of_ne_nil hnil, String.utf8ByteSize_append, String.utf8ByteSize_append,
        Nat.add_assoc, ih hnil]
      rfl

/-- Names do not lead from the root if the first one is not empty. -/
theorem isAbsolute_intercalate_eq_false {names : List String} (hne : names ≠ [])
    (h : ∀ name ∈ names, name ≠ "" ∧ '/' ∉ name.toList) : isAbsolute ("/".intercalate names) = false := by
  obtain ⟨first, rest, rfl⟩ := List.exists_cons_of_ne_nil hne
  obtain ⟨hempty, hslash⟩ := h first List.mem_cons_self
  by_cases hnil : rest = []
  · rw [hnil, String.intercalate_singleton]
    unfold isAbsolute
    cases hchars : first.toList with
    | nil => exact absurd (String.toList_eq_nil_iff.mp hchars) hempty
    | cons c chars =>
      rw [hchars, List.mem_cons, not_or] at hslash
      simpa using Ne.symm hslash.1
  · exact Bool.eq_false_iff.mpr fun habsolute => hempty ((isAbsolute_intercalate hslash hnil).mp habsolute)

/-- **Joining names to a path** that does not end in a slash. -/
theorem join_intercalate {front names : List String} {last : String} (hempty : last ≠ "")
    (hslash : '/' ∉ last.toList) (hnames : names ≠ [])
    (hrelative : isAbsolute ("/".intercalate names) = false) :
    join ("/".intercalate (front ++ [last])) ("/".intercalate names) =
      "/".intercalate (front ++ [last] ++ names) := by
  have hends : last.toList <:+ ("/".intercalate (front ++ [last])).toList := by
    by_cases hfront : front = []
    · exact ⟨[], by rw [hfront, List.nil_append, List.nil_append, String.intercalate_singleton]⟩
    · rw [intercalate_append hfront (List.cons_ne_nil last []), String.toList_append,
        String.intercalate_singleton]
      exact List.suffix_append _ _
  obtain ⟨before, hends⟩ := hends
  have hchars : last.toList ≠ [] := mt String.toList_eq_nil_iff.mp hempty
  have hbase : ("/".intercalate (front ++ [last])).isEmpty = false := by
    rw [String.isEmpty_eq_false_iff, ne_eq, ← String.toList_eq_nil_iff, ← hends]
    exact List.append_ne_nil_of_right_ne_nil before hchars
  have hopen : ("/".intercalate (front ++ [last])).toList.getLast? ≠ some '/' := by
    rw [← hends, List.getLast?_append_of_ne_nil before hchars]
    exact fun h => hslash (List.mem_of_getLast? h)
  have hfront : front ++ [last] ≠ [] := List.append_ne_nil_of_right_ne_nil front (List.cons_ne_nil _ _)
  unfold join
  rw [hrelative, hbase, beq_eq_false_iff_ne.mpr hopen, intercalate_append hfront hnames]
  rfl

/-! ## Components -/

/-- The components of the parts in front of a path. -/
def frontComponents : List String → List Component
  | [] => []
  | first :: rest =>
    (if first = "" then [.root] else if first = "." then [.current] else (component? first).toList) ++
      rest.filterMap component?

/-- A part that is a name: it is there, and neither the directory itself nor the one above. -/
def Ordinary (part : String) : Prop :=
  part ≠ "" ∧ part ≠ "." ∧ part ≠ ".."

instance (part : String) : Decidable (Ordinary part) :=
  inferInstanceAs (Decidable (_ ∧ _ ∧ _))

theorem component?_of_ordinary {part : String} (h : Ordinary part) : component? part = some (.name part) := by
  obtain ⟨hempty, hcurrent, hup⟩ := h
  unfold component? isIdle
  simp [hempty, hcurrent, hup]

/-- **The components of a path with names at its end** are those of the parts in front, and the names. -/
theorem components_intercalate {front names : List String} (hfront : front ≠ []) (hnames : names ≠ [])
    (hslash : ∀ part ∈ front ++ names, '/' ∉ part.toList) (hordinary : ∀ name ∈ names, Ordinary name) :
    components ("/".intercalate (front ++ names)) = frontComponents front ++ names.map .name := by
  obtain ⟨first, rest, rfl⟩ := List.exists_cons_of_ne_nil hfront
  have hparts := parts_intercalate (List.append_ne_nil_of_left_ne_nil hfront names) hslash
  have habsolute := isAbsolute_intercalate (hslash first List.mem_cons_self)
    (List.append_ne_nil_of_right_ne_nil rest hnames)
  have hcomponents : names.filterMap component? = names.map .name := by
    rw [← List.filterMap_eq_map]
    exact List.filterMap_congr fun name hmem => component?_of_ordinary (hordinary name hmem)
  rw [List.cons_append] at hparts ⊢
  unfold components
  rw [hparts]
  simp only [habsolute, frontComponents, List.filterMap_append, hcomponents, List.append_assoc]

end Path

end TreeLint
