import TreeLint.FileSystem
import TreeLint.Proofs.Path.Parts

/-!
# Places and the paths that lead to them

A file system is a value in which anything may be listed. `FileSystem.WellFormed` says what is listed in
one that there can be: names that something can have (`FileSystem.IsName`), and nothing below a file.

In such a file system everything on the way to something is a directory
(`FileSystem.WellFormed.entryAt?_of_append`), so that names lead from a directory to a file exactly if the
file is there (`FileSystem.follow_eq_file_iff`), and what is found below a directory is what is there
(`FileSystem.mem_descendants`).
-/

namespace TreeLint.FileSystem

/-- **A name that something can have.** -/
structure IsName (name : String) : Prop where
  /-- It names something in the directory that it is looked up in. -/
  ordinary : Path.Ordinary name
  slash_notMem : '/' ∉ name.toList
  nul_notMem : '\x00' ∉ name.toList
  size_le : name.utf8ByteSize ≤ maxNameSize

instance (name : String) : Decidable (IsName name) :=
  decidable_of_iff (Path.Ordinary name ∧ '/' ∉ name.toList ∧ '\x00' ∉ name.toList ∧
      name.utf8ByteSize ≤ maxNameSize)
    ⟨fun ⟨ordinary, slash, nul, size⟩ => ⟨ordinary, slash, nul, size⟩,
      fun ⟨ordinary, slash, nul, size⟩ => ⟨ordinary, slash, nul, size⟩⟩

/-- **A file system that there can be.** -/
structure WellFormed (fs : FileSystem) : Prop where
  isName : ∀ entry ∈ fs.entries, ∀ name ∈ entry.1, IsName name
  /-- Nothing is below a file. -/
  below_file : ∀ {place rest : List String} {content : Content},
    fs.entryAt? place = some (.file content) → rest ≠ [] → fs.entryAt? (place ++ rest) = none

/-- A place has a regular file. -/
def HasFile (fs : FileSystem) (place : List String) : Prop :=
  ∃ content, fs.entryAt? place = some (.file content)

variable {fs : FileSystem}

/-! ## What is at a place -/

theorem mem_of_lookup {entries : List (List String × Entry)} {place : List String} {entry : Entry}
    (h : entries.lookup place = some entry) : (place, entry) ∈ entries := by
  induction entries with
  | nil => cases h
  | cons head rest ih =>
    rw [List.lookup_cons] at h
    split at h
    · next heq =>
      rw [← Option.some.inj h, eq_of_beq heq]
      exact List.mem_cons_self
    · exact List.mem_cons_of_mem _ (ih h)

/-- Something is at a place, other than the root, exactly if something is listed there or below. -/
theorem entryAt?_ne_none_iff {place : List String} (hroot : place ≠ []) :
    fs.entryAt? place ≠ none ↔ ∃ entry ∈ fs.entries, place <+: entry.1 := by
  unfold entryAt?
  cases hlookup : fs.entries.lookup place with
  | some entry =>
    refine ⟨fun _ => ⟨_, mem_of_lookup hlookup, List.prefix_refl place⟩, fun _ => nofun⟩
  | none => simp [hroot]

/-- A file is listed at its place. -/
theorem mem_of_entryAt? {place : List String} {content : Content}
    (h : fs.entryAt? place = some (.file content)) : (place, .file content) ∈ fs.entries := by
  unfold entryAt? at h
  split at h
  · next hlookup =>
    cases h
    exact mem_of_lookup hlookup
  · split at h <;> cases h

/-- Nothing is below a file if nothing is listed there. -/
theorem WellFormed.of_entries (hname : ∀ entry ∈ fs.entries, ∀ name ∈ entry.1, IsName name)
    (hfile : ∀ entry ∈ fs.entries, ∀ other ∈ fs.entries,
      entry.1 <+: other.1 → entry.1 ≠ other.1 → entry.2 = .directory) : fs.WellFormed := by
  refine ⟨hname, fun {place rest content} hentry hrest => ?_⟩
  by_contra hbelow
  obtain ⟨other, hother, hlisted⟩ :=
    (entryAt?_ne_none_iff (List.append_ne_nil_of_right_ne_nil place hrest)).mp hbelow
  have hdiffers : place ≠ other.1 := by
    intro heq
    have := hlisted.length_le
    have := List.length_pos_iff.mpr hrest
    rw [← heq, List.length_append] at *
    omega
  have := hfile _ (mem_of_entryAt? hentry) other hother ((List.prefix_append _ _).trans hlisted) hdiffers
  cases this

/-- **What is passed on the way to something is a directory.** -/
theorem WellFormed.entryAt?_of_append (wf : fs.WellFormed) {place rest : List String}
    (h : fs.entryAt? (place ++ rest) ≠ none) (hrest : rest ≠ []) :
    fs.entryAt? place = some .directory := by
  cases hentry : fs.entryAt? place with
  | some entry =>
    cases entry with
    | directory => rfl
    | file content => exact absurd (wf.below_file hentry hrest) h
  | none =>
    have hroot : place ≠ [] := by
      rintro rfl
      simp only [entryAt?, true_or, if_true] at hentry
      split at hentry <;> cases hentry
    obtain ⟨listed, hmem, hprefix⟩ :=
      (entryAt?_ne_none_iff (List.append_ne_nil_of_right_ne_nil place hrest)).mp h
    have := (entryAt?_ne_none_iff hroot).mpr ⟨listed, hmem, (List.prefix_append place rest).trans hprefix⟩
    exact absurd hentry this

/-- The names that lead to something are names. -/
theorem WellFormed.isName_of_mem (wf : fs.WellFormed) {place : List String} (h : fs.entryAt? place ≠ none)
    {name : String} (hmem : name ∈ place) : IsName name := by
  obtain ⟨entry, hentry, hlisted⟩ := (entryAt?_ne_none_iff (List.ne_nil_of_mem hmem)).mp h
  exact wf.isName entry hentry name (hlisted.mem hmem)

/-! ## What is below a place -/

theorem mem_beginnings {names beginning : List String} :
    beginning ∈ beginnings names ↔ beginning ≠ [] ∧ beginning <+: names := by
  induction names generalizing beginning with
  | nil => simp [beginnings]
  | cons name names ih =>
    rw [beginnings, List.mem_cons, List.mem_map]
    cases beginning with
    | nil => simp
    | cons first rest =>
      rw [List.cons_prefix_cons]
      constructor
      · rintro (h | ⟨other, hother, h⟩)
        · cases h
          exact ⟨List.cons_ne_nil _ _, rfl, List.nil_prefix⟩
        · cases h
          exact ⟨List.cons_ne_nil _ _, rfl, (ih.mp hother).2⟩
      · rintro ⟨_, rfl, hprefix⟩
        cases rest with
        | nil => exact .inl rfl
        | cons next rest => exact .inr ⟨_, ih.mpr ⟨List.cons_ne_nil _ _, hprefix⟩, rfl⟩

/-- **What is found below a place** is everything that is there. -/
theorem mem_descendants {place names : List String} :
    names ∈ fs.descendants place ↔ names ≠ [] ∧ fs.entryAt? (place ++ names) ≠ none := by
  unfold descendants belowPlace
  rw [List.mem_eraseDups, List.mem_flatMap]
  constructor
  · rintro ⟨below, hbelow, hnames⟩
    obtain ⟨hne, hprefix⟩ := mem_beginnings.mp hnames
    obtain ⟨⟨listed, entry⟩, hmem, heq⟩ := List.mem_filterMap.mp hbelow
    obtain ⟨⟨hplace, _⟩, heq⟩ := Option.ite_none_right_eq_some.mp heq
    obtain ⟨rest, rfl⟩ := List.isPrefixOf_iff_prefix.mp hplace
    rw [Option.some.injEq, List.drop_left] at heq
    subst heq
    refine ⟨hne, (entryAt?_ne_none_iff (List.append_ne_nil_of_right_ne_nil place hne)).mpr ?_⟩
    exact ⟨_, hmem, (List.prefix_append_right_inj place).mpr hprefix⟩
  · rintro ⟨hne, hthere⟩
    obtain ⟨⟨listed, entry⟩, hmem, hprefix⟩ :=
      (entryAt?_ne_none_iff (List.append_ne_nil_of_right_ne_nil place hne)).mp hthere
    obtain ⟨rest, rfl⟩ := hprefix
    refine ⟨names ++ rest, List.mem_filterMap.mpr ⟨_, hmem, ?_⟩,
      mem_beginnings.mpr ⟨hne, List.prefix_append names rest⟩⟩
    have hbelow : place.isPrefixOf (place ++ names ++ rest) = true ∧
        place.length < (place ++ names ++ rest).length := by
      have := List.length_pos_iff.mpr hne
      rw [List.append_assoc]
      refine ⟨List.isPrefixOf_iff_prefix.mpr (List.prefix_append _ _), ?_⟩
      simp only [List.length_append]
      omega
    exact (if_pos hbelow).trans (by rw [List.append_assoc, List.drop_left])

/-! ## Following paths -/

theorem follow_nil_eq_ok {start : List String} {found : List String × Entry}
    (h : fs.follow start [] = .ok found) : found.1 = start ∧ fs.entryAt? start = some found.2 := by
  rw [follow] at h
  split at h
  · next hentry =>
    cases h
    exact ⟨rfl, hentry⟩
  · cases h

/-- Parts are followed only from a directory. -/
theorem directory_of_follow {start : List String} {part : String} {parts : List String}
    {found : List String × Entry} (h : fs.follow start (part :: parts) = .ok found) :
    fs.entryAt? start = some .directory := by
  rw [follow] at h
  split at h
  · cases h
  · cases h
  · next hdirectory => exact hdirectory

/-- Parts lead to a directory only from a directory. -/
theorem directory_of_follow_directory {start place parts : List String}
    (h : fs.follow start parts = .ok (place, .directory)) : fs.entryAt? start = some .directory := by
  cases parts with
  | cons part parts => exact directory_of_follow h
  | nil => exact (follow_nil_eq_ok h).2

theorem follow_cons {start : List String} (hdirectory : fs.entryAt? start = some .directory)
    (part : String) (parts : List String) :
    fs.follow start (part :: parts) =
      if part = "" ∨ part = "." then fs.follow start parts
      else if part = ".." then fs.follow start.dropLast parts
      else if maxNameSize < part.utf8ByteSize then .error .nameTooLong
      else fs.follow (start ++ [part]) parts := by
  rw [follow]
  simp only [hdirectory]

/-- Where a part leads from a directory. -/
def next? (place : List String) (part : String) : Option (List String) :=
  if part = "" ∨ part = "." then some place
  else if part = ".." then some place.dropLast
  else if maxNameSize < part.utf8ByteSize then none
  else some (place ++ [part])

theorem next?_of_isIdle {part : String} (h : Path.isIdle part = true) (place : List String) :
    next? place part = some place :=
  if_pos (by simpa [Path.isIdle] using h)

theorem next?_of_isName {name : String} (h : IsName name) (place : List String) :
    next? place name = some (place ++ [name]) := by
  obtain ⟨⟨hempty, hcurrent, hup⟩, _, _, hsize⟩ := h
  rw [next?, if_neg (not_or.mpr ⟨hempty, hcurrent⟩), if_neg hup, if_neg (Nat.not_lt_of_le hsize)]

theorem follow_cons_of_next? {start next : List String} {part : String}
    (hdirectory : fs.entryAt? start = some .directory) (hnext : next? start part = some next)
    (parts : List String) : fs.follow start (part :: parts) = fs.follow next parts := by
  rw [follow_cons hdirectory]
  unfold next? at hnext
  split_ifs at hnext ⊢ <;> cases hnext <;> rfl

/-- **What following one part and then others comes to**, if it leads somewhere. -/
theorem follow_cons_eq_ok {start : List String} {part : String} {parts : List String}
    {found : List String × Entry} (h : fs.follow start (part :: parts) = .ok found) :
    fs.entryAt? start = some .directory ∧
      ∃ next, next? start part = some next ∧ fs.follow next parts = .ok found := by
  have hdirectory := directory_of_follow h
  refine ⟨hdirectory, ?_⟩
  cases hnext : next? start part with
  | some next =>
    rw [follow_cons_of_next? hdirectory hnext] at h
    exact ⟨next, rfl, h⟩
  | none =>
    rw [follow_cons hdirectory] at h
    unfold next? at hnext
    split_ifs at hnext h

/-- **Following some parts and then others.** -/
theorem follow_append {start place : List String} {entry : Entry} {parts : List String}
    (h : fs.follow start parts = .ok (place, entry)) (more : List String) :
    fs.follow start (parts ++ more) = fs.follow place more := by
  induction parts generalizing start with
  | nil =>
    obtain ⟨rfl, -⟩ := follow_nil_eq_ok h
    rfl
  | cons part parts ih =>
    obtain ⟨hdirectory, next, hnext, hrest⟩ := follow_cons_eq_ok h
    rw [List.cons_append, follow_cons_of_next? hdirectory hnext, ih hrest]

/-- Parts that are followed on are passed at a directory. -/
theorem exists_of_follow_append {start : List String} {parts more : List String} (hmore : more ≠ [])
    {found : List String × Entry} (h : fs.follow start (parts ++ more) = .ok found) :
    ∃ place, fs.follow start parts = .ok (place, .directory) ∧ fs.follow place more = .ok found := by
  induction parts generalizing start with
  | nil =>
    obtain ⟨part, rest, rfl⟩ := List.exists_cons_of_ne_nil hmore
    refine ⟨start, ?_, h⟩
    rw [follow, directory_of_follow h]
  | cons part parts ih =>
    obtain ⟨hdirectory, next, hnext, hrest⟩ := follow_cons_eq_ok h
    obtain ⟨place, hplace, hfound⟩ := ih hrest
    exact ⟨place, by rw [follow_cons_of_next? hdirectory hnext, hplace], hfound⟩

/-- Idle parts on the way to something can be left out. -/
theorem follow_filter_of_idle {keep : String → Bool}
    (hkeep : ∀ part, keep part = false → Path.isIdle part = true) {start : List String}
    {found : List String × Entry} {parts : List String} (h : fs.follow start parts = .ok found) :
    fs.follow start (parts.filter keep) = .ok found := by
  induction parts generalizing start with
  | nil => exact h
  | cons part parts ih =>
    obtain ⟨hdirectory, next, hnext, hrest⟩ := follow_cons_eq_ok h
    cases hpart : keep part with
    | true => rw [List.filter_cons_of_pos hpart, follow_cons_of_next? hdirectory hnext, ih hrest]
    | false =>
      rw [next?_of_isIdle (hkeep part hpart)] at hnext
      cases hnext
      rw [List.filter_cons_of_neg (by simp [hpart]), ih hrest]

/-- Empty parts on the way to a directory can be left out. -/
theorem follow_filter {start place : List String} {parts : List String}
    (h : fs.follow start parts = .ok (place, .directory)) :
    fs.follow start (parts.filter (· ≠ "")) = .ok (place, .directory) := by
  refine follow_filter_of_idle (fun part hpart => ?_) h
  obtain rfl : part = "" := by simpa using hpart
  rfl

/-- Idle parts on the way to a directory can be put in. -/
theorem follow_of_follow_filter {start place : List String} {parts : List String}
    (h : fs.follow start (parts.filter fun part => !Path.isIdle part) = .ok (place, .directory)) :
    fs.follow start parts = .ok (place, .directory) := by
  induction parts generalizing start with
  | nil => exact h
  | cons part parts ih =>
    cases hidle : Path.isIdle part with
    | true =>
      rw [List.filter_cons_of_neg (by simp [hidle])] at h
      rw [follow_cons_of_next? (directory_of_follow_directory h) (next?_of_isIdle hidle start), ih h]
    | false =>
      rw [List.filter_cons_of_pos (by simp [hidle])] at h
      obtain ⟨hdirectory, next, hnext, hrest⟩ := follow_cons_eq_ok h
      rw [follow_cons_of_next? hdirectory hnext, ih hrest]

/-- **Names lead to a file exactly if the file is there.** -/
theorem follow_eq_file_iff (wf : fs.WellFormed) {place found names : List String} {content : Content}
    (hnames : ∀ name ∈ names, IsName name) :
    fs.follow place names = .ok (found, .file content) ↔
      found = place ++ names ∧ fs.entryAt? (place ++ names) = some (.file content) := by
  induction names generalizing place with
  | nil =>
    rw [follow, List.append_nil]
    cases fs.entryAt? place with
    | none => simp
    | some entry => simp [eq_comm]
  | cons name names ih =>
    obtain ⟨hname, hnames⟩ := List.forall_mem_cons.mp hnames
    have hstep : fs.entryAt? place = some .directory →
        fs.follow place (name :: names) = fs.follow (place ++ [name]) names := fun hdirectory =>
      follow_cons_of_next? hdirectory (next?_of_isName hname place) names
    have hassoc : place ++ name :: names = place ++ [name] ++ names := by simp
    rw [hassoc, ← ih hnames]
    constructor
    · intro h
      rw [← hstep (directory_of_follow h)]
      exact h
    · intro h
      have hfile := ((ih hnames).mp h).2
      rw [← hassoc] at hfile
      rw [hstep (wf.entryAt?_of_append (by rw [hfile]; nofun) (List.cons_ne_nil name names))]
      exact h

/-! ## Resolving paths -/

theorem resolve_eq_ok_iff {path : String} {found : List String × Entry} :
    fs.resolve path = .ok found ↔
      path ≠ "" ∧ '\x00' ∉ path.toList ∧ path.utf8ByteSize ≤ maxPathSize ∧
        fs.follow [] (Path.parts path) = .ok found := by
  unfold resolve
  by_cases hempty : path = ""
  · simp [hempty]
  · by_cases hnul : '\x00' ∈ path.toList
    · simp [hempty, hnul]
    · by_cases hsize : maxPathSize < path.utf8ByteSize
      · simp [hempty, hnul, hsize, Nat.not_le_of_lt hsize]
      · simp [hempty, hnul, hsize, Nat.le_of_not_lt hsize]

theorem isFile_iff {path : String} :
    fs.isFile path = true ↔ ∃ found content, fs.resolve path = .ok (found, .file content) := by
  unfold isFile
  split
  · next found content hresolve => exact ⟨fun _ => ⟨found, content, hresolve⟩, fun _ => rfl⟩
  · next hother =>
    refine ⟨nofun, fun ⟨found, content, hresolve⟩ => ?_⟩
    exact absurd hresolve (hother found content)

end TreeLint.FileSystem
