import TreeLint.Discovery
import TreeLint.Proofs.FileSystem
import TreeLint.Proofs.Path.Order

/-!
# What a search finds

A search for suffixes without slashes finds, below a directory, the files whose names end in one of them
(`Discovery.Wanted`), under the path of the directory with the names that lead on from there. **The law**
(`Discovery.search_exact`): it finds all of these that are not left out, in the order of their paths, and no
file twice; which suffixes and patterns there are counts, and not how they are listed.

The path of a file may be too long to be looked up, even where the path of its directory is not. Such a file
is passed over, so that the law holds up to the size of the path (`Discovery.search_misses_deep_file`).
-/

namespace TreeLint.Discovery

open FileSystem (IsName maxPathSize)

variable {fs : FileSystem} {directory : String} {place names : List String}

/-! ## Paths below a directory -/

/-- The parts that the paths found in a directory start with. -/
def startParts (directory : String) : List String :=
  (if Path.isAbsolute directory then [""] else []) ++ (Path.parts directory).filter (· ≠ "")

theorem startParts_ne_nil (h : directory ≠ "") : startParts directory ≠ [] := by
  unfold startParts
  cases habsolute : Path.isAbsolute directory with
  | true => exact List.cons_ne_nil _ _
  | false => exact Path.filter_parts_ne_nil h habsolute

theorem mem_of_mem_startParts {part : String} (h : part ∈ startParts directory) {c : Char}
    (hc : c ∈ part.toList) : c ∈ directory.toList ∧ c ≠ '/' := by
  rcases List.mem_append.mp h with h | h
  · split at h
    · rw [List.mem_singleton.mp h] at hc
      cases hc
    · cases h
  · exact Path.mem_of_mem_parts (List.mem_of_mem_filter h) hc

theorem slash_notMem (hnames : ∀ name ∈ names, IsName name) {part : String}
    (h : part ∈ startParts directory ++ names) : '/' ∉ part.toList := by
  rcases List.mem_append.mp h with h | h
  · exact fun hslash => (mem_of_mem_startParts h hslash).2 rfl
  · exact (hnames part h).slash_notMem

theorem startOf_eq (h : (Path.parts directory).filter (· ≠ "") ≠ []) :
    startOf directory = "/".intercalate (startParts directory) := by
  unfold startOf startParts
  split
  · rw [List.singleton_append, String.intercalate_cons_of_ne_nil h, String.empty_append]
  · rw [List.nil_append]

/-- **The path of something below a directory** has the parts of the directory, and the names. -/
theorem below_startOf (hdirectory : directory ≠ "") (hne : names ≠ [])
    (hnames : ∀ name ∈ names, IsName name) :
    below (startOf directory) names = "/".intercalate (startParts directory ++ names) := by
  have hrelative := Path.isAbsolute_intercalate_eq_false hne
    fun name hname => ⟨(hnames name hname).ordinary.1, (hnames name hname).slash_notMem⟩
  unfold below
  rcases List.eq_nil_or_concat' ((Path.parts directory).filter (· ≠ "")) with hparts | ⟨front, last, hparts⟩
  · -- the root, which is the one directory whose path ends in a slash
    have habsolute : Path.isAbsolute directory = true := by
      by_contra hrelative
      exact Path.filter_parts_ne_nil hdirectory (Bool.eq_false_iff.mpr hrelative) hparts
    have hstart : startOf directory = "/" := by
      simp only [startOf, hparts, habsolute, if_true]
      rfl
    have hparts : startParts directory = [""] := by
      simp only [startParts, hparts, habsolute, if_true, List.append_nil]
    rw [hstart, hparts, List.singleton_append, String.intercalate_cons_of_ne_nil hne]
    unfold Path.join
    rw [hrelative]
    rfl
  · have hlast : last ∈ (Path.parts directory).filter (· ≠ "") := by
      rw [hparts]
      exact List.mem_append_right _ (List.mem_singleton_self last)
    obtain ⟨hmem, hempty⟩ := List.mem_filter.mp hlast
    rw [startOf_eq (List.ne_nil_of_mem hlast)]
    unfold startParts
    rw [hparts, ← List.append_assoc]
    exact Path.join_intercalate (of_decide_eq_true hempty) (Path.notMem_of_mem_parts hmem) hne hrelative

/-- Names that lead from a directory to different things lead to different components. -/
theorem below_injective (hdirectory : directory ≠ "") {others : List String} (hne : names ≠ [])
    (hnames : ∀ name ∈ names, IsName name) (hne' : others ≠ []) (hothers : ∀ name ∈ others, IsName name)
    (h : Path.components (below (startOf directory) names) =
      Path.components (below (startOf directory) others)) : names = others := by
  have hcomponents : ∀ {names : List String}, names ≠ [] → (∀ name ∈ names, IsName name) →
      Path.components (below (startOf directory) names) =
        Path.frontComponents (startParts directory) ++ names.map .name := by
    intro names hne hnames
    rw [below_startOf hdirectory hne hnames]
    exact Path.components_intercalate (startParts_ne_nil hdirectory) hne
      (fun part => slash_notMem hnames) fun name hname => (hnames name hname).ordinary
  rw [hcomponents hne hnames, hcomponents hne' hothers, List.append_cancel_left_eq] at h
  exact List.map_injective_iff.mpr (fun _ _ => Path.Component.name.inj) h

theorem follow_startParts (h : fs.follow [] (Path.parts directory) = .ok (place, .directory)) :
    fs.follow [] (startParts directory) = .ok (place, .directory) := by
  have hfilter := FileSystem.follow_filter h
  unfold startParts
  split
  · rw [List.singleton_append, FileSystem.follow_cons (FileSystem.directory_of_follow_directory hfilter),
      if_pos (.inl rfl)]
    exact hfilter
  · exact hfilter

/-- **A path below a directory leads to a file** exactly if its names lead there from the directory, and it
is not too long. -/
theorem resolve_below_iff (wf : fs.WellFormed) (hdirectory : fs.resolve directory = .ok (place, .directory))
    (hne : names ≠ []) (hnames : ∀ name ∈ names, IsName name) {found : List String} {content : Content} :
    fs.resolve (below (startOf directory) names) = .ok (found, .file content) ↔
      (below (startOf directory) names).utf8ByteSize ≤ maxPathSize ∧ found = place ++ names ∧
        fs.entryAt? (place ++ names) = some (.file content) := by
  obtain ⟨hempty, hnul, -, hfollow⟩ := FileSystem.resolve_eq_ok_iff.mp hdirectory
  have hpath : below (startOf directory) names ≠ "" := by
    rw [below_startOf hempty hne hnames, Path.intercalate_append (startParts_ne_nil hempty) hne]
    intro h
    have := congrArg String.toList h
    simp at this
  have hclean : '\x00' ∉ (below (startOf directory) names).toList := by
    -- it would be in a name, or else in the path of the directory, which was looked up
    rw [below_startOf hempty hne hnames]
    intro hmem
    rcases Path.mem_intercalate hmem with h | ⟨part, hpart, h⟩
    · cases h
    · rcases List.mem_append.mp hpart with hpart | hpart
      · exact hnul (mem_of_mem_startParts hpart h).1
      · exact (hnames part hpart).nul_notMem h
  rw [FileSystem.resolve_eq_ok_iff, and_iff_right hpath, and_iff_right hclean, below_startOf hempty hne hnames,
    Path.parts_intercalate (List.append_ne_nil_of_right_ne_nil _ hne) fun part => slash_notMem hnames,
    FileSystem.follow_append (follow_startParts hfollow), FileSystem.follow_eq_file_iff wf hnames]

/-! ## What is found -/

/-- The last of some names ends in a suffix. -/
def EndsIn (suffix : String) (names : List String) : Prop :=
  ∃ name, names.getLast? = some name ∧ suffix.toList <:+ name.toList

/-- **What a search is for**: names that lead from a place to a file, and the last of them, which is the name
of the file, ends in one of some suffixes. -/
structure Wanted (fs : FileSystem) (suffixes : List String) (place names : List String) : Prop where
  hasFile : fs.HasFile (place ++ names)
  ending : ∃ suffix ∈ suffixes, EndsIn suffix names

theorem EndsIn.ne_nil {suffix : String} (h : EndsIn suffix names) : names ≠ [] := by
  rintro rfl
  obtain ⟨_, hlast, _⟩ := h
  cases hlast

/-- A suffix without slashes leads to everything below a directory whose name ends in it. -/
theorem mem_candidates {start path suffix : String} {descendants : List (List String)}
    (hsuffix : '/' ∉ suffix.toList) :
    path ∈ candidates start descendants suffix ↔
      ∃ names ∈ descendants, EndsIn suffix names ∧ below start names = path := by
  unfold candidates EndsIn
  rw [Path.parts_of_notMem hsuffix]
  simp only [List.getLast?_nil, reduceCtorEq, if_false, List.filter_nil, List.append_nil, List.mem_map,
    List.mem_filter, and_assoc]
  refine exists_congr fun names => and_congr_right fun _ => and_congr_left fun _ => ?_
  cases names.getLast? with
  | none => simp
  | some name => simp

section

variable {suffixes : List String} {excludes : List Glob.Pattern}

theorem mem_flatMap_candidates (hsuffixes : ∀ suffix ∈ suffixes, '/' ∉ suffix.toList) {start path : String}
    {descendants : List (List String)} :
    path ∈ suffixes.flatMap (candidates start descendants) ↔
      ∃ names ∈ descendants, (∃ suffix ∈ suffixes, EndsIn suffix names) ∧ below start names = path := by
  rw [List.mem_flatMap]
  constructor
  · rintro ⟨suffix, hsuffix, hmem⟩
    obtain ⟨names, hnames, hends, heq⟩ := (mem_candidates (hsuffixes suffix hsuffix)).mp hmem
    exact ⟨names, hnames, ⟨suffix, hsuffix, hends⟩, heq⟩
  · rintro ⟨names, hnames, ⟨suffix, hsuffix, hends⟩, heq⟩
    exact ⟨suffix, hsuffix, (mem_candidates (hsuffixes suffix hsuffix)).mpr ⟨names, hnames, hends, heq⟩⟩

/-- What is below a directory is reached by names. -/
theorem isName_of_mem_descendants (wf : fs.WellFormed) (h : names ∈ fs.descendants place) :
    names ≠ [] ∧ ∀ name ∈ names, IsName name := by
  obtain ⟨hne, hthere⟩ := FileSystem.mem_descendants.mp h
  exact ⟨hne, fun name hname => wf.isName_of_mem hthere (List.mem_append_right place hname)⟩

theorem Wanted.mem_descendants (h : Wanted fs suffixes place names) : names ∈ fs.descendants place := by
  obtain ⟨⟨content, hentry⟩, suffix, _, hends⟩ := h
  exact FileSystem.mem_descendants.mpr ⟨hends.ne_nil, by rw [hentry]; nofun⟩

theorem Wanted.mono {more : List String} (hmore : suffixes ⊆ more) (h : Wanted fs suffixes place names) :
    Wanted fs more place names := by
  obtain ⟨suffix, hsuffix, hends⟩ := h.ending
  exact ⟨h.hasFile, suffix, hmore hsuffix, hends⟩

/-- What is wanted is looked up under its path, if that is not too long. -/
theorem Wanted.resolve_below (wf : fs.WellFormed)
    (hdirectory : fs.resolve directory = .ok (place, .directory)) (h : Wanted fs suffixes place names)
    (hsize : (below (startOf directory) names).utf8ByteSize ≤ maxPathSize) :
    ∃ content, fs.resolve (below (startOf directory) names) = .ok (place ++ names, .file content) := by
  obtain ⟨hne, hnames⟩ := isName_of_mem_descendants wf h.mem_descendants
  obtain ⟨content, hentry⟩ := h.hasFile
  exact ⟨content, (resolve_below_iff wf hdirectory hne hnames).mpr ⟨hsize, rfl, hentry⟩⟩

/-- **What is found** is what is wanted, as far as its path is not too long and not left out. -/
theorem mem_search (wf : fs.WellFormed) (hdirectory : fs.resolve directory = .ok (place, .directory))
    (hsuffixes : ∀ suffix ∈ suffixes, '/' ∉ suffix.toList) {path : String} :
    path ∈ search fs suffixes excludes directory ↔
      ∃ names, Wanted fs suffixes place names ∧ path = below (startOf directory) names ∧
        path.utf8ByteSize ≤ maxPathSize ∧ isExcluded excludes path = false := by
  have hempty := (FileSystem.resolve_eq_ok_iff.mp hdirectory).1
  unfold search
  rw [hdirectory]
  dsimp only
  rw [Path.mem_sorted_of_injOn, List.mem_filter, mem_flatMap_candidates hsuffixes, Bool.and_eq_true,
    Bool.not_eq_true', FileSystem.isFile_iff]
  · constructor
    · rintro ⟨⟨names, hmem, hends, rfl⟩, ⟨found, content, hresolve⟩, hkept⟩
      obtain ⟨hne, hnames⟩ := isName_of_mem_descendants wf hmem
      obtain ⟨hsize, _, hentry⟩ := (resolve_below_iff wf hdirectory hne hnames).mp hresolve
      exact ⟨names, ⟨⟨content, hentry⟩, hends⟩, rfl, hsize, hkept⟩
    · rintro ⟨names, hwanted, rfl, hsize, hkept⟩
      exact ⟨⟨names, hwanted.mem_descendants, hwanted.ending, rfl⟩,
        ⟨place ++ names, hwanted.resolve_below wf hdirectory hsize⟩, hkept⟩
  · -- what is found twice is found under one and the same path
    intro a ha b hb hsame
    obtain ⟨names, hmem, _, rfl⟩ := (mem_flatMap_candidates hsuffixes).mp (List.mem_of_mem_filter ha)
    obtain ⟨others, hmem', _, rfl⟩ := (mem_flatMap_candidates hsuffixes).mp (List.mem_of_mem_filter hb)
    obtain ⟨hne, hnames⟩ := isName_of_mem_descendants wf hmem
    obtain ⟨hne', hothers⟩ := isName_of_mem_descendants wf hmem'
    rw [below_injective hempty hne hnames hne' hothers hsame]

/-- What is found is strictly in order. -/
theorem search_pairwise (fs : FileSystem) (suffixes : List String) (excludes : List Glob.Pattern)
    (directory : String) : (search fs suffixes excludes directory).Pairwise Path.Before := by
  unfold search
  split
  · exact Path.sorted_pairwise _
  · exact .nil

/-- **No file is found twice.** -/
theorem resolve_ne_of_before (wf : fs.WellFormed)
    (hdirectory : fs.resolve directory = .ok (place, .directory))
    (hsuffixes : ∀ suffix ∈ suffixes, '/' ∉ suffix.toList) {a b : String}
    (ha : a ∈ search fs suffixes excludes directory) (hb : b ∈ search fs suffixes excludes directory)
    (hbefore : Path.Before a b) : fs.resolve a ≠ fs.resolve b := by
  obtain ⟨names, hnames, rfl, hsize, _⟩ := (mem_search wf hdirectory hsuffixes).mp ha
  obtain ⟨others, hothers, rfl, hsize', _⟩ := (mem_search wf hdirectory hsuffixes).mp hb
  obtain ⟨content, hfirst⟩ := hnames.resolve_below wf hdirectory hsize
  obtain ⟨content', hsecond⟩ := hothers.resolve_below wf hdirectory hsize'
  intro hsame
  rw [hfirst, hsecond, Except.ok.injEq, Prod.mk.injEq, List.append_cancel_left_eq] at hsame
  rw [hsame.1] at hbefore
  have := hbefore.not_same
  rw [Path.same_self] at this
  cases this

/-- More patterns leave out more. -/
theorem isExcluded_mono {more : List Glob.Pattern} (hmore : excludes ⊆ more) {path : String}
    (h : isExcluded more path = false) : isExcluded excludes path = false := by
  unfold isExcluded at *
  rw [List.any_eq_false] at *
  exact fun pattern hpattern => h pattern (hmore hpattern)

/-- More patterns take away what they leave out. -/
theorem search_eq_filter (wf : fs.WellFormed)
    (hdirectory : fs.resolve directory = .ok (place, .directory))
    (hsuffixes : ∀ suffix ∈ suffixes, '/' ∉ suffix.toList) {more : List Glob.Pattern}
    (hmore : excludes ⊆ more) :
    search fs suffixes more directory =
      (search fs suffixes excludes directory).filter fun path => !isExcluded more path := by
  refine Path.eq_of_mem_iff (search_pairwise ..) ((search_pairwise ..).filter _) fun path => ?_
  rw [List.mem_filter, Bool.not_eq_true', mem_search wf hdirectory hsuffixes,
    mem_search wf hdirectory hsuffixes]
  constructor
  · rintro ⟨names, hwanted, hpath, hsize, hkept⟩
    exact ⟨⟨names, hwanted, hpath, hsize, isExcluded_mono hmore hkept⟩, hkept⟩
  · rintro ⟨⟨names, hwanted, hpath, hsize, _⟩, hkept⟩
    exact ⟨names, hwanted, hpath, hsize, hkept⟩

/-- How suffixes and patterns are listed does not count. -/
theorem search_congr (wf : fs.WellFormed) (hdirectory : fs.resolve directory = .ok (place, .directory))
    (hsuffixes : ∀ suffix ∈ suffixes, '/' ∉ suffix.toList) {suffixes' : List String}
    {excludes' : List Glob.Pattern} (hsame : ∀ suffix, suffix ∈ suffixes' ↔ suffix ∈ suffixes)
    (hsame' : ∀ pattern, pattern ∈ excludes' ↔ pattern ∈ excludes) :
    search fs suffixes' excludes' directory = search fs suffixes excludes directory := by
  have hsuffixes' : ∀ suffix ∈ suffixes', '/' ∉ suffix.toList :=
    fun suffix hsuffix => hsuffixes suffix ((hsame suffix).mp hsuffix)
  have hwanted : ∀ names, Wanted fs suffixes' place names ↔ Wanted fs suffixes place names :=
    fun names => ⟨fun h => h.mono fun suffix => (hsame suffix).mp,
      fun h => h.mono fun suffix => (hsame suffix).mpr⟩
  have hkept : ∀ path, isExcluded excludes' path = false ↔ isExcluded excludes path = false :=
    fun path => ⟨isExcluded_mono fun pattern => (hsame' pattern).mpr,
      isExcluded_mono fun pattern => (hsame' pattern).mp⟩
  refine Path.eq_of_mem_iff (search_pairwise ..) (search_pairwise ..) fun path => ?_
  rw [mem_search wf hdirectory hsuffixes', mem_search wf hdirectory hsuffixes]
  simp only [hwanted, hkept]

/-- **A search is exact**: it finds, strictly in order and no file twice, the files below a directory whose
names end in one of the suffixes, that are not left out and whose path is not too long to be looked up. The
order and the repetitions of suffixes and patterns do not count, and more patterns only leave out more. -/
theorem search_exact (wf : fs.WellFormed) (hdirectory : fs.resolve directory = .ok (place, .directory))
    (hsuffixes : ∀ suffix ∈ suffixes, '/' ∉ suffix.toList) (excludes : List Glob.Pattern) :
    (search fs suffixes excludes directory).Pairwise
      (fun a b => Path.Before a b ∧ fs.resolve a ≠ fs.resolve b) ∧
    (∀ path, path ∈ search fs suffixes excludes directory ↔
      ∃ names, Wanted fs suffixes place names ∧ path = below (startOf directory) names ∧
        path.utf8ByteSize ≤ maxPathSize ∧ isExcluded excludes path = false) ∧
    (∀ suffixes' excludes', (∀ suffix, suffix ∈ suffixes' ↔ suffix ∈ suffixes) →
      (∀ pattern, pattern ∈ excludes' ↔ pattern ∈ excludes) →
      search fs suffixes' excludes' directory = search fs suffixes excludes directory) ∧
    ∀ more, excludes ⊆ more →
      (search fs suffixes more directory).Sublist (search fs suffixes excludes directory) := by
  refine ⟨?_, fun path => mem_search wf hdirectory hsuffixes,
    fun suffixes' excludes' => search_congr wf hdirectory hsuffixes, fun more hmore => ?_⟩
  · refine (search_pairwise fs suffixes excludes directory).imp_of_mem fun {a b} ha hb hbefore => ?_
    exact ⟨hbefore, resolve_ne_of_before wf hdirectory hsuffixes ha hb hbefore⟩
  · rw [search_eq_filter wf hdirectory hsuffixes hmore]
    exact List.filter_sublist

end

/-- Two dumps in different directories, and a directory that is called like a dump. -/
def nestedFiles : FileSystem where
  entries := [
    (["w", "a.json"], .file (.text "")),
    (["w", "a", "b.json"], .file (.text "")),
    (["w", "c.json"], .directory)]

theorem nestedFiles_wellFormed : nestedFiles.WellFormed :=
  .of_entries (by decide) (by decide)

theorem nestedFiles_searched :
    "/w/a/b.json" ∈ search nestedFiles [".json", "b.json"] [] "/w" ∧
      search nestedFiles ["b.json", ".json", "b.json"] [] "/w" =
        search nestedFiles [".json", "b.json"] [] "/w" := by
  have hdirectory : nestedFiles.resolve "/w" = .ok (["w"], .directory) := by decide
  have hsuffixes : ∀ suffix ∈ [".json", "b.json"], '/' ∉ suffix.toList := by decide
  obtain ⟨_, hmem, hsame, _⟩ := search_exact nestedFiles_wellFormed hdirectory hsuffixes []
  refine ⟨(hmem _).mpr ⟨["a", "b.json"], ?_, by decide, by decide, rfl⟩,
    hsame _ _ (by simp [or_comm]) fun _ => Iff.rfl⟩
  exact ⟨⟨.text "", by decide⟩, ".json", by decide, "b.json", rfl, by decide⟩

/-! ## A file that is passed over -/

/-- A file system with one file. -/
def loneFile (names : List String) : FileSystem where
  entries := [(names, .file (.text ""))]

theorem loneFile_wellFormed (hnames : ∀ name ∈ names, IsName name) : (loneFile names).WellFormed := by
  refine .of_entries ?_ ?_
  · intro entry hentry
    rw [List.mem_singleton.mp hentry]
    exact hnames
  · intro entry hentry other hother _ hdiffers
    rw [List.mem_singleton.mp hentry, List.mem_singleton.mp hother] at hdiffers
    exact absurd rfl hdiffers

theorem resolve_root_loneFile (hne : names ≠ []) : (loneFile names).resolve "/" = .ok ([], .directory) := by
  have hroot : (loneFile names).entryAt? [] = some .directory := by
    obtain ⟨first, rest, rfl⟩ := List.exists_cons_of_ne_nil hne
    rfl
  refine FileSystem.resolve_eq_ok_iff.mpr ⟨by decide, by decide, by decide, ?_⟩
  rw [show Path.parts "/" = ["", ""] by decide]
  simp [FileSystem.follow, hroot]

/-- Names of a file that is deep down, though the path of its directory is not too long. -/
@[irreducible] def deepNames : List String :=
  List.replicate 2048 "x"

theorem deepNames_ne_nil : deepNames ≠ [] := by
  rw [deepNames, ne_eq, List.replicate_eq_nil_iff]
  decide

theorem isName_of_mem_deepNames {name : String} (h : name ∈ deepNames) : IsName name := by
  rw [deepNames] at h
  rw [List.eq_of_mem_replicate h]
  decide

theorem utf8ByteSize_below_deepNames : (below (startOf "/") deepNames).utf8ByteSize = 4096 := by
  have hstart : ((startParts "/").map fun name => name.utf8ByteSize + 1).sum = 1 := by decide
  have hnames : (deepNames.map fun name => name.utf8ByteSize + 1).sum = 4096 := by
    rw [deepNames, List.map_replicate, List.sum_replicate_nat]
    rfl
  have hsize := Path.utf8ByteSize_intercalate
    (List.append_ne_nil_of_right_ne_nil (startParts "/") deepNames_ne_nil)
  rw [List.map_append, List.sum_append, hstart, hnames] at hsize
  rw [below_startOf (by decide) deepNames_ne_nil fun name => isName_of_mem_deepNames]
  omega

/-- **A file whose path is too long is passed over**, though it is wanted and nothing leaves it out. -/
theorem search_misses_deep_file :
    (loneFile deepNames).WellFormed ∧ (loneFile deepNames).resolve "/" = .ok ([], .directory) ∧
      Wanted (loneFile deepNames) ["x"] [] deepNames ∧
      isExcluded [] (below (startOf "/") deepNames) = false ∧
      below (startOf "/") deepNames ∉ search (loneFile deepNames) ["x"] [] "/" := by
  have wf : (loneFile deepNames).WellFormed := loneFile_wellFormed fun name => isName_of_mem_deepNames
  have hroot := resolve_root_loneFile deepNames_ne_nil
  refine ⟨wf, hroot, ⟨⟨.text "", ?_⟩, "x", List.mem_singleton_self _, "x", ?_, List.suffix_refl _⟩, rfl, ?_⟩
  · rw [List.nil_append, FileSystem.entryAt?, loneFile, List.lookup_cons_self]
  · rw [deepNames]
    exact List.getLast?_replicate
  · intro h
    obtain ⟨_, _, _, hsize, _⟩ := (mem_search wf hroot (by decide)).mp h
    rw [utf8ByteSize_below_deepNames] at hsize
    exact absurd hsize (by decide)

end TreeLint.Discovery
