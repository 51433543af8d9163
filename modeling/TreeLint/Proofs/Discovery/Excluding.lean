import TreeLint.Analyzer
import TreeLint.Proofs.Glob.Matching
import TreeLint.Proofs.Path.Order
import TreeLint.Proofs.Traversal

/-!
# What is left out

A text that is given to leave files out is read in two ways (`Discovery.Covers`): as a pattern that matches
all of a path, and as a text that the path holds, once the double stars are gone from it. **The law**
(`Analyzer.excludes_exact`): a path is left out exactly if one of the texts covers it in one of the two ways,
and no other file is lost to an analysis.

The second way is not only a short cut for the first: a text may be held by paths that it does not match
(`Analyzer.testless_loses_tests`).
-/

namespace TreeLint

namespace Discovery

/-! ## Texts and the paths that they cover -/

theorem occursIn_iff {part text : List Char} : occursIn part text = true ↔ part <:+: text := by
  induction text with
  | nil => simp [occursIn]
  | cons c rest ih => rw [occursIn, Bool.or_eq_true, ih, List.isPrefixOf_iff_prefix, List.infix_cons_iff]

/-- **A text covers a path**: the pattern that it spells matches the whole path, or something is left of the
text without its double stars and is there somewhere in the path. -/
def Covers (text path : String) : Prop :=
  (∃ pattern, Glob.Pattern.compile text = .ok pattern ∧ Glob.Matches pattern.tokens path.toList) ∨
    withoutDoubleStars text.toList ≠ [] ∧ withoutDoubleStars text.toList <:+: path.toList

theorem text_of_compile {text : String} {pattern : Glob.Pattern}
    (h : Glob.Pattern.compile text = .ok pattern) : pattern.text = text := by
  unfold Glob.Pattern.compile at h
  split at h <;> cases h
  rfl

theorem covers_iff {text path : String} {pattern : Glob.Pattern}
    (h : Glob.Pattern.compile text = .ok pattern) : covers path pattern = true ↔ Covers text path := by
  have hmatches : (∃ other, Glob.Pattern.compile text = .ok other ∧ Glob.Matches other.tokens path.toList) ↔
      Glob.Matches pattern.tokens path.toList := by
    simp [h]
  unfold covers Covers
  rw [hmatches, Bool.or_eq_true, Glob.Pattern.isMatch_iff h, text_of_compile h]
  simp [occursIn_iff]

/-- **A path is left out exactly if a text covers it.** -/
theorem isExcluded_iff {texts : List String} {excludes : List Glob.Pattern}
    (h : texts.mapM Glob.Pattern.compile = .ok excludes) {path : String} :
    isExcluded excludes path = true ↔ ∃ text ∈ texts, Covers text path := by
  unfold isExcluded
  rw [List.any_eq_true, exists_mem_mapM_iff h]
  refine exists_congr fun text => and_congr_right fun hmem => ?_
  obtain ⟨pattern, hpattern⟩ := (exists_mapM_iff texts).mp ⟨excludes, h⟩ text hmem
  simp [hpattern, covers_iff hpattern]

/-! ## What is found all the same -/

/-- The first of some items stays the first if it stays at all. -/
theorem find?_filter_of_find? {α : Type u} {p q : α → Bool} {items : List α} {item : α}
    (h : items.find? q = some item) (hp : p item = true) : (items.filter p).find? q = some item := by
  obtain ⟨hq, earlier, later, rfl, hearlier⟩ := List.find?_eq_some_iff_append.mp h
  rw [List.filter_append, List.filter_cons_of_pos hp, List.find?_eq_some_iff_append]
  exact ⟨hq, _, _, rfl, fun other hmem => hearlier other (List.mem_of_mem_filter hmem)⟩

section

variable {fs : FileSystem} {suffixes place : List String} {directory path : String}
  {excludes : List Glob.Pattern}

theorem mem_search_iff_find? (hdirectory : fs.resolve directory = .ok (place, .directory)) :
    path ∈ search fs suffixes excludes directory ↔
      ((suffixes.flatMap (candidates (startOf directory) (fs.descendants place))).filter
        fun path => fs.isFile path && !isExcluded excludes path).find? (Path.same path) = some path := by
  unfold search
  rw [hdirectory]
  exact Path.mem_sorted

/-- **What is found when nothing is left out is found still**, if it is not left out itself. -/
theorem mem_search_of_not_isExcluded (h : path ∈ search fs suffixes [] directory)
    (hkept : isExcluded excludes path = false) : path ∈ search fs suffixes excludes directory := by
  have hopen := h
  unfold search at hopen
  split at hopen
  · next place hdirectory =>
    -- of the paths with its components it was the first, and those before it stay others
    rw [mem_search_iff_find? hdirectory] at *
    have hfirst := find?_filter_of_find? (p := fun path => !isExcluded excludes path) h (by rw [hkept]; rfl)
    simpa [List.filter_filter, isExcluded, Bool.and_comm] using hfirst
  · cases hopen

end

end Discovery

namespace Analyzer

variable {analyzer : Analyzer}

theorem mem_files_of_not_isExcluded {fs : FileSystem} {path : String}
    (h : path ∈ ({ analyzer with excludes := [] } : Analyzer).files fs)
    (hkept : Discovery.isExcluded analyzer.excludes path = false) : path ∈ analyzer.files fs := by
  unfold files at *
  cases hpaths : analyzer.paths with
  | nil =>
    simp only [hpaths] at h
    exact Discovery.mem_search_of_not_isExcluded h hkept
  | cons first rest =>
    simp only [hpaths] at h
    obtain ⟨given, hgiven, hmem⟩ := List.mem_flatMap.mp h
    refine List.mem_flatMap.mpr ⟨given, hgiven, ?_⟩
    unfold filesOf at *
    dsimp only at *
    split at hmem
    · next hdirectory =>
      rw [if_pos hdirectory]
      exact Discovery.mem_search_of_not_isExcluded hmem hkept
    · next hfile =>
      rw [if_neg hfile]
      exact hmem

/-- **Texts leave out what they cover, and nothing else.** A path is left out exactly if one of the texts covers
it, and a file that is there to analyze when nothing is left out is still there if none of them covers it. -/
theorem excludes_exact {texts : List String}
    (hexcludes : texts.mapM Glob.Pattern.compile = .ok analyzer.excludes) :
    (∀ path, Discovery.isExcluded analyzer.excludes path = true ↔ ∃ text ∈ texts, Discovery.Covers text path) ∧
    ∀ fs path, path ∈ ({ analyzer with excludes := [] } : Analyzer).files fs →
      (∀ text ∈ texts, ¬ Discovery.Covers text path) → path ∈ analyzer.files fs := by
  refine ⟨fun path => Discovery.isExcluded_iff hexcludes, fun fs path hmem huncovered => ?_⟩
  refine mem_files_of_not_isExcluded hmem (Bool.eq_false_iff.mpr fun hexcluded => ?_)
  obtain ⟨text, htext, hcovers⟩ := (Discovery.isExcluded_iff hexcludes).mp hexcluded
  exact huncovered text htext hcovers

/-- The pattern that `**/test` spells. -/
def testPattern : Glob.Pattern where
  text := "**/test"
  tokens := [.anyDirectories, .char 't', .char 'e', .char 's', .char 't']

/-- An analyzer that leaves out what is called `test`. -/
def testless : Analyzer where
  root := "/w"
  currentDirectory := "/w"
  paths := []
  dispatcher := .empty
  excludes := [testPattern]
  suffixes := [".json"]
  failOnLoadError := false
  cancelled := false

def testedFiles : FileSystem where
  entries := [(["w", "tests", "a.json"], .file (.text "")), (["w", "src", "b.json"], .file (.text ""))]

theorem compile_testPattern : Glob.Pattern.compile "**/test" = .ok testPattern := by
  decide

theorem resolve_testedFiles : testedFiles.resolve "/w" = .ok (["w"], .directory) := by
  decide

theorem testless_keeps_source :
    Discovery.isExcluded testless.excludes "/w/a/test" = true ∧ "/w/src/b.json" ∈ testless.files testedFiles := by
  have hexcludes : ["**/test"].mapM Glob.Pattern.compile = .ok testless.excludes := by decide
  obtain ⟨hexcluded, hkept⟩ := excludes_exact hexcludes
  refine ⟨(hexcluded _).mpr ⟨"**/test", by decide, .inl ⟨testPattern, compile_testPattern, ?_⟩⟩,
    hkept testedFiles _ ?_ ?_⟩
  · exact .behind "/w/a".toList (.one rfl (.one rfl (.one rfl (.one rfl .done))))
  · exact (Discovery.mem_search_iff_find? resolve_testedFiles).mpr (by decide)
  · intro text htext
    rw [List.mem_singleton.mp htext, ← Discovery.covers_iff compile_testPattern]
    decide

/-- **A file may be left out though no pattern matches its path**: one that is below `tests` holds the text
that is left of `**/test`. -/
theorem testless_loses_tests :
    ["**/test"].mapM Glob.Pattern.compile = .ok testless.excludes ∧
      (∀ pattern ∈ testless.excludes, ¬ Glob.Matches pattern.tokens "/w/tests/a.json".toList) ∧
      Discovery.isExcluded testless.excludes "/w/tests/a.json" = true ∧
      "/w/tests/a.json" ∈ ({ testless with excludes := [] } : Analyzer).files testedFiles ∧
      "/w/tests/a.json" ∉ testless.files testedFiles := by
  refine ⟨by decide, ?_, by decide, ?_, ?_⟩
  · intro pattern hpattern
    rw [List.mem_singleton.mp hpattern, ← Glob.Pattern.isMatch_iff compile_testPattern]
    decide
  · exact (Discovery.mem_search_iff_find? resolve_testedFiles).mpr (by decide)
  · exact (Discovery.mem_search_iff_find? resolve_testedFiles).not.mpr (by decide)

end Analyzer

end TreeLint
