import TreeLint.Config.Locate
import TreeLint.Proofs.FileSystem
import TreeLint.Proofs.Path.Ancestors

/-!
# The nearest configuration file

A configuration file is looked for in what is above the first path to be analyzed, as the text of the path
tells. If the path goes into a directory and back out of it by `..`, then the search goes through that
directory, although it is not above what is analyzed.

**The law** (`LoadedConfig.projectFile?_nearest`): what is found is in a directory that the path passes. It
is the nearest configuration file of what is analyzed (`LoadedConfig.Nearest`) if that directory is the
directory of what is analyzed or above it, and so whenever no directory that the path leaves again holds a
configuration file. If one does, then it may be found instead (`LoadedConfig.detour_found`).

The law rests on how paths are followed. Each part leads to the directory it is looked up in, to the one
above it or to something in it, so that no path gets below a directory without passing it
(`FileSystem.exists_front_of_above`). Where a path is so long that there is no room behind it for the name of
a configuration file, such a file cannot be looked up, and nothing is said about which file is the nearest.
-/

namespace TreeLint

namespace FileSystem

variable {fs : FileSystem}

/-! ## Passing directories -/

/-- A part leads to something in a directory, or to the directory or what is above. -/
theorem prefix_of_next? {place next : List String} {part : String} (h : next? place part = some next) :
    next <+: place ∨ next = place ++ [part] := by
  unfold next? at h
  split_ifs at h <;> cases h
  · exact .inl (List.prefix_refl _)
  · exact .inl (List.dropLast_prefix _)
  · exact .inr rfl

/-- **No path gets below a directory without passing it**: what is above the end of a path is above its
start, or is passed on the way. -/
theorem exists_front_of_above {start home place : List String} {parts : List String}
    (h : fs.follow start parts = .ok (home, .directory)) (hplace : place <+: home) :
    place <+: start ∨
      ∃ front, front ≠ [] ∧ front <+: parts ∧ fs.follow start front = .ok (place, .directory) := by
  induction parts generalizing start with
  | nil =>
    obtain ⟨rfl, -⟩ := follow_nil_eq_ok h
    exact .inl hplace
  | cons part parts ih =>
    obtain ⟨hdirectory, next, hnext, hrest⟩ := follow_cons_eq_ok h
    rcases ih hrest with habove | ⟨front, _, hfront, hpasses⟩
    · rcases prefix_of_next? hnext with hup | rfl
      · exact .inl (habove.trans hup)
      · rcases List.prefix_concat_iff.mp habove with rfl | habove
        · refine .inr ⟨[part], List.cons_ne_nil _ _, (List.cons_prefix_cons).mpr ⟨rfl, List.nil_prefix⟩, ?_⟩
          rw [follow_cons_of_next? hdirectory hnext, follow, directory_of_follow_directory hrest]
        · exact .inl habove
    · refine .inr ⟨part :: front, List.cons_ne_nil _ _, (List.cons_prefix_cons).mpr ⟨rfl, hfront⟩, ?_⟩
      rw [follow_cons_of_next? hdirectory hnext, hpasses]

/-- A path without `..` leaves no directory. -/
theorem prefix_of_follow {start : List String} {parts : List String} (hup : ".." ∉ parts)
    {found : List String × Entry} (h : fs.follow start parts = .ok found) : start <+: found.1 := by
  induction parts generalizing start with
  | nil =>
    obtain ⟨rfl, -⟩ := follow_nil_eq_ok h
    exact List.prefix_refl _
  | cons part parts ih =>
    rw [List.mem_cons, not_or] at hup
    obtain ⟨_, next, hnext, hrest⟩ := follow_cons_eq_ok h
    have hstart : start <+: next := by
      unfold next? at hnext
      split_ifs at hnext with hidle hup'
      · cases hnext
        exact List.prefix_refl _
      · exact absurd hup'.symm hup.1
      · cases hnext
        exact List.prefix_append _ _
    exact hstart.trans (ih hup.2 hrest)

/-- A part that leads from a directory to a file leads to a file in the directory. -/
theorem dropLast_of_follow_file (wf : fs.WellFormed) {home place : List String} {last : String}
    {content : Content} (h : fs.follow home [last] = .ok (place, .file content)) : place.dropLast = home := by
  obtain ⟨hdirectory, next, hnext, hfile⟩ := follow_cons_eq_ok h
  obtain ⟨rfl, hentry⟩ := follow_nil_eq_ok hfile
  rcases prefix_of_next? hnext with ⟨rest, rfl⟩ | rfl
  · by_cases hrest : rest = []
    · rw [hrest, List.append_nil] at hdirectory
      rw [hdirectory] at hentry
      cases hentry
    · rw [wf.below_file hentry hrest] at hdirectory
      cases hdirectory
  · exact List.dropLast_concat

/-- A path passes a directory: a beginning of it leads there. -/
def Passes (fs : FileSystem) (path : String) (place : List String) : Prop :=
  ∃ front, front <+: Path.steps path ∧ fs.follow [] front = .ok (place, .directory)

/-- The directory of what is at the end of a path. -/
def directoryOf : List String × Entry → List String
  | (place, .directory) => place
  | (place, .file _) => place.dropLast

/-! ## Files in what is above a path -/

section Join

variable {base name : String}

/-- What is found under a name in a directory. -/
theorem exists_of_resolve_join (wf : fs.WellFormed) (hbase : base ≠ "") (hname : IsName name)
    {found : List String} {content : Content}
    (h : fs.resolve (Path.join base name) = .ok (found, .file content)) :
    ∃ place, fs.follow [] (Path.steps base) = .ok (place, .directory) ∧ found = place ++ [name] ∧
      fs.entryAt? (place ++ [name]) = some (.file content) := by
  obtain ⟨-, -, -, hfollow⟩ := resolve_eq_ok_iff.mp h
  obtain ⟨front, hparts, hfront⟩ := Path.exists_parts_join hbase hname.ordinary.1 hname.slash_notMem
  rw [hparts] at hfollow
  obtain ⟨place, hplace, hfile⟩ := exists_of_follow_append (List.cons_ne_nil name []) hfollow
  have hnames : ∀ other ∈ [name], IsName other := by simpa using hname
  obtain ⟨hfound, hentry⟩ := (follow_eq_file_iff wf hnames).mp hfile
  refine ⟨place, ?_, hfound, hentry⟩
  rw [← hfront]
  exact follow_filter_of_idle (by simp) hplace

/-- A file in a directory is found under its name, if there is room for it. -/
theorem isFile_join (wf : fs.WellFormed) (hbase : base ≠ "") (hname : IsName name)
    (hnul : '\x00' ∉ base.toList) (room : base.utf8ByteSize + 1 + name.utf8ByteSize ≤ maxPathSize)
    {place : List String} (hplace : fs.follow [] (Path.steps base) = .ok (place, .directory))
    (hfile : fs.HasFile (place ++ [name])) : fs.isFile (Path.join base name) = true := by
  obtain ⟨content, hfile⟩ := hfile
  obtain ⟨hempty, hslash⟩ := And.intro hname.ordinary.1 hname.slash_notMem
  obtain ⟨front, hparts, hfront⟩ := Path.exists_parts_join hbase hempty hslash
  obtain ⟨slash, hjoin, hone⟩ := Path.exists_join_eq hempty hslash base
  have hnames : ∀ other ∈ [name], IsName other := by simpa using hname
  refine isFile_iff.mpr ⟨place ++ [name], content, resolve_eq_ok_iff.mpr ⟨?_, ?_, ?_, ?_⟩⟩
  · rw [hjoin]
    exact fun h => hempty (String.append_eq_empty_iff.mp h).2
  · have hplain : '\x00' ∉ slash.toList := by rcases hone with rfl | rfl <;> decide
    rw [hjoin, String.toList_append, String.toList_append, List.mem_append, List.mem_append]
    exact not_or.mpr ⟨not_or.mpr ⟨hnul, hplain⟩, hname.nul_notMem⟩
  · have hsize : slash.utf8ByteSize ≤ 1 := by rcases hone with rfl | rfl <;> decide
    rw [hjoin, String.utf8ByteSize_append, String.utf8ByteSize_append]
    omega
  · rw [← hfront] at hplace
    rw [hparts, follow_append (follow_of_follow_filter hplace)]
    exact (follow_eq_file_iff wf hnames).mpr ⟨rfl, hfile⟩

end Join

end FileSystem

namespace LoadedConfig

open FileSystem

/-- **The nearest configuration file** of what is in a directory: it is in that directory or above it, no
directory in between holds a configuration file, and in its own directory it is the preferred one. -/
structure Nearest (fs : FileSystem) (home holder : List String) (name : String) : Prop where
  hasFile : fs.HasFile (holder ++ [name])
  enclosing : holder <+: home
  nearest : ∀ between, holder <+: between → between <+: home → between ≠ holder →
    ∀ other ∈ projectNames, ¬ fs.HasFile (between ++ [other])
  preferred : name ≠ "flexlint.toml" → ¬ fs.HasFile (holder ++ ["flexlint.toml"])

theorem isName_of_mem_projectNames : ∀ name ∈ projectNames, IsName name := by
  decide

/-- The number of bytes of a slash and the longest name of a configuration file. -/
def nameRoom : Nat :=
  15

theorem size_of_mem_projectNames : ∀ name ∈ projectNames, 1 + name.utf8ByteSize ≤ nameRoom := by
  decide

variable {env : Environment} {start file : String}

/-- **What the search comes to**: the first directory with a configuration file decides, and in it the
preferred name. -/
theorem exists_of_projectFile? (h : projectFile? env start = some file) :
    ∃ before above after name, Path.ancestors start = before ++ above :: after ∧ name ∈ projectNames ∧
      file = Path.join above name ∧ env.files.isFile file = true ∧
      (name ≠ "flexlint.toml" → env.files.isFile (Path.join above "flexlint.toml") = false) ∧
      ∀ nearer ∈ before, ∀ other ∈ projectNames, env.files.isFile (Path.join nearer other) = false := by
  unfold projectFile? candidates at h
  rw [List.find?_flatMap] at h
  obtain ⟨before, above, after, hsplit, hfound, hbefore⟩ := List.findSome?_eq_some_iff.mp h
  have hnearer : ∀ nearer ∈ before, ∀ other ∈ projectNames,
      env.files.isFile (Path.join nearer other) = false := by
    intro nearer hmem other hother
    have hnone := List.find?_eq_none.mp (hbefore nearer hmem) _ (List.mem_map_of_mem hother)
    simpa using hnone
  rw [List.find?_map] at hfound
  obtain ⟨name, hname, rfl⟩ := Option.map_eq_some_iff.mp hfound
  have hfile : env.files.isFile (Path.join above name) = true := by simpa using List.find?_some hname
  refine ⟨before, above, after, name, hsplit, List.mem_of_find?_eq_some hname, rfl, hfile,
    fun hother => Bool.eq_false_iff.mpr fun hpreferred => ?_, hnearer⟩
  have hpreferred : (env.files.isFile ∘ Path.join above) "flexlint.toml" = true := hpreferred
  rw [projectNames, List.find?_cons_of_pos hpreferred] at hname
  exact hother (Option.some.inj hname).symm

/-- A configuration file in a directory above a path, as the text tells, is seen by the search. -/
theorem isFile_of_mem_ancestors (wf : env.files.WellFormed) (habsolute : Path.isAbsolute start = true)
    (hnul : '\x00' ∉ start.toList) (room : start.utf8ByteSize + nameRoom ≤ maxPathSize)
    {above : String} (habove : above ∈ Path.ancestors start) {name : String} (hname : name ∈ projectNames)
    {place : List String} (hplace : env.files.follow [] (Path.steps above) = .ok (place, .directory))
    (hfile : env.files.HasFile (place ++ [name])) : env.files.isFile (Path.join above name) = true := by
  have hbase := Path.ne_empty_of_mem_ancestors habsolute habove
  obtain ⟨-, tail, rfl⟩ := Path.exists_append_of_mem_ancestors habsolute habove
  have hsize := size_of_mem_projectNames name hname
  rw [String.utf8ByteSize_append] at room
  rw [String.toList_append, List.mem_append, not_or] at hnul
  exact isFile_join wf hbase (isName_of_mem_projectNames name hname) hnul.1 (by omega) hplace hfile

/-- **A search from a path that leads to a directory** finds a file in a directory on the way there. If
that directory is above the end of the way, and there is room for names, then the file is the nearest
one. -/
theorem exists_holder_of_projectFile? (wf : env.files.WellFormed) (habsolute : Path.isAbsolute start = true)
    (hnul : '\x00' ∉ start.toList) {home : List String}
    (hhome : env.files.follow [] (Path.steps start) = .ok (home, .directory))
    (picked : projectFile? env start = some file) :
    ∃ holder name, name ∈ projectNames ∧ env.files.HasFile (holder ++ [name]) ∧
      (∃ content, env.files.resolve file = .ok (holder ++ [name], .file content)) ∧
      (∃ front more, Path.steps start = front ++ more ∧
        env.files.follow [] front = .ok (holder, .directory) ∧
        env.files.follow holder more = .ok (home, .directory)) ∧
      (start.utf8ByteSize + nameRoom ≤ maxPathSize → holder <+: home →
        Nearest env.files home holder name) := by
  obtain ⟨before, above, after, name, hsplit, hname, rfl, hfile, hpreferred, hnearer⟩ :=
    exists_of_projectFile? picked
  obtain ⟨more, hsteps, hlonger⟩ := Path.exists_of_ancestors_eq habsolute hsplit
  have habove : above ∈ Path.ancestors start := by
    rw [hsplit]
    exact List.mem_append_right _ List.mem_cons_self
  have hbefore : ∀ nearer ∈ before, nearer ∈ Path.ancestors start := by
    intro nearer hmem
    rw [hsplit]
    exact List.mem_append_left _ hmem
  obtain ⟨found, content, hresolve⟩ := isFile_iff.mp hfile
  obtain ⟨holder, hholder, rfl, hentry⟩ :=
    exists_of_resolve_join wf (Path.ne_empty_of_mem_ancestors habsolute habove)
      (isName_of_mem_projectNames name hname) hresolve
  have hmore : env.files.follow holder more = .ok (home, .directory) := by
    rw [← follow_append hholder, ← hsteps, hhome]
  refine ⟨holder, name, hname, ⟨content, hentry⟩, ⟨content, hresolve⟩, ⟨_, more, hsteps, hholder, hmore⟩,
    fun room henclosing => ?_⟩
  refine ⟨⟨content, hentry⟩, henclosing, fun between hlower hupper hne other hother hthere => ?_,
    fun hother hthere => ?_⟩
  · -- the directory in between is passed behind the one that holds the file, so it was looked into before
    have hnot : ¬ between <+: holder := fun h => hne (h.eq_of_length_le hlower.length_le)
    obtain ⟨front, hfront, hbegins, hpasses⟩ := (exists_front_of_above hmore hupper).resolve_left hnot
    obtain ⟨nearer, hmem, hnearest⟩ := hlonger front hfront hbegins
    have hplace : env.files.follow [] (Path.steps nearer) = .ok (between, .directory) := by
      rw [hnearest, follow_append hholder, hpasses]
    have hseen := isFile_of_mem_ancestors wf habsolute hnul room (hbefore nearer hmem) hother hplace hthere
    rw [hnearer nearer hmem other hother] at hseen
    cases hseen
  · have hseen := isFile_of_mem_ancestors wf habsolute hnul room habove List.mem_cons_self hholder hthere
    rw [hpreferred hother] at hseen
    cases hseen

/-! ## The law -/

section Start

variable {path : String} (others : List String) {place : List String}

theorem searchStart_of_directory (h : env.files.resolve (env.locate path) = .ok (place, .directory)) :
    searchStart env (path :: others) = env.locate path := by
  simp only [searchStart, isDirectory, h, if_true]

theorem searchStart_of_file {content : Content}
    (h : env.files.resolve (env.locate path) = .ok (place, .file content)) {above : String}
    (habove : Path.parent? (env.locate path) = some above) : searchStart env (path :: others) = above := by
  simp only [searchStart, isDirectory, h, Bool.false_eq_true, if_false, habove, Option.getD_some]

end Start

/-- **Where the search starts**: at a beginning of the path that leads to the directory of what is at its
end. -/
theorem follow_searchStart (wf : env.files.WellFormed)
    (habsolute : Path.isAbsolute env.currentDirectory = true) {path : String} (others : List String)
    {found : List String × Entry} (resolved : env.files.resolve (env.locate path) = .ok found) :
    Path.isAbsolute (searchStart env (path :: others)) = true ∧
      (∃ tail, env.locate path = searchStart env (path :: others) ++ tail) ∧
      Path.steps (searchStart env (path :: others)) <+: Path.steps (env.locate path) ∧
      env.files.follow [] (Path.steps (searchStart env (path :: others))) =
        .ok (directoryOf found, .directory) := by
  obtain ⟨-, -, -, hfollow⟩ := resolve_eq_ok_iff.mp resolved
  have hsteps : env.files.follow [] (Path.steps (env.locate path)) = .ok found :=
    follow_filter_of_idle (by simp) hfollow
  have hlocated : Path.isAbsolute (env.locate path) = true := Path.isAbsolute_join habsolute path
  obtain ⟨place, entry⟩ := found
  cases entry with
  | directory =>
    rw [searchStart_of_directory others resolved]
    exact ⟨hlocated, ⟨"", String.append_empty.symm⟩, List.prefix_refl _, hsteps⟩
  | file content =>
    cases hparent : Path.parent? (env.locate path) with
    | none =>
      -- the root is not a file, since a path was followed from it
      obtain ⟨rest, -, hparts⟩ := Path.exists_parts_eq_cons hlocated
      rw [hparts] at hfollow
      rw [Path.steps_of_parent?_eq_none hlocated hparent, follow, directory_of_follow hfollow] at hsteps
      cases hsteps
    | some above =>
      obtain ⟨habove, ⟨last, hlast⟩, htail⟩ := Path.parent?_eq_some hlocated hparent
      rw [hlast] at hsteps
      obtain ⟨home, hhome, hfile⟩ := exists_of_follow_append (List.cons_ne_nil last []) hsteps
      rw [searchStart_of_file others resolved hparent]
      refine ⟨habove, htail, hlast ▸ List.prefix_append _ _, ?_⟩
      rw [directoryOf, dropLast_of_follow_file wf hfile, hhome]

/-- **The project configuration is the nearest one, unless the path makes a detour.** What the search finds
is in a directory that the path passes. If there is room for names behind the path, then it is the nearest
configuration file of what is analyzed exactly if that directory is the directory of what is analyzed or
above it; this is so if no directory that the path passes and leaves holds a configuration file, and in
particular if there is no `..` in the path. -/
theorem projectFile?_nearest (wf : env.files.WellFormed)
    (habsolute : Path.isAbsolute env.currentDirectory = true) {path : String} (others : List String)
    {found : List String × Entry} (resolved : env.files.resolve (env.locate path) = .ok found)
    (picked : projectFile? env (searchStart env (path :: others)) = some file) :
    fileFor? env none (path :: others) = some file ∧
      ∃ holder name, name ∈ projectNames ∧
        (∃ content, env.files.resolve file = .ok (holder ++ [name], .file content)) ∧
        env.files.Passes (env.locate path) holder ∧
        ((env.locate path).utf8ByteSize + nameRoom ≤ maxPathSize →
          (Nearest env.files (directoryOf found) holder name ↔ holder <+: directoryOf found) ∧
          ((∀ place, env.files.Passes (env.locate path) place → ¬ place <+: directoryOf found →
              ∀ other ∈ projectNames, ¬ env.files.HasFile (place ++ [other])) →
            Nearest env.files (directoryOf found) holder name) ∧
          (".." ∉ Path.parts (env.locate path) →
            Nearest env.files (directoryOf found) holder name)) := by
  obtain ⟨hstart, ⟨tail, htail⟩, hbegins, hhome⟩ := follow_searchStart wf habsolute others resolved
  obtain ⟨-, hnul, -, -⟩ := resolve_eq_ok_iff.mp resolved
  rw [htail, String.toList_append, List.mem_append, not_or] at hnul
  obtain ⟨holder, name, hname, hfile, hresolve, ⟨front, more, hsteps, hfront, hmore⟩, hnearest⟩ :=
    exists_holder_of_projectFile? wf hstart hnul.1 hhome picked
  have hpasses : env.files.Passes (env.locate path) holder :=
    ⟨front, (hsteps ▸ List.prefix_append front more).trans hbegins, hfront⟩
  have hchosen : fileFor? env none (path :: others) = some file := by
    unfold fileFor?
    rw [picked]
  refine ⟨hchosen, holder, name, hname, hresolve, hpasses, fun room => ?_⟩
  rw [htail, String.utf8ByteSize_append] at room
  have hnearest := hnearest (by omega)
  refine ⟨⟨Nearest.enclosing, hnearest⟩, fun hleft => ?_, fun hup => ?_⟩
  · exact hnearest (by_contra fun hnot => hleft holder hpasses hnot name hname hfile)
  · have hparts : more ⊆ Path.parts (env.locate path) := fun part hmem =>
      List.mem_of_mem_filter (hbegins.mem (hsteps ▸ List.mem_append_right front hmem))
    exact hnearest (prefix_of_follow (fun hmem => hup (hparts hmem)) hmore)

/-- A project with both configuration files at its top, and with a dump in a directory of it. -/
def projectEnvironment : Environment where
  files := ⟨[(["w", ".flexlint.toml"], .file (.text "")), (["w", "flexlint.toml"], .file (.text "")),
    (["w", "b", "x.ast.json"], .file (.text "")), (["flexlint.toml"], .file (.text ""))]⟩
  currentDirectory := "/w"
  home := none
  configDirectory := none

theorem projectEnvironment_found :
    projectEnvironment.files.WellFormed ∧
      projectEnvironment.files.resolve (projectEnvironment.locate "b//./x.ast.json") =
        .ok (["w", "b", "x.ast.json"], .file (.text "")) ∧
      fileFor? projectEnvironment none ["b//./x.ast.json"] = some "/w/flexlint.toml" ∧
      Nearest projectEnvironment.files ["w", "b"] ["w"] "flexlint.toml" := by
  have wf : projectEnvironment.files.WellFormed := .of_entries (by decide) (by decide)
  have resolved : projectEnvironment.files.resolve (projectEnvironment.locate "b//./x.ast.json") =
      .ok (["w", "b", "x.ast.json"], .file (.text "")) := by decide
  have picked : projectFile? projectEnvironment (searchStart projectEnvironment ["b//./x.ast.json"]) =
      some "/w/flexlint.toml" := by decide
  have hfile : projectEnvironment.files.resolve "/w/flexlint.toml" =
      .ok (["w"] ++ ["flexlint.toml"], .file (.text "")) := by decide
  obtain ⟨hchosen, holder, name, -, ⟨content, hresolve⟩, -, hnearest⟩ :=
    projectFile?_nearest wf (by decide) [] resolved picked
  rw [hfile, Except.ok.injEq, Prod.mk.injEq] at hresolve
  obtain ⟨rfl, hname⟩ := List.append_inj' hresolve.1 rfl
  cases hname
  obtain ⟨-, -, hnearest⟩ := hnearest (by decide)
  exact ⟨wf, resolved, hchosen, hnearest (by decide)⟩

/-- Two directories side by side, one of which has a configuration file. -/
def detourEnvironment : Environment where
  files := ⟨[(["w", "a", "flexlint.toml"], .file (.text "fail-on = \"blocker\"\n")),
    (["w", "b", "x.ast.json"], .file (.text ""))]⟩
  currentDirectory := "/w"
  home := none
  configDirectory := none

/-- **A detour.** A path that goes through one of the directories to the other finds the configuration file
of the first, which is not above what is analyzed. -/
theorem detour_found :
    detourEnvironment.files.WellFormed ∧ Path.isAbsolute detourEnvironment.currentDirectory = true ∧
      detourEnvironment.files.resolve (detourEnvironment.locate "a/../b") = .ok (["w", "b"], .directory) ∧
      fileFor? detourEnvironment none ["a/../b"] = some "/w/a/flexlint.toml" ∧
      detourEnvironment.files.resolve "/w/a/flexlint.toml" =
        .ok (["w", "a"] ++ ["flexlint.toml"], .file (.text "fail-on = \"blocker\"\n")) ∧
      ¬ ["w", "a"] <+: ["w", "b"] :=
  ⟨.of_entries (by decide) (by decide), by decide, by decide, by decide, by decide, by decide⟩

end LoadedConfig

end TreeLint
