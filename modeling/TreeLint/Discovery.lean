import TreeLint.FileSystem
import TreeLint.Glob

/-!
# Finding dumps

A directory is searched at any depth for files whose names end in one of some suffixes. A suffix may
hold slashes: then its first part is the end of the name of a directory, and the rest leads on from
there. Files that an exclude pattern covers are left out. What is found is in order, each file once.

An exclude pattern covers a path if it matches the whole of it. It also covers a path in which it
occurs as plain text once its double stars are taken out, unless nothing is left of it then.
-/

namespace TreeLint.Discovery

/-! ## Excluding -/

/-- A text without its double stars. -/
def withoutDoubleStars : List Char → List Char
  | '*' :: '*' :: rest => withoutDoubleStars rest
  | c :: rest => c :: withoutDoubleStars rest
  | [] => []

/-- Whether a text occurs in another. -/
def occursIn (part : List Char) : List Char → Bool
  | [] => part.isEmpty
  | c :: rest => part.isPrefixOf (c :: rest) || occursIn part rest

/-- Whether a pattern covers a path. -/
def covers (path : String) (pattern : Glob.Pattern) : Bool :=
  pattern.isMatch path
  || (let plain := withoutDoubleStars pattern.text.toList
      !plain.isEmpty && occursIn plain path.toList)

/-- Whether a path is left out. -/
def isExcluded (excludes : List Glob.Pattern) (path : String) : Bool :=
  excludes.any (covers path)

/-! ## Searching -/

/-- A directory as the start of the paths found in it: without empty parts. -/
def startOf (directory : String) : String :=
  let parts := (Path.parts directory).filter (· ≠ "")
  if Path.isAbsolute directory then "/" ++ "/".intercalate parts else "/".intercalate parts

/-- The path of something below a directory. -/
def below (start : String) (names : List String) : String :=
  Path.join start ("/".intercalate names)

/-- The paths below a directory that a suffix leads to. -/
def candidates (start : String) (descendants : List (List String)) (suffix : String) :
    List String :=
  match Path.parts suffix with
  | [] => []
  | ending :: rest =>
    if rest.getLast? = some "" then []
    else
      (descendants.filter fun names =>
        match names.getLast? with
        | some name => ending.toList.isSuffixOf name.toList
        | none => false).map
        fun names => below start (names ++ rest.filter (· ≠ ""))

/-- The files below a directory that end in one of some suffixes and are not left out. -/
def search (fs : FileSystem) (suffixes : List String) (excludes : List Glob.Pattern)
    (directory : String) : List String :=
  match fs.resolve directory with
  | .ok (place, .directory) =>
    let found := suffixes.flatMap (candidates (startOf directory) (fs.descendants place))
    Path.sorted (found.filter fun path => fs.isFile path && !isExcluded excludes path)
  | _ => []

end TreeLint.Discovery
