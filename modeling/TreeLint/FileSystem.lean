import TreeLint.Path

/-!
# File systems

The files and directories that an analysis can see, as a value. A file is there under the names that
lead to it from the root; a directory is there if it is listed or if something is below it. A path
is followed name by name: what is passed through has to be a directory, `..` goes back to the
directory above, and a name that is too long is not looked up.
-/

namespace TreeLint

/-- What a file holds. -/
inductive Content where
  | text (value : String)
  | binary
  deriving DecidableEq, Repr

/-- What may be listed. -/
inductive Entry where
  | file (content : Content)
  | directory
  deriving DecidableEq, Repr

/-- The files and directories that can be seen. -/
structure FileSystem where
  /-- What is listed, each under the names that lead to it from the root. -/
  entries : List (List String × Entry)

/-- Why a file cannot be read. -/
inductive IoError where
  | notFound
  /-- A file stands where a directory should be. -/
  | notDirectory
  | isDirectory
  /-- A name on the way to it, or the path itself, is too long. -/
  | nameTooLong
  /-- The path holds a character that no name can hold. -/
  | nulInPath
  | notText
  deriving DecidableEq, Repr

/-- The wording of an error. -/
def IoError.message : IoError → String
  | .notFound => "No such file or directory (os error 2)"
  | .notDirectory => "Not a directory (os error 20)"
  | .isDirectory => "Is a directory (os error 21)"
  | .nameTooLong => "File name too long (os error 36)"
  | .nulInPath => "file name contained an unexpected NUL byte"
  | .notText => "stream did not contain valid UTF-8"

namespace FileSystem

/-- What is at a place. -/
def entryAt? (fs : FileSystem) (place : List String) : Option Entry :=
  match fs.entries.lookup place with
  | some entry => some entry
  | none =>
    if place = [] ∨ fs.entries.any fun (names, _) => place.isPrefixOf names then some .directory
    else none

/-- The number of bytes that a name can have. -/
def maxNameSize : Nat :=
  255

/-- The number of bytes that a path can have. -/
def maxPathSize : Nat :=
  4095

/-- Follows the parts of a path from a place. -/
def follow (fs : FileSystem) : (place parts : List String) → Except IoError (List String × Entry)
  | place, [] =>
    match fs.entryAt? place with
    | some entry => .ok (place, entry)
    | none => .error .notFound
  | place, part :: parts =>
    match fs.entryAt? place with
    | none => .error .notFound
    | some (.file _) => .error .notDirectory
    | some .directory =>
      if part = "" ∨ part = "." then fs.follow place parts
      else if part = ".." then fs.follow place.dropLast parts
      else if maxNameSize < part.utf8ByteSize then .error .nameTooLong
      else fs.follow (place ++ [part]) parts

/-- Where a path leads, and what is there. -/
def resolve (fs : FileSystem) (path : String) : Except IoError (List String × Entry) :=
  if path.isEmpty then .error .notFound
  else if path.toList.contains '\x00' then .error .nulInPath
  else if maxPathSize < path.utf8ByteSize then .error .nameTooLong
  else fs.follow [] (Path.parts path)

/-- Whether a path leads to a directory. -/
def isDirectory (fs : FileSystem) (path : String) : Bool :=
  match fs.resolve path with
  | .ok (_, .directory) => true
  | _ => false

/-- Whether a path leads to a file. -/
def isFile (fs : FileSystem) (path : String) : Bool :=
  match fs.resolve path with
  | .ok (_, .file _) => true
  | _ => false

/-- The text of a file. -/
def read (fs : FileSystem) (path : String) : Except IoError String :=
  match fs.resolve path with
  | .ok (_, .file (.text value)) => .ok value
  | .ok (_, .file .binary) => .error .notText
  | .ok (_, .directory) => .error .isDirectory
  | .error error => .error error

/-- The names that lead from a place to what is listed below it. -/
def belowPlace (fs : FileSystem) (place : List String) : List (List String) :=
  fs.entries.filterMap fun (names, _) =>
    if place.isPrefixOf names ∧ place.length < names.length then some (names.drop place.length)
    else none

/-- The prefixes of a list that are not empty. -/
def beginnings : List String → List (List String)
  | [] => []
  | name :: names => [name] :: (beginnings names).map (name :: ·)

/-- The names that lead from a place to everything below it. -/
def descendants (fs : FileSystem) (place : List String) : List (List String) :=
  ((fs.belowPlace place).flatMap beginnings).eraseDups

end FileSystem

end TreeLint
