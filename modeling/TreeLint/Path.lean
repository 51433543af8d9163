import TreeLint.Text.Fields

/-!
# Paths

A path is a text whose parts are divided by slashes. Paths are taken as they are written: joining
two of them resolves nothing, and `.` and `..` stay where they are. Only where paths are compared do
empty parts and the part `.` not count.
-/

namespace TreeLint.Path

/-- The parts of a path between its slashes, empty ones included. -/
def parts (path : String) : List String :=
  Text.fieldsOf '/' path

/-- Whether a path starts at the root. -/
def isAbsolute (path : String) : Bool :=
  path.toList.head? == some '/'

/-- A path seen from a base. One that starts at the root stays as it is. -/
def join (base path : String) : String :=
  if isAbsolute path then path
  else if base.isEmpty || base.toList.getLast? == some '/' then base ++ path
  else base ++ "/" ++ path

/-- Whether a part says nothing about where a path leads. -/
def isIdle (part : String) : Bool :=
  part == "" || part == "."

/-- The parts without the idle ones at their end. -/
def trimEnd (parts : List String) : List String :=
  (parts.reverse.dropWhile isIdle).reverse

/-- The path of a first part and further ones. -/
def unparts (first : String) (rest : List String) : String :=
  if first = "" ∧ rest = [] then "/" else "/".intercalate (first :: rest)

/-- The path of what holds the thing that a path names, as far as the text tells. The root and the
empty path have none. -/
def parent? (path : String) : Option String :=
  match parts path with
  | [] => none
  | first :: rest =>
    match trimEnd rest with
    | [] => if first = "" then none else some ""
    | rest => some (unparts first (trimEnd rest.dropLast))

/-- The path and what is above it, as far as the text tells, from the inside out. -/
def ancestors (path : String) : List String :=
  let rec up : (fuel : Nat) → String → List String
    | 0, path => [path]
    | fuel + 1, path =>
      match parent? path with
      | some parent => path :: up fuel parent
      | none => [path]
  up path.length path

/-! ## Order -/

/-- A part of a path that counts. -/
inductive Component where
  | root
  /-- The current directory, at the start of a path. -/
  | current
  | up
  | name (text : String)
  deriving DecidableEq, Repr

/-- The place of a component among those of other kinds. -/
def Component.rank : Component → Nat
  | .root => 0
  | .current => 1
  | .up => 2
  | .name _ => 3

/-- Whether a component comes before another: the kind counts first, and then the name. -/
def Component.before : Component → Component → Bool
  | .name a, .name b => a < b
  | a, b => a.rank < b.rank

/-- The component that a part stands for, if it counts behind the start. -/
def component? (part : String) : Option Component :=
  if isIdle part then none
  else if part = ".." then some .up
  else some (.name part)

/-- The components of a path. -/
def components (path : String) : List Component :=
  match parts path with
  | [] => []
  | first :: rest =>
    let start :=
      if isAbsolute path then [Component.root]
      else if first = "." then [Component.current]
      else (component? first).toList
    start ++ rest.filterMap component?

/-- Whether a list of components comes before another or is the same. -/
def notAfter : List Component → List Component → Bool
  | [], _ => true
  | _ :: _, [] => false
  | a :: as, b :: bs => if a = b then notAfter as bs else a.before b

/-- Whether a path comes before another or names the same. -/
def le (a b : String) : Bool :=
  notAfter (components a) (components b)

/-- Whether two paths have the same components. -/
def same (a b : String) : Bool :=
  components a == components b

/-- Of neighbours with the same components, only the first. -/
def dropRepeats : List String → List String
  | [] => []
  | [path] => [path]
  | a :: b :: rest =>
    match dropRepeats (b :: rest) with
    | [] => [a]
    | c :: more => if same a c then a :: more else a :: c :: more

/-- Paths in order, each once. -/
def sorted (paths : List String) : List String :=
  dropRepeats (paths.mergeSort le)

end TreeLint.Path
