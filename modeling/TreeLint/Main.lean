import TreeLint.Cli.Run

/-!
# The program

The outer layer of the command line program. It takes in the files and directories that a run looks
at, carries out the run, prints and writes what the run says, and ends as the run ends.
-/

namespace TreeLint.Main

/-- The names that lead from the root to where a path leads. -/
def placeOf (path : String) : List String :=
  (Path.parts path).foldl (fun place part =>
    if Path.isIdle part then place
    else if part = ".." then place.dropLast
    else place ++ [part]) []

/-- The path of names that start at the root. -/
def pathOf (names : List String) : String :=
  "/" ++ "/".intercalate names

/-- What is at a path. -/
def entryAt? (path : String) : IO (Option Entry) := do
  let path := (← IO.currentDir) / path
  if ← path.isDir then return some .directory
  unless ← path.pathExists do return none
  let bytes ← IO.FS.readBinFile path
  match String.fromUTF8? bytes with
  | some value => return some (.file (.text value))
  | none => return some (.file .binary)

/-- What is at a path and at what it passes through. -/
def along (path : String) : IO (List (List String × Entry)) := do
  let mut found := []
  for names in FileSystem.beginnings ((Path.parts path).filter (· ≠ "")) do
    let path := pathOf names
    if let some entry ← entryAt? path then
      found := found ++ [(placeOf path, entry)]
  return found

/-- What is below a directory. -/
partial def below (place : List String) : IO (List (List String × Entry)) := do
  let directory := (← IO.currentDir) / pathOf place
  unless ← directory.isDir do return []
  let mut found := []
  for item in ← directory.readDir do
    let inner := place ++ [item.fileName]
    if let some entry ← entryAt? (pathOf inner) then
      found := found ++ [(inner, entry)]
      if (← item.path.symlinkMetadata).type == .dir then
        found := found ++ (← below inner)
  return found

/-- What can be seen of some paths, with all that is below them if they are searched. -/
def takeIn (paths : List String) (searched : Bool) : IO (List (List String × Entry)) := do
  let mut found := []
  for path in paths do
    found := found ++ (← along path)
    if searched then found := found ++ (← below (placeOf path))
  return found

/-- The paths that decide where a run looks. -/
def configPaths (env : Environment) (request : Cli.CheckRequest) : List String :=
  request.config.toList.map env.locate
  ++ LoadedConfig.candidates (LoadedConfig.searchStart env request.paths)
  ++ (LoadedConfig.userDirectory? env).toList.map fun directory =>
    env.locate (Path.join directory LoadedConfig.userName)

/-- The surroundings of a command. -/
def surroundings (env : Environment) : Cli.Command → IO Environment
  | .check request => do
    let named ← takeIn (request.paths.map env.locate) true
    let env := { env with files := ⟨named⟩ }
    let config ← takeIn (configPaths env request) false
    let env := { env with files := ⟨named ++ config⟩ }
    match request.paths, LoadedConfig.load env request.config request.paths with
    | [], .ok loaded =>
      let searched ← takeIn [env.locate loaded.root] true
      return { env with files := ⟨env.files.entries ++ searched⟩ }
    | _, _ => return env
  | .writeConfig _ => do
    return { env with files := ⟨← takeIn [env.locate Cli.ConfigTemplate.fileName] false⟩ }
  | _ => return env

end TreeLint.Main

open TreeLint in
/-- Runs the program. -/
def main (words : List String) : IO UInt32 := do
  let env : Environment := {
    files := ⟨[]⟩
    currentDirectory := (← IO.currentDir).toString
    home := ← IO.getEnv "HOME"
    configDirectory := ← IO.getEnv "FLEXLINT_CONFIG_DIR" }
  let env ← match Cli.Command.ofWords? words with
    | some command => Main.surroundings env command
    | none => pure env
  let outcome := Cli.run env words
  for warning in outcome.warnings do
    IO.eprintln (" WARN " ++ warning)
  for (path, content) in outcome.written do
    IO.FS.writeFile path content
  IO.print outcome.output
  if let some error := outcome.error then IO.eprintln error.text
  if outcome.code == 2 then IO.eprint Cli.usage
  return outcome.code.toUInt32
