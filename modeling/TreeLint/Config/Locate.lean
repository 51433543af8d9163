import TreeLint.Config.Read
import TreeLint.ErrorTrace
import TreeLint.FileSystem

/-!
# Locating the configuration

A configuration file that is named explicitly is used. Otherwise the search starts at the directory
of the first path to be analyzed, or at the current directory, and goes up from there: the first
directory with a configuration file decides. If there is none, the file in the directory of the user
is used, and without such a file the configuration that says nothing.
-/

namespace TreeLint

/-- What a run can see of its surroundings. -/
structure Environment where
  files : FileSystem
  currentDirectory : String
  home : Option String
  /-- The directory of the configuration of the user, if it is not the usual one. -/
  configDirectory : Option String

/-- A path as it is seen from the current directory. -/
def Environment.locate (env : Environment) (path : String) : String :=
  Path.join env.currentDirectory path

/-- A configuration and where it is from. -/
structure LoadedConfig where
  config : Config
  origin : Option String

namespace LoadedConfig

/-- The names of the configuration file of a project. The first one is preferred. -/
def projectNames : List String :=
  ["flexlint.toml", ".flexlint.toml"]

/-- The name of the configuration file in the directory of the user. -/
def userName : String :=
  "config.toml"

/-- The directory at which the search starts. -/
def searchStart (env : Environment) (paths : List String) : String :=
  match paths with
  | [] => env.currentDirectory
  | path :: _ =>
    if env.files.isDirectory (env.locate path) then env.locate path
    else (Path.parent? (env.locate path)).getD env.currentDirectory

/-- The files that may configure what is in a directory, the nearest one first. -/
def candidates (directory : String) : List String :=
  (Path.ancestors directory).flatMap fun above => projectNames.map (Path.join above)

/-- The configuration file of the project that a directory is in. -/
def projectFile? (env : Environment) (directory : String) : Option String :=
  (candidates directory).find? env.files.isFile

/-- The directory of the configuration of the user. -/
def userDirectory? (env : Environment) : Option String :=
  match env.configDirectory with
  | some directory => some directory
  | none => env.home.map fun home => Path.join home ".flexlint"

/-- The configuration file of the user. -/
def userFile? (env : Environment) : Option String :=
  ((userDirectory? env).map fun directory => Path.join directory userName).filter
    fun path => env.files.isFile (env.locate path)

/-- The configuration file for the analysis of some paths. -/
def fileFor? (env : Environment) (explicit : Option String) (paths : List String) :
    Option String :=
  match explicit with
  | some path => some path
  | none =>
    match projectFile? env (searchStart env paths) with
    | some path => some path
    | none => userFile? env

/-- Reads a configuration file. -/
def read (env : Environment) (path : String) : Except ConfigError Config :=
  match env.files.read (env.locate path) with
  | .error cause => .error (.unreadable path cause)
  | .ok text => Config.parse text

/-- The configuration for the analysis of some paths. -/
def load (env : Environment) (explicit : Option String) (paths : List String) :
    Except ErrorTrace LoadedConfig :=
  match fileFor? env explicit paths with
  | none => .ok ⟨.standard, none⟩
  | some path =>
    match read env path with
    | .error error => .error ⟨s!"Failed to load config: {path}", error.trace⟩
    | .ok config => .ok ⟨config, some path⟩

/-- The directory to search when no paths are given. A relative one is seen from the directory of
the configuration file. -/
def root (loaded : LoadedConfig) : String :=
  let root := loaded.config.analyzer.root
  match loaded.origin.bind Path.parent? with
  | some directory => if Path.isAbsolute root then root else Path.join directory root
  | none => root

end LoadedConfig

end TreeLint
