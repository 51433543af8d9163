import TreeLint.Cli.Arguments
import TreeLint.Report.Format

/-!
# Commands

A command line names one of three commands, with its options behind it and the options of all
commands before or behind it. It is read from left to right: the first mistake makes it invalid, and
the first wish for help or for the version is granted. An option is given once, except for patterns
to leave out, and options of all commands, which may be given before the command and behind it.
-/

namespace TreeLint.Cli

/-- What is to be checked, and how. -/
structure CheckRequest where
  config : Option String
  paths : List String
  format : Format
  /-- The only rules to run, divided by commas. -/
  rules : Option String
  excludes : List String
  deriving DecidableEq, Repr

/-- What a command line asks for. -/
inductive Command where
  | check (request : CheckRequest)
  | listRules
  /-- Write a configuration file, in place of another one if need be. -/
  | writeConfig (force : Bool)
  | help
  | version
  deriving DecidableEq, Repr

/-- Why the reading of a command line ends early. -/
inductive Stop where
  | invalid
  | shown (command : Command)
  deriving DecidableEq, Repr

/-- What the options say. -/
structure Settings where
  verbose : Bool
  config : Option String
  format : Option Format
  rules : Option String
  excludes : List String
  force : Bool
  operands : List String
  deriving DecidableEq, Repr

namespace Settings

/-- What no options say. -/
def empty : Settings where
  verbose := false
  config := none
  format := none
  rules := none
  excludes := []
  force := false
  operands := []

/-- Sets what may be set only once. -/
def once {α : Type} (old : Option α) (new : Option α) : Except Stop (Option α) :=
  match old, new with
  | none, some value => .ok (some value)
  | _, _ => .error .invalid

/-- Raises a flag that may be raised only once. -/
def raise (flag : Bool) : Except Stop Bool :=
  if flag then .error .invalid else .ok true

/-- A path, which is never empty. -/
def path? (text : String) : Option String :=
  if text.isEmpty then none else some text

/-- Adds an option. -/
def addOption (settings : Settings) (switch : Switch) (value : String) : Except Stop Settings := do
  match switch with
  | .verbose => return { settings with verbose := ← raise settings.verbose }
  | .config => return { settings with config := ← once settings.config (path? value) }
  | .format => return { settings with format := ← once settings.format (Format.ofName? value) }
  | .rules => return { settings with rules := ← once settings.rules (some value) }
  | .exclude => return { settings with excludes := settings.excludes ++ [value] }
  | .force => return { settings with force := ← raise settings.force }
  | .help => .error (.shown .help)
  | .version => .error (.shown .version)

/-- Adds an operand, if there may be any. -/
def addOperand (takesOperands : Bool) (settings : Settings) (word : String) :
    Except Stop Settings :=
  match takesOperands, path? word with
  | true, some path => .ok { settings with operands := settings.operands ++ [path] }
  | _, _ => .error .invalid

/-- Adds an argument of a command. -/
def add (takesOperands : Bool) (settings : Settings) : Argument → Except Stop Settings
  | .option switch value => settings.addOption switch value
  | .operand word _ => settings.addOperand takesOperands word
  | .divider => .ok settings
  | .mistake => .error .invalid

/-- What the words behind a command say. -/
def read (known : List Switch) (takesOperands : Bool) (words : List String) :
    Except Stop Settings :=
  (Argument.read known none words).foldlM (add takesOperands) .empty

end Settings

namespace Command

/-- The options of all commands. -/
def sharedSwitches : List Switch :=
  [.verbose, .config, .help]

/-- The options in front of a command. -/
def leadingSwitches : List Switch :=
  sharedSwitches ++ [.version]

/-- The options behind the command that checks files. -/
def checkSwitches : List Switch :=
  sharedSwitches ++ [.format, .rules, .exclude]

/-- The options behind the command that writes a configuration file. -/
def writeConfigSwitches : List Switch :=
  sharedSwitches ++ [.force]

/-- What is in front of a command, its name, and the words behind it. -/
def readLead (settings : Settings) : List Argument → Except Stop (Settings × String × List String)
  | [] => .error .invalid
  | .operand name after :: _ => .ok (settings, name, after)
  | .option switch value :: rest =>
    match settings.addOption switch value with
    | .ok settings => readLead settings rest
    | .error stop => .error stop
  | .divider :: _ => .error .invalid
  | .mistake :: _ => .error .invalid

/-- The names of the commands. -/
def names : List String :=
  ["check", "list-rules", "init", "help"]

/-- The command that asks for help about commands. -/
def readHelp : List String → Except Stop Command
  | [] => .ok .help
  | [name] => if names.contains name then .ok .help else .error .invalid
  | _ => .error .invalid

/-- The command of a name and of the words behind it. -/
def readNamed (lead : Settings) (name : String) (words : List String) : Except Stop Command :=
  match name with
  | "check" => do
    let settings ← Settings.read checkSwitches true words
    return .check {
      config := settings.config.or lead.config
      paths := settings.operands
      format := settings.format.getD .text
      rules := settings.rules
      excludes := settings.excludes }
  | "list-rules" => do
    let _ ← Settings.read sharedSwitches false words
    return .listRules
  | "init" => do
    let settings ← Settings.read writeConfigSwitches false words
    return .writeConfig settings.force
  | "help" => readHelp words
  | _ => .error .invalid

/-- The command of a command line, if it is valid. -/
def ofWords? (words : List String) : Option Command :=
  let read := do
    let (lead, name, after) ← readLead .empty (Argument.read leadingSwitches none words)
    readNamed lead name after
  match read with
  | .ok command => some command
  | .error (.shown command) => some command
  | .error .invalid => none

end Command

end TreeLint.Cli
