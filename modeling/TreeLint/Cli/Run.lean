import TreeLint.Cli.Check
import TreeLint.Cli.ConfigTemplate
import TreeLint.Cli.RuleList
import TreeLint.Text.Logged

/-!
# Runs of the program

What a run of the program does, as a value: what it prints, what it writes, and how it ends. A run
ends with 0 if all is well, with 1 if a check fails or something cannot be done, and with 2 if the
command line is invalid.
-/

namespace TreeLint.Cli

/-- What a run does. -/
structure Outcome where
  code : Nat
  output : String
  error : Option ErrorTrace
  warnings : List String
  /-- The files it writes, with what they hold then. -/
  written : List (String × String)

namespace Outcome

/-- A run that prints something and ends well. -/
def printed (output : String) : Outcome where
  code := 0
  output := output
  error := none
  warnings := []
  written := []

/-- A run that could not be carried out. -/
def failed (warnings : List String) (error : ErrorTrace) : Outcome where
  code := 1
  output := ""
  error := some error
  warnings := warnings.map Text.Logged.write
  written := []

/-- A run with an invalid command line. -/
def invalid : Outcome where
  code := 2
  output := ""
  error := none
  warnings := []
  written := []

end Outcome

/-- How the program is used. -/
def usage : String :=
  String.join (["Rule-based analyzer for syntax trees dumped by the Flex grammar",
    "",
    "Usage: flexlint [OPTIONS] <COMMAND>",
    "",
    "Commands:",
    "  check       Run lint checks",
    "  list-rules  List available rules",
    "  init        Initialize configuration file",
    "  help        Print this message or the help of the given subcommand(s)",
    "",
    "Options:",
    "  -v, --verbose          Enable verbose output",
    "  -c, --config <CONFIG>  Path to configuration file",
    "  -h, --help             Print help",
    "  -V, --version          Print version"].map (· ++ "\n"))

/-- The name and the version of the program. -/
def version : String :=
  "flexlint 0.3.0\n"

/-- Checks files and prints what was found. -/
def check (env : Environment) (request : CheckRequest) : Outcome :=
  match request.run env with
  | ⟨warnings, .error error⟩ => .failed warnings error
  | ⟨warnings, .ok verdict⟩ =>
    { Outcome.printed (request.format.write verdict.result) with
      code := if verdict.fails then 1 else 0
      warnings := warnings.map Text.Logged.write }

/-- Writes a configuration file. -/
def writeConfig (env : Environment) (force : Bool) : Outcome :=
  match ConfigTemplate.place env force with
  | .error error => .failed [] error
  | .ok path =>
    { Outcome.printed ConfigTemplate.notice with written := [(path, ConfigTemplate.text)] }

/-- Carries out a command. -/
def execute (env : Environment) : Command → Outcome
  | .check request => check env request
  | .listRules => .printed RuleList.text
  | .writeConfig force => writeConfig env force
  | .help => .printed usage
  | .version => .printed version

/-- Carries out a command line. -/
def run (env : Environment) (words : List String) : Outcome :=
  match Command.ofWords? words with
  | some command => execute env command
  | none => .invalid

end TreeLint.Cli
