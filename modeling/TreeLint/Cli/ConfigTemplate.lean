import TreeLint.Config.Locate

/-!
# The first configuration file

A configuration file to start from. It is written into the current directory, and replaces another
one only if it is told to.
-/

namespace TreeLint.Cli.ConfigTemplate

/-- The lines of the file. -/
def lines : List String :=
  ["# flexlint configuration",
   "",
   "# Preset: \"sonar-way\" (default) or \"all\"",
   "preset = \"sonar-way\"",
   "",
   "# Violations at or above this severity make `flexlint check` exit with 1",
   "fail-on = \"major\"",
   "",
   "[analyzer]",
   "# Directory searched for tree dumps, relative to this file (default: \".\")",
   "# root = \"./build/ast\"",
   "",
   "# Glob patterns to exclude from analysis",
   "exclude = [",
   "    \"**/target/**\",",
   "]",
   "",
   "# File name suffixes of tree dumps",
   "suffixes = [\".ast.json\"]",
   "",
   "# Worker threads (default: one per CPU)",
   "# parallelism = 4",
   "",
   "# Rule configurations",
   "# Each rule can be enabled/disabled and have its severity overridden",
   "",
   "[rules.constructor-calls-dispatch-event]",
   "enabled = true",
   "# severity = \"critical\"  # Override default severity",
   "call_name = \"dispatchEvent\"",
   "",
   "[rules.octal-value]",
   "enabled = true",
   "",
   "# Report every node of one kind",
   "# [[node-rules]]",
   "# key = \"X0001\"",
   "# name = \"no-hex-literals\"",
   "# kind = \"HEX_LITERAL\"",
   "# message = \"Avoid hexadecimal literals such as \x7b0\x7d.\"",
   "# severity = \"minor\""]

/-- The text of the file. -/
def text : String :=
  String.join (lines.map (· ++ "\n"))

/-- The name of the file. -/
def fileName : String :=
  "flexlint.toml"

/-- What is said when the file was written. -/
def notice : String :=
  String.join (["Created flexlint.toml", "", "Next steps:",
    "  1. Edit flexlint.toml to configure rules",
    "  2. Run: flexlint check"].map (· ++ "\n"))

/-- The path to write the file to. -/
def place (env : Environment) (force : Bool) : Except ErrorTrace String :=
  let path := env.locate fileName
  match env.files.resolve path with
  | .error _ => .ok path
  | .ok (_, entry) =>
    if !force then
      .error (.plain
        s!"Configuration file already exists at {fileName}. Use --force to overwrite.")
    else if entry = .directory then .error (.plain IoError.isDirectory.message)
    else .ok path

end TreeLint.Cli.ConfigTemplate
