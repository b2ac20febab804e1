import SqlMapping.Log
import SqlMapping.Text.Layout

/-!
# Help

What the program prints about itself, laid out for eighty columns: a switch and its description
share a line when the switch is short enough.
-/

namespace SqlMapping.CommandLine

open SqlMapping.Text

/-- The name of the program. -/
def programName : String := "entitymap"

/-- The name under which a part of the program writes its log entries. -/
def loggerName (source : LogSource) : String :=
  if source = .program then programName else s!"{programName}.{source.name}"

/-- The name and the version of the program. -/
def versionText : String := "EntityMap v0.1.0"

/-- How the program is called. -/
def usageLines : List String :=
  ["usage: entitymap [-h] [--version] -s PATH [-o DIR]",
   "                 [--format \x7bpython,sql,json\x7d] [--validate-only]",
   "                 [--allow-duplicate-pk] [--fail-on-opaque] [--workers N] [-v]",
   "                 [-q]"]

/-- The column at which descriptions begin. -/
def descriptionColumn : Nat := 24

/-- The lines of a switch with the lines of its description. -/
def switchLines (switch : String) (description : List String) : List String :=
  let indented := description.map fun line => spaces descriptionColumn ++ line
  match description with
  | first :: _ =>
    if switch.length + 4 ≤ descriptionColumn then
      ("  " ++ padRight (descriptionColumn - 2) switch ++ first) :: indented.drop 1
    else ("  " ++ switch) :: indented
  | [] => ["  " ++ switch]

/-- The help on the program. -/
def helpLines : List String :=
  usageLines ++
  ["",
   "EntityMap - entity-to-relational mapping generator.",
   "",
   "Turns entity declarations (JSON/YAML) into CREATE TABLE DDL, parameterised CRUD statements " ++
     "and typed row decoders.",
   "",
   "options:"] ++
  switchLines "-h, --help" ["show this help message and exit"] ++
  switchLines "--version" ["show program's version number and exit"] ++
  switchLines "-s PATH, --schema PATH" ["Path to the entity declaration file (JSON or YAML)."] ++
  switchLines "-o DIR, --output DIR"
    ["Output directory. Required unless --validate-only is", "set."] ++
  switchLines "--format \x7bpython,sql,json\x7d" ["Output format (default: python)."] ++
  ["", "operation modes:"] ++
  switchLines "--validate-only"
    ["Resolve and validate the declarations without writing", "files."] ++
  ["", "configuration overrides:"] ++
  switchLines "--allow-duplicate-pk"
    ["Use the first flagged primary key instead of rejecting", "the entity."] ++
  switchLines "--fail-on-opaque" ["Reject fields that have no typed decoder."] ++
  switchLines "--workers N" ["Generate entities on N worker threads."] ++
  ["", "verbosity:"] ++
  switchLines "-v, --verbose" ["Increase verbosity (-v for INFO, -vv for DEBUG)."] ++
  switchLines "-q, --quiet" ["Suppress all output except errors."] ++
  ["",
   "Examples:",
   "  entitymap -s entities.yaml -o ./generated",
   "  entitymap -s entities.json -o ./out --format sql",
   "  entitymap -s entities.yaml --validate-only"]

/-- The line about a misuse of the command line. -/
def misuseLine (message : String) : String :=
  s!"{programName}: error: {message}"

end SqlMapping.CommandLine
