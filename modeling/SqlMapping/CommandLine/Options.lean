import SqlMapping.Settings
import SqlMapping.Log

/-!
# Options of the command line

Each switch has a short or a long spelling or both. Some switches take a value; of a repeated one
the last value counts.
-/

namespace SqlMapping.CommandLine

open SqlMapping.Number SqlMapping.Shape SqlMapping.Text

/-- The forms in which the artifacts are written. -/
inductive OutputFormat where
  /-- One module for each entity. -/
  | modules
  /-- One script that creates all tables. -/
  | script
  /-- One data text. -/
  | data
deriving DecidableEq

namespace OutputFormat

/-- Every form. -/
def all : List OutputFormat :=
  [.modules, .script, .data]

/-- The name of a form. -/
def name : OutputFormat → String
  | .modules => "python"
  | .script => "sql"
  | .data => "json"

/-- The form of that name. -/
def ofName? (s : String) : Option OutputFormat :=
  all.find? fun format => format.name == s

end OutputFormat

/-- The switches. -/
inductive Switch where
  | help | version | schema | output | format | validateOnly | allowSeveralKeys | rejectUntyped
  | workers | verbose | quiet
deriving DecidableEq

namespace Switch

/-- Every switch. -/
def all : List Switch :=
  [.help, .version, .schema, .output, .format, .validateOnly, .allowSeveralKeys, .rejectUntyped,
   .workers, .verbose, .quiet]

/-- The spellings of a switch, the short one first. -/
def spellings : Switch → List String
  | .help => ["-h", "--help"]
  | .version => ["--version"]
  | .schema => ["-s", "--schema"]
  | .output => ["-o", "--output"]
  | .format => ["--format"]
  | .validateOnly => ["--validate-only"]
  | .allowSeveralKeys => ["--allow-duplicate-pk"]
  | .rejectUntyped => ["--fail-on-opaque"]
  | .workers => ["--workers"]
  | .verbose => ["-v", "--verbose"]
  | .quiet => ["-q", "--quiet"]

/-- Whether a switch takes a value. -/
def takesValue : Switch → Bool
  | .schema | .output | .format | .workers => true
  | _ => false

/-- All spellings of a switch as one text. -/
def label (s : Switch) : String :=
  String.intercalate "/" s.spellings

/-- The spellings of all switches, each with its switch. -/
def table : List (String × Switch) :=
  all.flatMap fun s => s.spellings.map fun spelling => (spelling, s)

/-- The switch of that spelling. -/
def ofSpelling? (spelling : String) : Option Switch :=
  table.lookup spelling

end Switch

/-- What a command line asks for, apart from the document. -/
structure Options where
  /-- The directory that the artifacts are written to. -/
  output : Option String := none
  /-- The form in which they are written. -/
  format : OutputFormat := .modules
  /-- Whether nothing is written. -/
  validatesOnly : Bool := false
  /-- Whether the first flagged key is taken of several ones. -/
  allowsSeveralKeys : Bool := false
  /-- Whether a column without a typed decoder is refused. -/
  rejectsUntyped : Bool := false
  /-- The number of workers asked for. -/
  workers : Option Int := none
  /-- How many times more log entries are asked for. -/
  verbosity : Nat := 0
  /-- Whether no log entry is shown. -/
  isQuiet : Bool := false

namespace Options

/-- Whether a log entry is shown. -/
def shows (o : Options) (e : LogEntry) : Bool :=
  !o.isQuiet && (o.verbosity > 0 || e.level != .info)

/-- The number of workers: the one asked for, or else that of the settings. -/
def workerCount (o : Options) (s : Settings) : Checked Nat :=
  match o.workers with
  | none => .valid s.workers
  | some n => (Settings.readWorkers (.int n)).within (.key "parallel_workers")

/-- The settings of a document with what the command line asks for. -/
def override (o : Options) (s : Settings) : Except ShapeError Settings :=
  ((o.workerCount s).map fun workers =>
    { s with
      rejectsSeveralKeys := s.rejectsSeveralKeys && !o.allowsSeveralKeys
      rejectsUntyped := s.rejectsUntyped || o.rejectsUntyped
      workers }).toExcept Settings.recordName

end Options

/-- What a command line asks for. -/
structure Request where
  /-- The path of the document. -/
  document : String
  /-- Everything else. -/
  options : Options

end SqlMapping.CommandLine
