import SqlMapping.Failure
import SqlMapping.Run

/-!
# Log entries

The entries that the library writes, and the steps of a generation that write them.
-/

namespace SqlMapping

/-- How serious a log entry is. -/
inductive LogLevel where
  | info | warning | error
deriving DecidableEq

/-- The name of a level. -/
def LogLevel.name : LogLevel → String
  | .info => "INFO"
  | .warning => "WARNING"
  | .error => "ERROR"

/-- The parts of the library that write log entries. -/
inductive LogSource where
  | program | resolution | statements | decoding | validation | generation | access | files
deriving DecidableEq

/-- The name of a source; the program itself has none. -/
def LogSource.name : LogSource → String
  | .program => ""
  | .resolution => "resolver"
  | .statements => "crud"
  | .decoding => "decoding"
  | .validation => "validators"
  | .generation => "generator"
  | .access => "runtime"
  | .files => "utils"

/-- A log entry. -/
structure LogEntry where
  /-- How serious it is. -/
  level : LogLevel
  /-- What wrote it. -/
  source : LogSource
  /-- Its text. -/
  text : String
deriving DecidableEq

/-- A run that writes log entries. -/
abbrev Logged := Run LogEntry

/-- The run that writes one log entry. -/
def Logged.write {ε : Type} (level : LogLevel) (source : LogSource) (text : String) :
    Logged ε Unit :=
  Run.emit ⟨level, source, text⟩

/-- A step of the generation of one entity. -/
abbrev Step := Logged Failure

/-- The step that stops because a number has too many digits to be written. -/
def Step.ofWritten {α : Type} : Except Number.OverlongInteger α → Step α
  | .ok a => pure a
  | .error _ => throw .overlong

/-- The step that stops because an element is not of the kind required. -/
def Step.refuse {α : Type} (entity : Option String) (fault : ElementFault) : Step α :=
  throw (Failure.element entity fault)

end SqlMapping
