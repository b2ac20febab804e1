import SqlMapping.Decode.Fault
import SqlMapping.Log
import SqlMapping.Value

/-!
# What happens on a connection

An operation on the database records what it does: a connection is acquired, used and released, a
block of the caller is run, and log entries are written. A fault ends the operation.
-/

namespace SqlMapping.Access

open SqlMapping.Number

/-- Why an operation ends without a result. -/
inductive Fault where
  /-- A value cannot be read from an object, or cannot be decoded. -/
  | unread (fault : ReadFault)
  /-- There is no current subject. -/
  | noSubject (entity key : String)
  /-- The entity has no query of that name; the wording is given. -/
  | noQuery (message : String)
  /-- A query is given another number of arguments than it takes. -/
  | argumentCount (query : String) (expected given : Nat)
  /-- There is no placeholder in the style of the driver; the wording is given. -/
  | noPlaceholder (message : String)
  /-- The driver does not tell how many rows a statement has changed. -/
  | noRowCount
  /-- The driver or the caller has raised an error. -/
  | raised (message : String)
deriving DecidableEq

/-- The wording of a fault, for the faults that have a stable one. -/
def Fault.message? : Fault → Option String
  | .unread fault => fault.message?
  | .noSubject entity key => some s!"No current subject set for {entity}; cannot bind '{key}'."
  | .noQuery message => some (Text.quote message)
  | .argumentCount query expected given =>
    some (s!"Query '{query}' takes " ++ natText expected ++ " argument(s), " ++ natText given ++
      " given.")
  | .noPlaceholder _ => none
  | .noRowCount => none
  | .raised message => some message

/-- The values that a driver gets with a statement. -/
inductive BoundValues where
  /-- None. -/
  | none
  /-- Values by position. -/
  | positional (values : List Value)
  /-- Values by name. -/
  | named (values : List (String × Value))

/-- What an operation does. -/
inductive Event where
  /-- A connection is acquired. -/
  | acquire
  /-- The driver is asked whether a table exists. -/
  | tableExists (table : String)
  /-- The driver is given a statement. -/
  | execute (sql : String) (values : BoundValues)
  /-- The connection is released, after a fault if there is one. -/
  | release (fault : Option Fault)
  /-- A block of the caller is run. -/
  | block (value : Value)
  /-- The pool of connections is closed. -/
  | dispose
  /-- A log entry is written. -/
  | log (entry : LogEntry)

/-- An operation on the database. -/
abbrev Action := Run Event Fault

/-- The fault of a result, if it is none. -/
def faultOf {α : Type} : Except Fault α → Option Fault
  | .ok _ => none
  | .error fault => some fault

/-- Runs a body in the scope of one connection, which is released whatever the body comes to. -/
def withConnection {α : Type} (body : Action α) : Action α :=
  { result := body.result
    trace := Event.acquire :: body.trace ++ [Event.release (faultOf body.result)] }

/-- Writes a log entry. -/
def logInfo (text : String) : Action Unit :=
  Run.emit (.log ⟨.info, .access, text⟩)

end SqlMapping.Access
