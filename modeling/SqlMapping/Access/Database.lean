import SqlMapping.Access.Event
import SqlMapping.Statement.Placeholder

/-!
# Databases as drivers show them

A database is known by its answers: whether a table exists, and what a statement comes to. A driver
with a parameter style of its own gets statements in that style, and no values at all when there
are none.
-/

namespace SqlMapping.Access

open SqlMapping.Number

/-- What the driver returns for a statement. -/
structure Reply where
  /-- The next row, if there is one. -/
  row : Except Fault (Option Value)
  /-- Everything that a caller can read from the reply. -/
  rows : Value
  /-- The key of the row inserted last, if the driver tells it. -/
  lastRowKey : Option Value
  /-- The number of rows changed. -/
  rowCount : Except Fault Value

/-- The answers of a database. -/
structure Database where
  /-- The parameter style of the driver; without one statements are handed over as they are. -/
  style : Option ParameterStyle
  /-- Whether a table exists. -/
  tableExists : String → Except Fault Bool
  /-- What a statement comes to. -/
  execute : String → BoundValues → Except Fault Reply

/-- Values by the names of placeholders, the first one having the given number. -/
def namedFrom : Nat → List Value → List (String × Value)
  | _, [] => []
  | k, v :: rest => ("p" ++ natText k, v) :: namedFrom (k + 1) rest

/-- Values in the form that a style asks for. -/
def boundIn (style : ParameterStyle) (values : List Value) : BoundValues :=
  if values.isEmpty then .none
  else if style = .named then .named (namedFrom 1 values)
  else .positional values

namespace Database

/-- A statement and its values as the driver gets them. -/
def prepare (db : Database) (sql : String) (values : List Value) :
    Except Fault (String × BoundValues) :=
  match db.style with
  | none => .ok (sql, .positional values)
  | some style =>
    match adaptPlaceholders sql style with
    | .ok text => .ok (text, boundIn style values)
    | .error message => .error (.noPlaceholder message)

/-- Asks whether a table exists. -/
def askTable (db : Database) (table : String) : Action Bool :=
  ⟨db.tableExists table, [.tableExists table]⟩

/-- Executes a statement. -/
def perform (db : Database) (sql : String) (values : List Value) : Action Reply :=
  match db.prepare sql values with
  | .ok (text, bound) => ⟨db.execute text bound, [.execute text bound]⟩
  | .error fault => throw fault

end Database

end SqlMapping.Access
