import SqlMapping.Entity.Schema
import SqlMapping.Log
import SqlMapping.Statement.Basic
import SqlMapping.Statement.Name

/-!
# The statements of every entity

An insert binds every column but the key, in order. An update binds every column and then the key.
A select lists every column, and like a delete it binds the key alone, which is either given or
taken from the current subject.
-/

namespace SqlMapping

open SqlMapping.Text SqlMapping.Statement

namespace Schema

/-- The bindings of columns to fields, the first one having the given number. -/
def fieldBindings : Nat → List Column → List Binding
  | _, [] => []
  | position, c :: rest =>
    ⟨position, c.name, .field, c.hostType⟩ :: fieldBindings (position + 1) rest

/-- The binding of the key. -/
def keyBinding (s : Schema) (source : BindSource) (position : Nat) : Binding :=
  ⟨position, s.primaryKey.name, source, s.primaryKey.hostType⟩

/-- The condition that the key equals a bound value. -/
def keyCondition (s : Schema) : String :=
  "WHERE " ++ quoteName s.primaryKey.name ++ " = ?"

/-- The insert statement. -/
def insert (s : Schema) : Statement :=
  { operation := Operation.insert.name
    sql := "INSERT INTO " ++ quoteName s.table ++ " (" ++
      commaList (s.nonKeyColumns.map fun c => quoteName c.name) ++ ") VALUES (" ++
      commaList (s.nonKeyColumns.map fun _ => "?") ++ ")"
    bindings := fieldBindings 1 s.nonKeyColumns }

/-- The text of the select statements. -/
def selectText (s : Schema) : String :=
  "SELECT " ++ commaList (s.columnNames.map quoteName) ++ " FROM " ++ quoteName s.table ++ " " ++
    s.keyCondition

/-- The text of the delete statements. -/
def deleteText (s : Schema) : String :=
  "DELETE FROM " ++ quoteName s.table ++ " " ++ s.keyCondition

/-- The select statement for a key that is given. -/
def selectById (s : Schema) : Statement :=
  ⟨Operation.selectById.name, s.selectText, [s.keyBinding .id 1]⟩

/-- The select statement for the key of the current subject. -/
def selectSelf (s : Schema) : Statement :=
  ⟨Operation.selectSelf.name, s.selectText, [s.keyBinding .subject 1]⟩

/-- The update statement. -/
def update (s : Schema) : Statement :=
  { operation := Operation.update.name
    sql := "UPDATE " ++ quoteName s.table ++ " SET " ++
      commaList (s.columns.map fun c => quoteName c.name ++ " = ?") ++ " " ++ s.keyCondition
    bindings := fieldBindings 1 s.columns ++ [s.keyBinding .field (s.columns.length + 1)] }

/-- The delete statement for a key that is given. -/
def deleteById (s : Schema) : Statement :=
  ⟨Operation.deleteById.name, s.deleteText, [s.keyBinding .id 1]⟩

/-- The delete statement for the key of the current subject. -/
def deleteSelf (s : Schema) : Statement :=
  ⟨Operation.deleteSelf.name, s.deleteText, [s.keyBinding .subject 1]⟩

/-- The statement of an operation. -/
def statement (s : Schema) : Operation → Statement
  | .insert => s.insert
  | .selectById => s.selectById
  | .selectSelf => s.selectSelf
  | .update => s.update
  | .deleteById => s.deleteById
  | .deleteSelf => s.deleteSelf

/-- The warning about an insert that has no column. -/
def statementWarnings (s : Schema) : List LogEntry :=
  if s.nonKeyColumns.isEmpty then
    [⟨.warning, .statements,
      s!"[{s.entity}] Insert has no columns: the primary key is the only field."⟩]
  else []

end Schema

end SqlMapping
