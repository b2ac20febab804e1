import SqlMapping.Column.Basic

/-!
# Schemas

A schema is the settled description of one entity: its table, and its columns in the order in
which they were declared. Some column is flagged as primary key, and the first such column is the
key.
-/

namespace SqlMapping

open SqlMapping.Number SqlMapping.Shape

/-- The settled description of an entity. -/
structure Schema where
  /-- The name of the entity. -/
  entity : String
  /-- The name of its table. -/
  table : String
  /-- The columns in their order. -/
  columns : List Column
  /-- Some column is flagged as primary key. -/
  hasKey : columns.any Column.isKey = true

namespace Schema

/-- The key: the first column that is flagged as primary key. -/
def primaryKey (s : Schema) : Column :=
  (s.columns.find? Column.isKey).get (by simpa [List.find?_isSome] using s.hasKey)

/-- The names of the columns. -/
def columnNames (s : Schema) : List String :=
  s.columns.map Column.name

/-- The columns with another name than the key. -/
def nonKeyColumns (s : Schema) : List Column :=
  s.columns.filter fun c => c.name != s.primaryKey.name

/-- The columns that refer to another table. -/
def referringColumns (s : Schema) : List Column :=
  s.columns.filter fun c => c.reference.isSome

/-- The first column of that name. -/
def column? (s : Schema) (name : String) : Option Column :=
  s.columns.find? fun c => c.name == name

/-- The short text of a schema. -/
def label (s : Schema) : String :=
  s!"<EntitySchema {s.entity} → {s.table} (" ++ natText s.columns.length ++ " fields)>"

/-- The name of the record in reports. -/
def recordName : String := "EntitySchema"

/-- A schema with these parts, one column of which has to be flagged as primary key. -/
def ofParts (entity table : String) (columns : List Column) : Checked Schema :=
  if h : columns.any Column.isKey = true then .valid ⟨entity, table, columns, h⟩
  else .flaw (.refused s!"Entity '{entity}' has no primary key field.")

/-- Reads the columns of a schema, of which there is at least one. -/
def readColumns (room : Nat) (v : Value) : Checked (List Column) :=
  (readTuple (Column.read room) v).andThen fun columns =>
    if columns.isEmpty then .flaw .emptyTuple else .valid columns

/-- Reads a schema, with room for so many levels of a default that is refused. -/
def read (room : Nat) (v : Value) : Checked Schema :=
  (readRecord recordName [["entity_name"], ["table_name"], ["fields"]]
    (fun entries => (fun entity table columns => (entity, table, columns))
      <$> required ["entity_name"] readNonEmptyText entries
      <*> required ["table_name"] readNonEmptyText entries
      <*> required ["fields"] (readColumns room) entries) v).andThen
    fun (entity, table, columns) => ofParts entity table columns

end Schema

end SqlMapping
