import SqlMapping.Column.Declaration
import SqlMapping.Column.HostType

/-!
# Columns

A column is a declared field whose column type is known and whose size is settled.
-/

namespace SqlMapping

open SqlMapping.Number SqlMapping.Shape SqlMapping.Text

/-- A column of a table. -/
structure Column where
  /-- The name. -/
  name : String
  /-- The type of the field in the host program. -/
  hostType : String := "object"
  /-- The column type. -/
  type : ColumnType
  /-- The size, which types without a size do not have. -/
  size : Option Int := none
  /-- Whether the column is flagged as primary key. -/
  isKey : Bool := false
  /-- Whether the values of the column are distinct. -/
  isUnique : Bool := false
  /-- Whether the column always has a value. -/
  isNotNull : Bool := false
  /-- The default. -/
  default : DefaultValue := .none
  /-- The column of another table that the column refers to. -/
  reference : Option Reference := none
deriving DecidableEq

namespace Column

/-- The name of the record in reports. -/
def recordName : String := "FieldDescriptor"

/-- Reads a column, with room for so many levels of a default that is refused. -/
def read (room : Nat) : Value → Checked Column :=
  readRecord recordName
    [["name"], ["host_type"], ["column_type"], ["size"], ["primary_key"], ["unique"],
      ["not_null"], ["default"], ["foreign_key"]]
    fun entries => Column.mk
      <$> required ["name"] readNonEmptyText entries
      <*> optional ["host_type"] "object" readText entries
      <*> required ["column_type"] FieldDeclaration.readColumnType entries
      <*> optional ["size"] none (nullable readInt) entries
      <*> optional ["primary_key"] false readBool entries
      <*> optional ["unique"] false readBool entries
      <*> optional ["not_null"] false readBool entries
      <*> optional ["default"] .none (DefaultValue.read room) entries
      <*> optional ["foreign_key"] none (nullable Reference.read) entries

/-- The SQL type: the name of the column type, with the size in parentheses if there is one. -/
def sqlType (c : Column) : String :=
  match c.size with
  | some n => c.type.name ++ "(" ++ intText n ++ ")"
  | none => c.type.name

/-- Whether the size has few enough digits to be written. -/
def isWritable (c : Column) : Bool :=
  match c.size with
  | some n => decide (n.natAbs < digitCeiling)
  | none => true

/-- The recognised host type of a column. -/
def recognisedHostType? (c : Column) : Option HostType :=
  HostType.parse? c.hostType

/-- The short text of a column. -/
def label (c : Column) : String :=
  let key := if c.isKey then " PK" else ""
  s!"<Field {c.name} {c.sqlType}{key}>"

end Column

end SqlMapping
