import SqlMapping.Shape.Record
import SqlMapping.Text.Blank
import SqlMapping.Text.Case

/-!
# References between tables

A field may refer to a column of another table, with an action for the deletion and one for the
change of the row it refers to.
-/

namespace SqlMapping

open SqlMapping.Shape SqlMapping.Text

/-- What happens to a row when the row it refers to is deleted or changed. -/
inductive ReferentialAction where
  | noAction | cascade | setNull | setDefault | restrict
deriving DecidableEq

namespace ReferentialAction

/-- Every action. -/
def all : List ReferentialAction :=
  [.noAction, .cascade, .setNull, .setDefault, .restrict]

/-- The name of an action. -/
def name : ReferentialAction → String
  | .noAction => "NO_ACTION"
  | .cascade => "CASCADE"
  | .setNull => "SET_NULL"
  | .setDefault => "SET_DEFAULT"
  | .restrict => "RESTRICT"

/-- The SQL words of an action. -/
def sql : ReferentialAction → String
  | .noAction => "NO ACTION"
  | .cascade => "CASCADE"
  | .setNull => "SET NULL"
  | .setDefault => "SET DEFAULT"
  | .restrict => "RESTRICT"

/-- A declared action in the spelling of the names: upper case, with underscores for spaces. -/
def spelling (s : String) : String :=
  String.ofList ((upper (strip s)).toList.map fun c => if c = ' ' then '_' else c)

/-- Reads an action. -/
def read : Value → Checked ReferentialAction
  | .text s => readOneOf all name (.text (spelling s))
  | v => readOneOf all name v

end ReferentialAction

/-- A reference to a column of a table. -/
structure Reference where
  /-- The table referred to. -/
  table : String
  /-- The column referred to. -/
  column : String
  /-- What happens on deletion. -/
  onDelete : ReferentialAction := .noAction
  /-- What happens on change. -/
  onUpdate : ReferentialAction := .noAction
deriving DecidableEq

namespace Reference

/-- The name of the record in reports. -/
def recordName : String := "ForeignKeyRef"

/-- Reads a reference. -/
def read : Value → Checked Reference :=
  readRecord recordName [["target_table"], ["target_column"], ["on_delete"], ["on_update"]]
    fun entries => Reference.mk
      <$> required ["target_table"] readNonEmptyText entries
      <*> required ["target_column"] readNonEmptyText entries
      <*> optional ["on_delete"] .noAction ReferentialAction.read entries
      <*> optional ["on_update"] .noAction ReferentialAction.read entries

/-- The short text of a reference. -/
def label (r : Reference) : String :=
  s!"<FK → {r.table}.{r.column}>"

end Reference

end SqlMapping
