import SqlMapping.Column.Declaration
import SqlMapping.Query

/-!
# Entity declarations
-/

namespace SqlMapping

open SqlMapping.Shape

/-- An entity as it is declared. -/
structure EntityDeclaration where
  /-- The name of the entity. -/
  name : String
  /-- The name of its table; empty when none is declared. -/
  table : String := ""
  /-- The fields in their order. -/
  fields : List FieldDeclaration := []
  /-- The queries in their order. -/
  queries : List Query := []

namespace EntityDeclaration

/-- The name of the record in reports. -/
def recordName : String := "EntityDeclaration"

/-- Reads a table name; null counts as none. -/
def readTable : Value → Checked String
  | .null => .valid ""
  | v => readText v

/-- Reads an entity declaration, with room for so many levels of a default that is refused. -/
def read (room : Nat) : Value → Checked EntityDeclaration :=
  readRecord recordName [["name"], ["table"], ["fields"], ["queries"]]
    fun entries => EntityDeclaration.mk
      <$> required ["name"] readNonEmptyText entries
      <*> optional ["table"] "" readTable entries
      <*> optional ["fields"] [] (readList (FieldDeclaration.read room)) entries
      <*> optional ["queries"] [] (readList Query.read) entries

end EntityDeclaration

end SqlMapping
