import SqlMapping.Entity.Schema
import SqlMapping.Statement.Name

/-!
# The statement that creates a table

The clauses of the columns stand in their order, then those of the references. A column clause is
the quoted name, the SQL type, the constraints, a space, and the default if there is one; so the
clause of a column without a default ends in a space.
-/

namespace SqlMapping

open SqlMapping.Number SqlMapping.Text SqlMapping.Statement

/-- The constraints of a column; the first one only if the column is the key. -/
def Column.constraints (c : Column) (isPrimary : Bool) : List String :=
  (if c.isKey && isPrimary then ["PRIMARY KEY"] else []) ++
    (if c.isUnique then ["UNIQUE"] else []) ++ (if c.isNotNull then ["NOT NULL"] else [])

/-- Words with a space in front of each. -/
def spaced (words : List String) : String :=
  String.join (words.map fun word => " " ++ word)

/-- The clause of a column. -/
def Column.clause (c : Column) (isPrimary : Bool) : Except OverlongInteger String :=
  c.default.clause.map fun default =>
    quoteName c.name ++ " " ++ c.sqlType ++ spaced (c.constraints isPrimary) ++ " " ++ default

/-- The actions of a reference; doing nothing is not written. -/
def Reference.actions (r : Reference) : List String :=
  (if r.onDelete = .noAction then [] else ["ON DELETE " ++ r.onDelete.sql]) ++
    (if r.onUpdate = .noAction then [] else ["ON UPDATE " ++ r.onUpdate.sql])

/-- The clause of a column that refers to another table. -/
def Reference.clause (r : Reference) (column : String) : String :=
  "FOREIGN KEY (" ++ quoteName column ++ ") REFERENCES " ++ quoteName r.table ++ " (" ++
    quoteName r.column ++ ")" ++ spaced r.actions

/-- The reference clause of a column that has one. -/
def Column.referenceClause? (c : Column) : Option String :=
  c.reference.map fun r => r.clause c.name

/-- What is said of a column that refers to no other table. -/
def Column.noReferenceMessage (c : Column) : String :=
  s!"Field '{c.name}' has no foreign key."

namespace Schema

/-- The clauses of the columns. -/
def columnClauses (s : Schema) : Except OverlongInteger (List String) :=
  s.columns.mapM fun c => c.clause (c.name == s.primaryKey.name)

/-- The clauses of the references. -/
def referenceClauses (s : Schema) : List String :=
  s.columns.filterMap Column.referenceClause?

/-- The statement that creates the table. -/
def createTable (s : Schema) : Except OverlongInteger String :=
  s.columnClauses.map fun columns =>
    "CREATE TABLE " ++ quoteName s.table ++ " (" ++ commaList (columns ++ s.referenceClauses) ++
      ")"

end Schema

end SqlMapping
