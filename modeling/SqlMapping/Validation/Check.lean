import SqlMapping.Decode.Plan
import SqlMapping.Entity.Schema
import SqlMapping.Text.Letter
import SqlMapping.Validation.Issue

/-!
# Checks over a batch of schemas

A schema that can be mapped may still have names that are no identifiers, share its table with
another one, refer to a column that the batch does not have, or hold columns that are not decoded.
-/

namespace SqlMapping

open SqlMapping.Text

/-- Words of SQL that a table or column is better not named after. -/
def reservedWords : List String :=
  ["select", "insert", "update", "delete", "drop", "create", "alter", "table", "column", "index",
   "from", "where", "join", "inner", "outer", "left", "right", "on", "and", "or", "not", "null",
   "true", "false", "in", "between", "like", "is", "as", "order", "by", "group", "having", "limit",
   "offset", "union", "all", "distinct", "case", "when", "then", "else", "end", "exists",
   "primary", "foreign", "key", "references", "constraint", "check", "default", "unique",
   "cascade", "set", "values", "into", "grant", "revoke", "user", "database", "trigger",
   "procedure", "function", "view", "with", "range", "read", "write", "condition"]

/-- Whether a name is a reserved word in some case. -/
def isReservedWord (name : String) : Bool :=
  reservedWords.contains (lower name)

namespace Schema

/-- The context of an issue with a table. -/
def tableContext (s : Schema) : List (String × Value) :=
  [("entity", .text s.entity), ("table", .text s.table)]

/-- The issue of a table that an earlier schema has. -/
def sharedTableIssues (s : Schema) (earlier : List Schema) : Validation :=
  match earlier.find? fun t => t.table == s.table with
  | some owner =>
    [⟨.error, "DUPLICATE_TABLE_NAME",
      s!"Table '{s.table}' is mapped by both '{owner.entity}' and '{s.entity}'.",
      s.tableContext⟩]
  | none => []

/-- The issue of a table name that is no identifier, or else a reserved word. -/
def tableNameIssues (s : Schema) : Validation :=
  if !isPlainNameLine s.table then
    [⟨.error, "INVALID_TABLE_NAME", s!"Table name '{s.table}' is not a valid identifier.",
      s.tableContext⟩]
  else if isReservedWord s.table then
    [⟨.warning, "TABLE_NAME_SQL_RESERVED", s!"Table name '{s.table}' is a SQL reserved word.",
      s.tableContext⟩]
  else []

/-- The context of an issue with a field. -/
def fieldContext (s : Schema) (c : Column) : List (String × Value) :=
  [("entity", .text s.entity), ("field", .text c.name)]

/-- The issue of a field name that is no identifier, or else a reserved word. -/
def fieldNameIssues (s : Schema) (c : Column) : Validation :=
  if !isPlainNameLine c.name then
    [⟨.error, "INVALID_FIELD_NAME",
      s!"Field '{c.name}' of '{s.entity}' is not a valid identifier.", s.fieldContext c⟩]
  else if isReservedWord c.name then
    [⟨.warning, "FIELD_NAME_SQL_RESERVED",
      s!"Field '{c.name}' of '{s.entity}' is a SQL reserved word.", s.fieldContext c⟩]
  else []

/-- The issue of a reference: its table is the last one of that name in the batch. -/
def referenceIssues (s : Schema) (batch : List Schema) (c : Column) (r : Reference) : Validation :=
  let context : List (String × Value) :=
    s.fieldContext c ++ [("target", .text s!"{r.table}.{r.column}")]
  match batch.reverse.find? fun t => t.table == r.table with
  | none =>
    [⟨.info, "FK_TARGET_EXTERNAL",
      s!"'{s.entity}.{c.name}' references table '{r.table}' which is not part of this batch.",
      context⟩]
  | some target =>
    if target.columnNames.contains r.column then []
    else
      [⟨.error, "FK_TARGET_COLUMN_MISSING",
        s!"'{s.entity}.{c.name}' references '{r.table}.{r.column}' which does not exist.",
        context⟩]

/-- The issue of a column that is not decoded. -/
def decodeIssues (s : Schema) (c : Column) : Validation :=
  if c.chooseDecoder.2 then
    [⟨.warning, "OPAQUE_DECODE",
      s!"Field '{c.name}' of '{s.entity}' ({c.sqlType}) is decoded as an untyped value.",
      s.fieldContext c⟩]
  else []

end Schema

namespace Validation

/-- The issues of table names; the schemas in `earlier` stand before the others. -/
def tableNamesAfter : List Schema → List Schema → Validation
  | _, [] => []
  | earlier, s :: rest =>
    s.sharedTableIssues earlier ++ s.tableNameIssues ++ tableNamesAfter (earlier ++ [s]) rest

/-- The issues of the table names of a batch. -/
def ofTableNames (batch : List Schema) : Validation :=
  tableNamesAfter [] batch

/-- The issues of the field names of a batch. -/
def ofFieldNames (batch : List Schema) : Validation :=
  batch.flatMap fun s => s.columns.flatMap s.fieldNameIssues

/-- The issues of the references of a batch. -/
def ofReferences (batch : List Schema) : Validation :=
  batch.flatMap fun s => s.columns.flatMap fun c =>
    match c.reference with
    | some r => s.referenceIssues batch c r
    | none => []

/-- The issues of the decoders of a batch. -/
def ofDecoders (batch : List Schema) : Validation :=
  batch.flatMap fun s => s.columns.flatMap s.decodeIssues

/-- All issues of a batch. -/
def ofBatch (batch : List Schema) : Validation :=
  ofTableNames batch ++ ofFieldNames batch ++ ofReferences batch ++ ofDecoders batch

end Validation

end SqlMapping
