import SqlMapping.Entity.Declaration
import SqlMapping.Entity.Schema
import SqlMapping.Log
import SqlMapping.Settings

/-!
# From declarations to schemas

The fields are settled one after the other: each has to have a column type, a size within the bound
of that type, and a name of its own. Then one field has to be flagged as primary key, and only one
unless several are tolerated. The first problem found is the one reported. The names of the entity
and of its table are looked at last, and by the schema itself: a half of a surrogate pair in one of
them is no error of the declaration.
-/

namespace SqlMapping

open SqlMapping.Number SqlMapping.Shape SqlMapping.Text

/-- A field of an entity: untyped data, or a declaration that is already read. -/
inductive FieldInput where
  /-- Untyped data, and how many levels of a value there is room to show when it is read. -/
  | raw (room : Nat) (v : Value)
  /-- A declaration. -/
  | declared (d : FieldDeclaration)

/-- The declaration of the field of that number. -/
def FieldInput.declaration (entity : String) (index : Nat) :
    FieldInput → Except Failure FieldDeclaration
  | .declared d => .ok d
  | .raw room (.mapping entries) =>
    ((FieldDeclaration.read room (.mapping entries)).toExcept FieldDeclaration.recordName).mapError
      fun report => .ofReport (some entity) report (.malformedField index)
  | .raw _ v => .error (.element (some entity) (.fieldNotMapping index v.typeName))

/-- The table of an entity: the declared one unless it is blank, else the name of the entity in
lower case. -/
def tableName (entity : String) (declared : Option String) : String :=
  let table := strip (declared.getD "")
  if table = "" then lower entity else table

namespace FieldDeclaration

/-- The size of a field of a type that takes one: zero counts as none. -/
def effectiveSize (d : FieldDeclaration) (sizing : Sizing) : Nat :=
  match d.size with
  | none | some 0 => sizing.default
  | some n => n

/-- The column of a declared field with its settled type and size. -/
def toColumn (d : FieldDeclaration) (type : ColumnType) (size : Option Nat) : Column :=
  { name := d.name
    hostType := d.hostType
    type
    size := size.map Int.ofNat
    isKey := d.isKey
    isUnique := d.isUnique
    isNotNull := d.isNotNull
    default := d.default.getD .none
    reference := d.reference }

/-- The failure of a size beyond the bound; a number that is too long to be written fails by
itself. -/
def oversize (entity field : String) (requested maximum : Nat) : Failure :=
  if requested < digitCeiling then
    .mapping ⟨some entity, .sizeExceeded field (Int.ofNat requested) (Int.ofNat maximum)⟩
  else .overlong

/-- The warning about a size that the type does not take. A size that is too long to be written is
not reported. -/
def warnIgnoredSize (entity field : String) (type : ColumnType) (size : Nat) : Step Unit :=
  if size < digitCeiling then
    Logged.write .warning .resolution
      (s!"[{entity}] Field '{field}': {type.name} takes no size; ignoring size " ++
        natText size ++ ".")
  else pure ()

/-- The column of a declared field. -/
def resolve (d : FieldDeclaration) (entity : String) : Step Column :=
  match d.columnType with
  | none => throw (.mapping ⟨some entity, .missingColumnType d.name⟩)
  | some type =>
    match type.sizing? with
    | some sizing =>
      let size := d.effectiveSize sizing
      if size ≤ sizing.max then pure (d.toColumn type (some size))
      else throw (oversize entity d.name size sizing.max)
    | none =>
      match d.size with
      | none | some 0 => pure (d.toColumn type none)
      | some size => do
        warnIgnoredSize entity d.name type size
        return d.toColumn type none

end FieldDeclaration

/-- The columns of fields, the first one having the given number; the names in `seen` are taken. -/
def resolveColumns (entity : String) : List String → Nat → List FieldInput → Step (List Column)
  | _, _, [] => pure []
  | seen, index, item :: rest => do
    let d ← Run.ofExcept (item.declaration entity index)
    let column ← d.resolve entity
    if seen.contains column.name then
      throw (Failure.element (some entity) (.repeatedField column.name))
    let others ← resolveColumns entity (column.name :: seen) (index + 1) rest
    return column :: others

/-- The names of the columns flagged as primary key. -/
def keyNames (columns : List Column) : List String :=
  (columns.filter Column.isKey).map Column.name

/-- The warning about several flagged keys. -/
def severalKeysWarning (entity : String) (names : List String) : String :=
  s!"[{entity}] " ++ natText names.length ++ " fields flagged as primary key (" ++
    commaList names ++ "); using '" ++ names.headD "" ++ "'."

/-- The problems of the names that a schema is given: a half of a surrogate pair stands in them. -/
def Schema.nameProblems (entity table : String) : List Problem :=
  [("entity_name", entity), ("table_name", table)].filterMap fun (key, name) =>
    if isWhole name then none else some ⟨[.key key], .notUnicode⟩

/-- Stops the settling of a schema whose names are not ones of characters. -/
def Schema.checkNames (entity table : String) : Step Unit :=
  let problems := Schema.nameProblems entity table
  if problems.isEmpty then pure ()
  else throw (.escape (.badSchema ⟨Schema.recordName, problems⟩))

/-- The schema of an entity. -/
def Schema.resolve (entity : String) (table : Option String) (fields : List FieldInput)
    (settings : Settings) : Step Schema := do
  if isBlankText entity then Step.refuse none .blankEntity
  let columns ← resolveColumns entity [] 0 fields
  let names := keyNames columns
  if h : columns.any Column.isKey = true then
    if names.length > 1 then
      if settings.rejectsSeveralKeys then
        throw (Failure.mapping ⟨some entity, .multiplePrimaryKeys names⟩)
      Logged.write .warning .resolution (severalKeysWarning entity names)
    Schema.checkNames entity (tableName entity table)
    return ⟨entity, tableName entity table, columns, h⟩
  else throw (Failure.mapping ⟨some entity, .noPrimaryKey entity⟩)

/-- The schema of a declared entity. -/
def EntityDeclaration.resolve (d : EntityDeclaration) (settings : Settings) : Step Schema :=
  Schema.resolve d.name (some d.table) (d.fields.map .declared) settings

end SqlMapping
