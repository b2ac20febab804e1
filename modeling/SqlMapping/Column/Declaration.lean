import SqlMapping.Column.Default
import SqlMapping.Column.Reference
import SqlMapping.Column.Type

/-!
# Field declarations

A field as it is declared: its column type may be missing, and its size may be written after the
type, as in `VARCHAR(50)`. A size on its own wins over one written after the type.
-/

namespace SqlMapping

open SqlMapping.Number SqlMapping.Shape SqlMapping.Text

/-- A declared field. -/
structure FieldDeclaration where
  /-- The name of the field and of its column. -/
  name : String
  /-- The type of the field in the host program. -/
  hostType : String := "object"
  /-- The column type. -/
  columnType : Option ColumnType := none
  /-- The size asked for. -/
  size : Option Nat := none
  /-- Whether the field is flagged as primary key. -/
  isKey : Bool := false
  /-- Whether the values of the column are distinct. -/
  isUnique : Bool := false
  /-- Whether the column always has a value. -/
  isNotNull : Bool := false
  /-- The default. -/
  default : Option DefaultValue := none
  /-- The column of another table that the field refers to. -/
  reference : Option Reference := none
deriving DecidableEq

namespace FieldDeclaration

/-- The name of the record in reports. -/
def recordName : String := "RawFieldDecl"

/-- The keys of the column type; the first one that is present counts. -/
def typeKeys : List String := ["type", "column_type"]

/-- The size text after a type: what stands between its first opening and its last closing
parenthesis, if blanks alone follow the latter. -/
def sizeSuffix? (cs : List Char) : Option (List Char) :=
  if cs.contains '(' && (trimEndWith isBlank cs).getLast? == some ')' then
    let inner := (cs.dropWhile (· != '(')).drop 1
    some (trimWith isBlank ((inner.reverse.dropWhile (· != ')')).drop 1).reverse)
  else none

/-- The most characters of a faulty number that a message shows. -/
def shownCharacters : Nat := 200

/-- What is said of a text that is not an integer. -/
def badIntegerMessage (cs : List Char) : String :=
  "invalid literal for int() with base 10: " ++
    String.ofList ((quoteList cs).take shownCharacters)

/-- The entries with the size that is written after the type, unless a size is given. -/
def moveSize (raw : String) (entries : Entries) : Except String Entries :=
  match sizeSuffix? raw.toList with
  | none => .ok entries
  | some digits =>
    if digits.isEmpty || !digits.all isDigitLike then
      .error s!"Size suffix in '{raw}' must be a single whole number."
    else
      match Value.get? "size" entries with
      | none | some .null =>
        match readInteger digits with
        | .ok n => .ok (Value.insertKey (.text "size") (.int n) entries)
        | .error .malformed => .error (badIntegerMessage digits)
        | .error (.tooLong n) => .error (readLimitMessage n)
      | some _ => .ok entries

/-- The entries with the size moved out of the type and the type given by its plain name, when the
type is a text. -/
def splitType (entries : Entries) : Except String Entries :=
  match findField typeKeys entries with
  | some (key, .text raw) => do
    let sized ← moveSize raw entries
    match ColumnType.parse? raw with
    | some t => .ok (Value.insertKey (.text key) (.text t.name) sized)
    | none => .error (ColumnType.unknownMessage raw)
  | _ => .ok entries

/-- Reads a column type from its plain name. -/
def readColumnType : Value → Checked ColumnType :=
  readOneOf ColumnType.all ColumnType.name

/-- Reads the fields of a declaration. -/
def readFields (room : Nat) : Value → Checked FieldDeclaration :=
  readRecord recordName
    [["name"], ["host_type"], typeKeys, ["size"], ["primary_key"], ["unique"], ["not_null"],
      ["default"], ["foreign_key"]]
    fun entries => FieldDeclaration.mk
      <$> required ["name"] readNonEmptyText entries
      <*> optional ["host_type"] "object" readText entries
      <*> optional typeKeys none (nullable readColumnType) entries
      <*> optional ["size"] none (nullable readNat) entries
      <*> optional ["primary_key"] false readBool entries
      <*> optional ["unique"] false readBool entries
      <*> optional ["not_null"] false readBool entries
      <*> optional ["default"] none (nullable (DefaultValue.read room)) entries
      <*> optional ["foreign_key"] none (nullable Reference.read) entries

/-- Reads a declared field, with room for so many levels of a default that is refused. A fault in the
type text hides every other problem. -/
def read (room : Nat) : Value → Checked FieldDeclaration
  | .mapping entries =>
    match splitType entries with
    | .ok plain => readFields room (.mapping plain)
    | .error reason => .flaw (.refused reason)
  | v => readFields room v

/-- The short text of a declared field. -/
def label (d : FieldDeclaration) : String :=
  let type := (d.columnType.map ColumnType.name).getD "?"
  s!"<RawField {d.name}: {d.hostType} {type}>"

end FieldDeclaration

end SqlMapping
