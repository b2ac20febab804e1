import SqlMapping.Entity.Artifacts
import SqlMapping.Text.CodePoint
import SqlMapping.Text.Digit

/-!
# Artifacts as data text

The artifacts of entities as one text of nested lists and records, indented by two columns a level.
Every character outside printable ASCII is escaped, those beyond sixteen bits by a pair of escapes; a
half of such a pair has the same escape when it stands alone.
-/

namespace SqlMapping.Render

open SqlMapping.Number SqlMapping.Text

/-- A tree of texts, natural numbers, truth values, lists and records. -/
inductive DataTree where
  /-- A text. -/
  | text (s : String)
  /-- A natural number. -/
  | nat (n : Nat)
  /-- A truth value. -/
  | bool (b : Bool)
  /-- A list. -/
  | list (items : List DataTree)
  /-- A record, with its fields in their order. -/
  | record (fields : List (String × DataTree))

/-- A sixteen-bit unit as an escape. -/
def escapeUnit (n : Nat) : List Char :=
  '\\' :: 'u' :: hexDigits 4 n

/-- A character inside a quoted text. -/
def escapeTextChar (c : Char) : List Char :=
  let n := c.toNat
  if c == '"' || c == '\\' then ['\\', c]
  else if c == '\n' then ['\\', 'n']
  else if c == '\r' then ['\\', 'r']
  else if c == '\t' then ['\\', 't']
  else if n = 8 then ['\\', 'b']
  else if n = 12 then ['\\', 'f']
  else if 0x20 ≤ n && n < 0x7f then [c]
  else if n < 0x10000 then escapeUnit n
  else
    escapeUnit (0xd800 + (n - 0x10000) / 0x400) ++ escapeUnit (0xdc00 + (n - 0x10000) % 0x400)

/-- A code point inside a quoted text. -/
def escapeTextPoint : CodePoint → List Char
  | .char c => escapeTextChar c
  | .half c => escapeUnit c.number
  | .loose => [guardChar]

/-- A text between double quotes. -/
def quotedText (s : String) : List Char :=
  '"' :: ((codePoints s.toList).flatMap escapeTextPoint ++ ['"'])

/-- A line feed and the indentation of a level. -/
def newLine (level : Nat) : List Char :=
  '\n' :: List.replicate (2 * level) ' '

/-- Items at a level, each on a line of its own and separated by commas. -/
def joinItems (level : Nat) : List (List Char) → List Char
  | [] => []
  | [item] => newLine level ++ item
  | item :: rest => newLine level ++ item ++ ',' :: joinItems level rest

/-- Items at a level between two brackets. -/
def bracketed (level : Nat) (opening closing : Char) (items : List (List Char)) : List Char :=
  if items.isEmpty then [opening, closing]
  else opening :: joinItems (level + 1) items ++ newLine level ++ [closing]

mutual

/-- The text of a tree at a level. -/
def DataTree.render (level : Nat) : DataTree → List Char
  | .text s => quotedText s
  | .nat n => Nat.toDigits 10 n
  | .bool b => (if b then "true" else "false").toList
  | .list items => bracketed level '[' ']' (renderItems (level + 1) items)
  | .record fields => bracketed level '\x7b' '\x7d' (renderFields (level + 1) fields)

/-- The texts of the items of a list at a level. -/
def renderItems (level : Nat) : List DataTree → List (List Char)
  | [] => []
  | item :: rest => item.render level :: renderItems level rest

/-- The texts of the fields of a record at a level. -/
def renderFields (level : Nat) : List (String × DataTree) → List (List Char)
  | [] => []
  | (key, item) :: rest =>
    (quotedText key ++ ':' :: ' ' :: item.render level) :: renderFields level rest

end

/-- The tree of a binding. -/
def bindingTree (b : Binding) : DataTree :=
  .record [("position", .nat b.position), ("name", .text b.name), ("source", .text b.source.name),
    ("host_type", .text b.hostType)]

/-- The tree of a statement. -/
def statementTree (s : Statement) : DataTree :=
  .record [("operation", .text s.operation), ("sql", .text s.sql),
    ("bind_order", .list (s.bindings.map bindingTree)), ("parameter_count", .nat s.parameterCount)]

/-- The tree of a decode step. -/
def stepTree (s : DecodeStep) : DataTree :=
  .record [("position", .nat s.position), ("column", .text s.column), ("host_type", .text s.hostType),
    ("sql_type", .text s.sqlType), ("decode_function", .text s.decoder.name),
    ("opaque", .bool s.isUntyped)]

/-- The tree of the artifacts of an entity. -/
def artifactsTree (a : Artifacts) : DataTree :=
  .record [("entity_name", .text a.entity), ("table_name", .text a.table),
    ("primary_key", .text a.key), ("ddl", .text a.createTable),
    ("statements",
      .record (Operation.all.map fun op => (op.name, statementTree (a.statement op)))),
    ("queries", .record (a.queries.map fun (name, s) => (name, statementTree s))),
    ("decode_plan", .list (a.decodePlan.map stepTree))]

/-- The text of the artifacts of entities. -/
def dataText (units : List Artifacts) : String :=
  String.ofList ((DataTree.list (units.map artifactsTree)).render 0 ++ ['\n'])

end SqlMapping.Render
