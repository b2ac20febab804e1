import SqlMapping.Text.Letter
import SqlMapping.Text.Words

/-!
# Safe identifiers

Any name can be turned into an identifier that is neither a keyword of the rendered modules nor
one of the built-in names that a parameter would hide.
-/

namespace SqlMapping.Text

/-- Keywords of the rendered modules. -/
def moduleKeywords : List String :=
  ["False", "None", "True", "and", "as", "assert", "async", "await", "break", "class",
   "continue", "def", "del", "elif", "else", "except", "finally", "for", "from", "global", "if",
   "import", "in", "is", "lambda", "nonlocal", "not", "or", "pass", "raise", "return", "try",
   "while", "with", "yield"]

/-- Built-in names that a parameter of the same name would hide. -/
def hiddenBuiltins : List String :=
  ["id", "type", "list", "dict", "set", "str", "int", "float", "bool", "bytes", "object", "hash",
   "input", "print", "range", "len", "map", "filter", "zip", "format", "iter", "next", "open"]

/-- Whether a name may not be used as it is. -/
def isTakenWord (s : String) : Bool :=
  moduleKeywords.contains s || hiddenBuiltins.contains s

/-- A name as an identifier: kept when it is one, else in snake case, with an underscore before a
leading digit and one after a taken word. -/
def safeIdentifier (name : String) : String :=
  let base := if isIdentifier name then name else snakeCase name
  match base.toList with
  | [] => "_unnamed"
  | c :: _ =>
    let started := if isDigitLike c then "_" ++ base else base
    if isTakenWord started then started ++ "_" else started

end SqlMapping.Text
