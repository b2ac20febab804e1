import SqlMapping.Text.Delimited

/-!
# Names in statements

A name stands between back quotes in every statement, so that it may hold any character.
-/

namespace SqlMapping.Statement

/-- A name as it stands in a statement. -/
def quoteName (s : String) : String :=
  Text.delimit '\x60' s

end SqlMapping.Statement
