import SqlMapping.Text.Blank

/-!
# Lines and columns
-/

namespace SqlMapping.Text

/-- A text of `n` spaces. -/
def spaces (n : Nat) : String :=
  String.ofList (List.replicate n ' ')

/-- Lines moved right by `level * size` columns; blank lines stay as they are. -/
def indentLines (lines : List String) (level size : Nat) : List String :=
  lines.map fun line => if isBlankText line then line else spaces (level * size) ++ line

/-- A text filled up with spaces on the right to at least `width` characters. -/
def padRight (width : Nat) (s : String) : String :=
  s ++ spaces (width - s.length)

/-- Texts joined by a comma and a space. -/
def commaList (items : List String) : String :=
  String.intercalate ", " items

/-- Lines joined by line feeds. -/
def joinLines (lines : List String) : String :=
  String.intercalate "\n" lines

end SqlMapping.Text
