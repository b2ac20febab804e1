/-!
# Places in a YAML text

A place knows its line and its column, which decide about the structure of a text. The end of the
text reads as the zero character, which no text holds.
-/

namespace SqlMapping.Document.Yaml

/-- A place in a text. -/
structure Cursor where
  /-- The characters that are left. -/
  rest : List Char
  /-- The number of characters before. -/
  index : Nat := 0
  /-- The number of line breaks before. -/
  line : Nat := 0
  /-- The number of characters between the last line break and the place. -/
  column : Nat := 0

/-- Whether a character breaks a line. -/
def isBreak (c : Char) : Bool :=
  c == '\n' || c == '\x85' || c == '\u2028' || c == '\u2029'

/-- Whether a line ends at a character. -/
def isLineEnd (c : Char) : Bool :=
  c == '\x00' || isBreak c

/-- Whether a line ends at a character, or a space stands there. -/
def isSpaceOrEnd (c : Char) : Bool :=
  c == ' ' || isLineEnd c

/-- Whether a line ends at a character, or a space or a tab stands there. -/
def isGap (c : Char) : Bool :=
  c == '\t' || isSpaceOrEnd c

/-- Whether a character may stand in the name of an anchor or of a handle. -/
def isNameChar (c : Char) : Bool :=
  c.isAlphanum || c == '-' || c == '_'

namespace Cursor

/-- The character `k` places further on. -/
def peek (c : Cursor) (k : Nat) : Char :=
  (c.rest.drop k).headD '\x00'

/-- The next character. -/
def next (c : Cursor) : Char :=
  c.rest.headD '\x00'

/-- The place one character further on. -/
def step (c : Cursor) : Cursor :=
  match c.rest with
  | [] => c
  | ch :: rest =>
    if isBreak ch then ⟨rest, c.index + 1, c.line + 1, 0⟩
    else ⟨rest, c.index + 1, c.line, if ch = '\ufeff' then c.column else c.column + 1⟩

/-- The place `n` characters further on. -/
def advance : Nat → Cursor → Cursor
  | 0, c => c
  | n + 1, c => advance n c.step

/-- The characters that follow and belong to a class. -/
def following (c : Cursor) (p : Char → Bool) : List Char :=
  c.rest.takeWhile p

/-- The place after the characters that follow and belong to a class. -/
def skip (c : Cursor) (p : Char → Bool) : Cursor :=
  c.advance (c.following p).length

/-- The place after the spaces that follow. -/
def skipSpaces (c : Cursor) : Cursor :=
  c.skip (· == ' ')

/-- The place after the spaces and the comment that follow. -/
def skipComment (c : Cursor) : Cursor :=
  let c := c.skipSpaces
  if c.next = '#' then c.skip (fun ch => !isLineEnd ch) else c

/-- The characters of the line break that follows, and the place after it. -/
def takeBreak (c : Cursor) : List Char × Cursor :=
  let ch := c.next
  if ch = '\n' || ch = '\x85' then (['\n'], c.step)
  else if isBreak ch then ([ch], c.step)
  else ([], c)

/-- Whether a marker of three equal characters follows that stands on its own. -/
def atMarker (c : Cursor) (ch : Char) : Bool :=
  c.peek 0 == ch && c.peek 1 == ch && c.peek 2 == ch && isGap (c.peek 3)

/-- Whether a marker follows that separates documents. -/
def atSeparator (c : Cursor) : Bool :=
  c.atMarker '-' || c.atMarker '.'

end Cursor

end SqlMapping.Document.Yaml
