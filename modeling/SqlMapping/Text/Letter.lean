import SqlMapping.Text.Digit
import SqlMapping.Text.LetterTable

/-!
# Identifiers

An identifier starts with a letter or an underscore and goes on with letters, digits and
underscores, in any script. A plain name is one of ASCII characters alone.
-/

namespace SqlMapping.Text

/-- Whether a character may stand first in an identifier. -/
def isIdentifierStart (c : Char) : Bool :=
  c.isAlpha || c == '_' || identifierStarts.contains c

/-- Whether a character may stand after the first place of an identifier. -/
def isIdentifierPart (c : Char) : Bool :=
  c.isAlphanum || c == '_' || identifierParts.contains c

/-- Whether a text is an identifier. -/
def isIdentifier (s : String) : Bool :=
  match s.toList with
  | [] => false
  | c :: rest => isIdentifierStart c && rest.all isIdentifierPart

/-- Whether a character may stand first in a plain name. -/
def isPlainStart (c : Char) : Bool :=
  c.isAlpha || c == '_'

/-- Whether a character may stand after the first place of a plain name. -/
def isPlainPart (c : Char) : Bool :=
  c.isAlphanum || c == '_'

/-- Whether a list of characters is a plain name: an ASCII letter or an underscore, then ASCII
letters, digits and underscores. -/
def isPlainNameList : List Char → Bool
  | [] => false
  | c :: rest => isPlainStart c && rest.all isPlainPart

/-- Whether a text is a plain name. -/
def isPlainName (s : String) : Bool :=
  isPlainNameList s.toList

/-- Whether a text is a plain name, or a plain name followed by one line feed. -/
def isPlainNameLine (s : String) : Bool :=
  let cs := s.toList
  isPlainNameList cs || (cs.getLast? == some '\n' && isPlainNameList cs.dropLast)

end SqlMapping.Text
