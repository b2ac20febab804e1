/-!
# Words of a name

A name such as `getHTTPResponse2` is cut into segments of ASCII letters and digits. A segment ends
where another character stands, before an upper-case letter that follows a lower-case letter or a
digit, and before the last letter of an upper-case run that a lower-case letter follows. Words are
also cut where letters meet digits.
-/

namespace SqlMapping.Text

/-- Puts a character in front of the first segment. -/
def prependToFirst (c : Char) : List (List Char) → List (List Char)
  | [] => [[c]]
  | segment :: rest => (c :: segment) :: rest

/-- The runs of ASCII letters and digits of a text, cut further before each `d` that follows `c`
and precedes `next` with `cut c d next`. -/
def segments (cut : Char → Char → Option Char → Bool) : List Char → List (List Char)
  | [] => []
  | [c] => if c.isAlphanum then [[c]] else []
  | c :: d :: rest =>
    let others := segments cut (d :: rest)
    if !c.isAlphanum then others
    else if d.isAlphanum && !cut c d rest.head? then prependToFirst c others
    else [c] :: others

/-- Where a change of case starts a new segment. -/
def cutsAtCase (c d : Char) (next : Option Char) : Bool :=
  d.isUpper && (c.isLower || c.isDigit || (c.isUpper && (next.map Char.isLower).getD false))

/-- Where a change of case, or a change between letters and digits, starts a new word. -/
def cutsAtWord (c d : Char) (next : Option Char) : Bool :=
  cutsAtCase c d next || c.isDigit != d.isDigit

/-- The lower-case words of a name. -/
def words (name : String) : List String :=
  (segments cutsAtWord name.toList).map fun w => String.ofList (w.map Char.toLower)

/-- The segments of a name, in lower case and joined by single underscores. -/
def snakeCase (name : String) : String :=
  String.intercalate "_" ((segments cutsAtCase name.toList).map fun w =>
    String.ofList (w.map Char.toLower))

/-- A word with its first letter in upper case and the others in lower case. -/
def capitalize (word : String) : String :=
  match word.toList with
  | [] => ""
  | c :: rest => String.ofList (c.toUpper :: rest.map Char.toLower)

/-- The words of a name, each capitalized and joined without a separator. -/
def pascalCase (name : String) : String :=
  String.join ((words name).map capitalize)

end SqlMapping.Text
