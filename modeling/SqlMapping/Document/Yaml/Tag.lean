import SqlMapping.Document.Yaml.Cursor
import SqlMapping.Text.Digit
import SqlMapping.Text.Utf8

/-!
# Tags of a YAML text

A tag is written with a handle that stands for the beginning of the full tag, or in full between
angle brackets. A plain scalar without a tag gets one from its text.
-/

namespace SqlMapping.Document.Yaml

open SqlMapping.Text

/-! ## Tags as they are written -/

/-- What the standard tags begin with. -/
def standard : String := "tag:yaml.org,2002:"

/-- The handles that every document has, with what they stand for. -/
def defaultHandles : List (String × String) :=
  [("!", "!"), ("!!", standard)]

/-- Whether a character may stand in a tag. -/
def isTagChar (c : Char) : Bool :=
  c.isAlphanum || "-;/?:@&=+$,_.!~*'()[]%".toList.contains c

/-- Reads escaped bytes, each a percent sign and two hexadecimal digits. -/
def readEscapedBytes : Nat → Cursor → Option (List UInt8 × Cursor)
  | 0, c => some ([], c)
  | fuel + 1, c =>
    if c.next != '%' then some ([], c)
    else do
      let high ← hexValue? (c.peek 1)
      let low ← hexValue? (c.peek 2)
      let (others, c) ← readEscapedBytes fuel (c.advance 3)
      return (byte (16 * high + low) :: others, c)

/-- Reads the characters of a tag. -/
def readTagChars : Nat → Cursor → Option (List Char × Cursor)
  | 0, c => some ([], c)
  | fuel + 1, c =>
    if c.next = '%' then do
      let (bytes, c) ← readEscapedBytes (c.rest.length + 1) c
      let first ← (decodeUtf8 bytes).toOption
      let (others, c) ← readTagChars fuel c
      return (first.toList ++ others, c)
    else if isTagChar c.next then do
      let (others, after) ← readTagChars fuel c.step
      return (c.next :: others, after)
    else some ([], c)

/-- Reads the text of a tag, which may not be empty. -/
def readTagText (c : Cursor) : Option (String × Cursor) := do
  let (cs, after) ← readTagChars (c.rest.length + 1) c
  if c.index = after.index then none else some (String.ofList cs, after)

/-- Reads a handle: an exclamation mark alone, or a name between two of them. -/
def readHandle (c : Cursor) : Option (String × Cursor) :=
  if c.next != '!' then none
  else if c.peek 1 = ' ' then some ("!", c.step)
  else
    let name := c.step.following isNameChar
    if c.peek (1 + name.length) = '!' then
      some (String.ofList ('!' :: name ++ ['!']), c.advance (2 + name.length))
    else none

/-- A tag as it is written: a handle, unless the tag is written in full, and what follows it. -/
structure WrittenTag where
  /-- The handle. -/
  handle : Option String
  /-- The rest of the tag. -/
  rest : String
deriving DecidableEq

/-- Reads a tag at its exclamation mark. -/
def readTag (c : Cursor) : Option (WrittenTag × Cursor) := do
  let (tag, c) ←
    if c.peek 1 = '<' then do
      let (rest, c) ← readTagText (c.advance 2)
      if c.next = '>' then some ((⟨none, rest⟩ : WrittenTag), c.step) else none
    else if isGap (c.peek 1) then some ((⟨none, "!"⟩ : WrittenTag), c.step)
    else do
      let word := c.step.following fun ch => !isSpaceOrEnd ch
      let (handle, c) ← if word.contains '!' then readHandle c else some ("!", c.step)
      let (rest, c) ← readTagText c
      some ((⟨some handle, rest⟩ : WrittenTag), c)
  if isSpaceOrEnd c.next then some (tag, c) else none

/-- The full tag. -/
def WrittenTag.resolve? (handles : List (String × String)) (t : WrittenTag) : Option String :=
  match t.handle with
  | none => some t.rest
  | some handle => (handles.lookup handle).map fun start => start ++ t.rest

/-! ## Tags of plain scalars -/

/-- Whether a list of characters is a nonempty run of members of a class. -/
def isRun (p : Char → Bool) (cs : List Char) : Bool :=
  !cs.isEmpty && cs.all p

/-- Whether a character is a digit or an underscore. -/
def isSpacedDigit (c : Char) : Bool :=
  c.isDigit || c == '_'

/-- A text without a sign. -/
def dropSign : List Char → List Char
  | '+' :: rest => rest
  | '-' :: rest => rest
  | cs => cs

/-- The words that stand for truth values. -/
def booleanWords : List (String × Bool) :=
  [("yes", true), ("no", false), ("true", true), ("false", false), ("on", true), ("off", false)]

/-- A word in lower case, with a capital, and in capitals. -/
def spellings (word : String) : List String :=
  let cs := word.toList
  [word, String.ofList ((cs.take 1).map Char.toUpper ++ cs.drop 1),
    String.ofList (cs.map Char.toUpper)]

/-- Whether a text is one of some words in one of their spellings. -/
def isSpelling (words : List String) (s : String) : Bool :=
  words.any fun word => (spellings word).contains s

/-- Whether a list of characters is a number below sixty of one or two digits. -/
def isSixtieth : List Char → Bool
  | [a] => a.isDigit
  | [a, b] => '0' ≤ a && a ≤ '5' && b.isDigit
  | _ => false

/-- A list of characters cut at every colon. -/
def cutAtColons : List Char → List (List Char)
  | [] => [[]]
  | c :: rest =>
    match cutAtColons rest with
    | first :: others => if c = ':' then [] :: first :: others else (c :: first) :: others
    | [] => [[c]]

/-- Whether an exponent with a sign stands there, or nothing. -/
def isExponent : List Char → Bool
  | [] => true
  | e :: sign :: digits =>
    (e == 'e' || e == 'E') && (sign == '+' || sign == '-') && isRun Char.isDigit digits
  | _ => false

/-- Whether a list of characters is a fraction and an exponent after a decimal point. -/
def isFractionTail (cs : List Char) : Bool :=
  isExponent (cs.dropWhile isSpacedDigit)

/-- Whether a list of characters is a run of digits and underscores that starts with a digit. -/
def startsDigits (cs : List Char) : Bool :=
  (cs.head?.map Char.isDigit).getD false && cs.all isSpacedDigit

/-- Whether a text is written in base sixty with a fraction. -/
def isSexagesimalReal (cs : List Char) : Bool :=
  let whole := cs.takeWhile (· != '.')
  let tail := cs.dropWhile (· != '.')
  match cutAtColons whole with
  | first :: others =>
    startsDigits first && !others.isEmpty && others.all isSixtieth && !tail.isEmpty &&
      (tail.drop 1).all isSpacedDigit
  | [] => false

/-- Whether a plain text is a number with a fraction, infinity or no number. -/
def looksReal (cs : List Char) : Bool :=
  let body := dropSign cs
  let whole := body.takeWhile isSpacedDigit
  let tail := body.drop whole.length
  (startsDigits whole && tail.head? == some '.' && isFractionTail (tail.drop 1)) ||
    (match cs with
      | '.' :: d :: rest => d.isDigit && isFractionTail rest
      | _ => false) ||
    isSexagesimalReal body ||
    (match body with
      | '.' :: word => isSpelling ["inf"] (String.ofList word)
      | _ => false) ||
    [".nan", ".NaN", ".NAN"].contains (String.ofList cs)

/-- Whether a plain text is an integer in base two, eight, ten, sixteen or sixty. -/
def looksInteger (cs : List Char) : Bool :=
  match dropSign cs with
  | ['0'] => true
  | '0' :: 'b' :: digits => isRun (fun c => c == '0' || c == '1' || c == '_') digits
  | '0' :: 'x' :: digits => isRun (fun c => (hexValue? c).isSome || c == '_') digits
  | '0' :: digits => isRun (fun c => ('0' ≤ c && c ≤ '7') || c == '_') digits
  | body =>
    match cutAtColons body with
    | first :: others =>
      startsDigits first && first.head? != some '0' && others.all isSixtieth
    | [] => false

/-- Takes one or two digits. -/
def takeOneOrTwo : List Char → Option (List Char)
  | a :: b :: rest => if a.isDigit then (if b.isDigit then some rest else some (b :: rest)) else none
  | [a] => if a.isDigit then some [] else none
  | [] => none

/-- Takes a number of digits. -/
def takeExactly : Nat → List Char → Option (List Char)
  | 0, cs => some cs
  | n + 1, c :: rest => if c.isDigit then takeExactly n rest else none
  | _ + 1, [] => none

/-- Takes a character. -/
def takeChar (c : Char) : List Char → Option (List Char)
  | d :: rest => if c = d then some rest else none
  | [] => none

/-- Whether an offset stands there, or nothing. -/
def isOffset (cs : List Char) : Bool :=
  match cs.dropWhile (fun c => c == ' ' || c == '\t') with
  | [] => cs.isEmpty
  | ['Z'] => true
  | sign :: rest =>
    (sign == '+' || sign == '-') &&
      match takeOneOrTwo rest with
      | some [] => true
      | some (':' :: minutes) => takeExactly 2 minutes == some []
      | _ => false

/-- Whether a time of day stands there, with an optional fraction and offset. -/
def isTimeOfDay (cs : List Char) : Bool :=
  let tail := do
    let cs ← takeOneOrTwo cs
    let cs ← takeExactly 2 (← takeChar ':' cs)
    takeExactly 2 (← takeChar ':' cs)
  match tail with
  | some ('.' :: rest) => isOffset (rest.dropWhile Char.isDigit)
  | some rest => isOffset rest
  | none => false

/-- Whether a time of day stands after a separator: the letter T, or spaces and tabs. -/
def isTimePart : List Char → Bool
  | c :: rest =>
    if c == 'T' || c == 't' then isTimeOfDay rest
    else if c == ' ' || c == '\t' then
      isTimeOfDay (rest.dropWhile fun c => c == ' ' || c == '\t')
    else false
  | [] => false

/-- Whether a plain text is a date, or a date with a time of day. -/
def looksTimestamp (cs : List Char) : Bool :=
  let shortDate := do
    let cs ← takeChar '-' (← takeExactly 4 cs)
    let cs ← takeChar '-' (← takeExactly 2 cs)
    takeExactly 2 cs
  let longDate := do
    let cs ← takeChar '-' (← takeExactly 4 cs)
    let cs ← takeChar '-' (← takeOneOrTwo cs)
    takeOneOrTwo cs
  shortDate == some [] || (longDate.map isTimePart).getD false

/-- The tag of a plain scalar, without what all standard tags begin with. -/
def plainKind (s : String) : String :=
  let cs := s.toList
  if isSpelling (booleanWords.map Prod.fst) s then "bool"
  else if looksReal cs then "float"
  else if looksInteger cs then "int"
  else if s = "<<" then "merge"
  else if s = "" || s = "~" || isSpelling ["null"] s then "null"
  else if looksTimestamp cs then "timestamp"
  else if s = "=" then "value"
  else "str"

/-- The tag of a plain scalar. -/
def plainTag (s : String) : String :=
  standard ++ plainKind s

end SqlMapping.Document.Yaml
