import SqlMapping.Text.CodePoint
import SqlMapping.Text.Digit
import SqlMapping.Value

/-!
# Reading JSON documents

A JSON text as an untyped value. The words `NaN`, `Infinity` and `-Infinity` are numbers too, and
of two entries with one key the last one counts. An escape may stand for a half of a surrogate pair;
two of them that follow each other and make up a character stand for it. A fault is a wording and
the position at which it was noticed. Lists and mappings are nested only as deeply as there is room.
-/

namespace SqlMapping.Document.Json

open SqlMapping.Number SqlMapping.Text

/-- What is wrong with a text. -/
inductive Fault where
  /-- The text is malformed at a position. -/
  | malformed (message : String) (position : Nat)
  /-- An integer has too many digits. -/
  | tooLong (digits : Nat)
  /-- Lists and mappings are nested too deeply. -/
  | tooDeep
deriving DecidableEq

/-- The rest of a text and its position. -/
structure Cursor where
  /-- The characters that are left. -/
  rest : List Char
  /-- The number of characters before them. -/
  position : Nat

/-- Whether a character may stand between the parts of a text. -/
def isSpace (c : Char) : Bool :=
  c == ' ' || c == '\t' || c == '\n' || c == '\r'

namespace Cursor

/-- The cursor after `n` more characters. -/
def advance (n : Nat) (c : Cursor) : Cursor :=
  ⟨c.rest.drop n, c.position + n⟩

/-- The cursor after the spaces that follow. -/
def skipSpaces (c : Cursor) : Cursor :=
  c.advance (c.rest.takeWhile isSpace).length

/-- The failure at a cursor. -/
def fail {α : Type} (c : Cursor) (message : String) : Except Fault (α × Cursor) :=
  .error (.malformed message c.position)

/-- The failure that no value begins at a cursor. -/
def noValue {α : Type} (c : Cursor) : Except Fault (α × Cursor) :=
  c.fail "Expecting value"

/-- Whether a word follows. -/
def startsWith (c : Cursor) (word : String) : Bool :=
  word.toList.isPrefixOf c.rest

end Cursor

/-- The value of four hexadecimal digits, if they follow. -/
def hexUnit? (cs : List Char) : Option Nat :=
  match cs with
  | a :: b :: c :: d :: _ => do
    let a ← hexValue? a
    let b ← hexValue? b
    let c ← hexValue? c
    let d ← hexValue? d
    return ((a * 16 + b) * 16 + c) * 16 + d
  | _ => none

/-- The character of a simple escape. -/
def simpleEscape? (c : Char) : Option Char :=
  match c with
  | '"' => some '"'
  | '\\' => some '\\'
  | '/' => some '/'
  | 'b' => some '\x08'
  | 'f' => some '\x0c'
  | 'n' => some '\n'
  | 'r' => some '\r'
  | 't' => some '\t'
  | _ => none

/-- Whether a number is that of a half that comes first in a pair. -/
def isHighHalf (n : Nat) : Bool :=
  0xd800 ≤ n && n < 0xdc00

/-- Whether a number is that of a half that comes second in a pair. -/
def isLowHalf (n : Nat) : Bool :=
  0xdc00 ≤ n && n < 0xe000

/-- The character that two halves make up. -/
def joinHalves (high low : Nat) : Char :=
  Char.ofNat (0x10000 + (high - 0xd800) * 0x400 + (low - 0xdc00))

/-- Reads the escape after a backslash that `c` follows: the code point, and how many characters
the escape takes. Two escapes of halves of a pair make one character. -/
def readEscape (c : Cursor) : Except Fault (CodePoint × Nat) :=
  let wrong : Except Fault (CodePoint × Nat) :=
    .error (.malformed "Invalid \\uXXXX escape" (c.position))
  match c.rest with
  | 'u' :: digits =>
    if digits.length < 5 then wrong
    else match hexUnit? digits with
      | none => wrong
      | some high =>
        let single : Except Fault (CodePoint × Nat) := .ok (.ofNumber high, 5)
        if isHighHalf high && 11 ≤ digits.length then
          match digits.drop 4 with
          | '\\' :: 'u' :: more =>
            match hexUnit? more with
            | none => .error (.malformed "Invalid \\uXXXX escape" (c.position + 6))
            | some low =>
              if isLowHalf low then .ok (.char (joinHalves high low), 11) else single
          | _ => single
        else single
  | e :: _ =>
    match simpleEscape? e with
    | some ch => .ok (.char ch, 1)
    | none => .error (.malformed "Invalid \\escape" (c.position - 1))
  | [] => .error (.malformed "Unterminated string starting at" c.position)

/-- Reads the rest of a quoted text that begins at `start`, at most `fuel` characters of it. -/
def readTextFrom (start : Nat) : Nat → Cursor → Except Fault (List Char × Cursor)
  | 0, _ => .error (.malformed "Unterminated string starting at" start)
  | fuel + 1, c =>
    match c.rest with
    | [] => .error (.malformed "Unterminated string starting at" start)
    | '"' :: _ => .ok ([], c.advance 1)
    | '\\' :: rest =>
      if rest.isEmpty then .error (.malformed "Unterminated string starting at" start)
      else do
        let (p, size) ← readEscape (c.advance 1)
        let (others, c) ← readTextFrom start fuel (c.advance (1 + size))
        return (p.spelling ++ others, c)
    | ch :: _ =>
      if ch.toNat < 0x20 then c.fail "Invalid control character at"
      else do
        let (others, c) ← readTextFrom start fuel (c.advance 1)
        return (ch :: others, c)

/-- Reads a quoted text at its opening quote. -/
def readText (c : Cursor) : Except Fault (String × Cursor) := do
  let (cs, after) ← readTextFrom c.position (c.rest.length + 1) (c.advance 1)
  return (String.ofList cs, after)

/-- How many digits follow. -/
def digitCount (cs : List Char) : Nat :=
  (cs.takeWhile Char.isDigit).length

/-- How many characters of a fraction follow. -/
def fractionSize : List Char → Nat
  | '.' :: rest => if digitCount rest = 0 then 0 else 1 + digitCount rest
  | _ => 0

/-- How many characters of an exponent follow. -/
def exponentSize : List Char → Nat
  | e :: rest =>
    if e == 'e' || e == 'E' then
      let signs := match rest with
        | '+' :: _ | '-' :: _ => 1
        | _ => 0
      let digits := digitCount (rest.drop signs)
      if digits = 0 then 0 else 1 + signs + digits
    else 0
  | [] => 0

/-- Reads a number. -/
def readNumber (c : Cursor) : Except Fault (Value × Cursor) :=
  let negative := c.rest.head? == some '-'
  let start := if negative then 1 else 0
  let body := c.rest.drop start
  let whole := if body.head? == some '0' then 1 else digitCount body
  if whole = 0 then c.noValue
  else
    let fraction := fractionSize (body.drop whole)
    let exponent := exponentSize (body.drop (whole + fraction))
    let after := c.advance (start + whole + fraction + exponent)
    if fraction + exponent = 0 then
      if whole > digitLimit then .error (.tooLong whole)
      else
        .ok (.int (signed negative (ofDigits ((body.take whole).map (·.toNat - 48)))), after)
    else
      let number := Real64.readDecimal negative (body.take (whole + fraction + exponent))
      .ok (.real (number.getD .nan), after)

/-- Reads a value that is one word. -/
def readWord? (c : Cursor) : Option (Value × Cursor) :=
  [("null", Value.null), ("true", .bool true), ("false", .bool false), ("NaN", .real .nan),
    ("Infinity", .real (.infinite false)), ("-Infinity", .real (.infinite true))].findSome?
    fun (word, v) => if c.startsWith word then some (v, c.advance word.length) else none

mutual

/-- Reads a value in the room for so many levels of lists and mappings; the fuel bounds how many
values and items are read in turn. -/
def readValue (room : Nat) : Nat → Cursor → Except Fault (Value × Cursor)
  | 0, c => c.noValue
  | fuel + 1, c =>
    match c.rest with
    | '"' :: _ => do
      let (s, c) ← readText c
      return (.text s, c)
    | '[' :: _ =>
      match room with
      | 0 => .error .tooDeep
      | inner + 1 =>
        let c := (c.advance 1).skipSpaces
        if c.rest.head? == some ']' then .ok (.list [], c.advance 1)
        else do
          let (items, c) ← readItems inner fuel c
          return (.list items, c)
    | '\x7b' :: _ =>
      match room with
      | 0 => .error .tooDeep
      | inner + 1 =>
        let c := (c.advance 1).skipSpaces
        if c.rest.head? == some '\x7d' then .ok (.mapping [], c.advance 1)
        else do
          let (entries, c) ← readEntries inner fuel [] c
          return (.mapping entries, c)
    | _ =>
      match readWord? c with
      | some reading => .ok reading
      | none => readNumber c

/-- Reads the items of a list up to its closing bracket. -/
def readItems (room : Nat) : Nat → Cursor → Except Fault (List Value × Cursor)
  | 0, c => c.noValue
  | fuel + 1, c => do
    let (v, c) ← readValue room fuel c
    let c := c.skipSpaces
    match c.rest with
    | ']' :: _ => return ([v], c.advance 1)
    | ',' :: _ =>
      let (others, c) ← readItems room fuel (c.advance 1).skipSpaces
      return (v :: others, c)
    | _ => c.fail "Expecting ',' delimiter"

/-- Reads the entries of a mapping, after those given, up to its closing brace. -/
def readEntries (room : Nat) :
    Nat → List (Value × Value) → Cursor → Except Fault (List (Value × Value) × Cursor)
  | 0, _, c => c.noValue
  | fuel + 1, entries, c =>
    if c.rest.head? != some '"' then c.fail "Expecting property name enclosed in double quotes"
    else do
      let (key, c) ← readText c
      let c := c.skipSpaces
      if c.rest.head? != some ':' then c.fail "Expecting ':' delimiter"
      else
        let (v, c) ← readValue room fuel (c.advance 1).skipSpaces
        let c := c.skipSpaces
        let entries := Value.insertKey (.text key) v entries
        match c.rest with
        | '\x7d' :: _ => return (entries, c.advance 1)
        | ',' :: _ => readEntries room fuel entries (c.advance 1).skipSpaces
        | _ => c.fail "Expecting ',' delimiter"

end

/-- The value of a text, in the room for so many levels of lists and mappings. -/
def read (room : Nat) (s : String) : Except Fault Value :=
  let cs := s.toList
  if cs.head? == some '\ufeff' then
    .error (.malformed "Unexpected UTF-8 BOM (decode using utf-8-sig)" 0)
  else do
    let (v, c) ← readValue room (2 * cs.length + 2) (Cursor.mk cs 0).skipSpaces
    let c := c.skipSpaces
    if c.rest.isEmpty then return v else throw (.malformed "Extra data" c.position)

/-- The wording for a text that is malformed at a position: lines and columns are counted from 1, and
code points are. -/
def malformedMessage (s message : String) (position : Nat) : String :=
  let before := codePoints (s.toList.take position)
  let line := before.count (.char '\n') + 1
  let column := (before.reverse.takeWhile (· != .char '\n')).length + 1
  message ++ ": line " ++ natText line ++ " column " ++ natText column ++ " (char " ++
    natText before.length ++ ")"

end SqlMapping.Document.Json
