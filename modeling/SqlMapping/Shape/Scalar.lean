import SqlMapping.Shape.Checked
import SqlMapping.Text.Utf8
import SqlMapping.Value

/-!
# Scalars out of untyped values

Texts, integers and truth values are read leniently: bytes stand for the text they encode, and
texts and numbers stand for the integer or truth value they denote. A text may hold halves of
surrogate pairs only where nothing more is asked of it.
-/

namespace SqlMapping.Shape

open SqlMapping.Number SqlMapping.Text

/-- Reads a text. -/
def readText : Value → Checked String
  | .text s => .valid s
  | .bytes .view _ => .flaw .notText
  | .bytes _ data =>
    match decodeUtf8 data with
    | .ok s => .valid s
    | .error _ => .flaw .notUnicode
  | _ => .flaw .notText

/-- Goes on with a text if it is one of characters alone. -/
def ifWhole {α : Type} (s : String) (result : Checked α) : Checked α :=
  if isWhole s then result else .flaw .notUnicode

/-- Reads a text of characters that is not empty. -/
def readNonEmptyText (v : Value) : Checked String :=
  (readText v).andThen fun s => ifWhole s (if s = "" then .flaw .emptyText else .valid s)

/-- The value of an ASCII digit. -/
def asciiDigit? (c : Char) : Option Nat :=
  if c.isDigit then some (c.toNat - 48) else none

/-- Reads an integer from a text: a sign, digits with single underscores between them, and
possibly a point followed by zeros. -/
def integerOfText (cs : List Char) : Checked Int :=
  let (negative, body) := splitSign (trimWith isWhiteSpace cs)
  let wholeTail := fun (tail : List Char) => match tail with
    | [] => true
    | '.' :: zeros => !zeros.isEmpty && zeros.all (· == '0')
    | _ => false
  if body.head? == some '_' then .flaw .unreadableInteger
  else match scanDigits asciiDigit? body with
    | none => .flaw .unreadableInteger
    | some (digits, tail) =>
      if digits.isEmpty || !wholeTail tail then .flaw .unreadableInteger
      else if (digits.dropWhile (· == 0)).length > digitLimit then .flaw .oversizedInteger
      else .valid (signed negative (ofDigits digits))

/-- The greatest magnitude below which a floating-point number is taken for an integer. -/
def wordBound : Int := Int.pow 2 63

/-- Reads an integer from a floating-point number. -/
def integerOfReal (x : Real64) : Checked Int :=
  match x.parts? with
  | none => .flaw .notFinite
  | some _ =>
    match x.toInt? with
    | none => .flaw .fractionalInteger
    | some n => if -wordBound < n && n < wordBound then .valid n else .flaw .oversizedInteger

/-- Reads an integer from a decimal number. -/
def integerOfDecimal (d : Decimal) : Checked Int :=
  match d.truncate? with
  | none => .flaw .notFinite
  | some _ =>
    match d.toInt? with
    | none => .flaw .fractionalInteger
    | some n => .valid n

/-- Reads an integer. -/
def readInt : Value → Checked Int
  | .int n => .valid n
  | .bool b => .valid (if b then 1 else 0)
  | .real x => integerOfReal x
  | .decimal d => integerOfDecimal d
  | .text s => ifWhole s (integerOfText s.toList)
  | .bytes .fixed data =>
    match decodeUtf8 data with
    | .ok s => integerOfText s.toList
    | .error _ => .flaw .unreadableInteger
  | _ => .flaw .notInteger

/-- Reads an integer that is not below `least`. -/
def readIntFrom (least : Int) (v : Value) : Checked Int :=
  (readInt v).andThen fun n => if n < least then .flaw (.below least) else .valid n

/-- Reads a natural number. -/
def readNat (v : Value) : Checked Nat :=
  (readIntFrom 0 v).map Int.toNat

/-- Reads a natural number between two bounds. -/
def readNatBetween (least greatest : Nat) (v : Value) : Checked Nat :=
  (readInt v).andThen fun n =>
    if n < Int.ofNat least then .flaw (.below (Int.ofNat least))
    else if n > Int.ofNat greatest then .flaw (.above (Int.ofNat greatest))
    else .valid n.toNat

/-- The words that stand for false. -/
def falseWords : List String := ["0", "off", "f", "false", "n", "no"]

/-- The words that stand for true. -/
def trueWords : List String := ["1", "on", "t", "true", "y", "yes"]

/-- Reads a truth value from a word in any case. -/
def booleanOfText (s : String) : Checked Bool :=
  let word := String.ofList (s.toList.map Char.toLower)
  if falseWords.contains word then .valid false
  else if trueWords.contains word then .valid true
  else .flaw .unreadableBoolean

/-- Reads a truth value from an integer. -/
def booleanOfInt (n : Int) : Checked Bool :=
  if n = 0 then .valid false else if n = 1 then .valid true else .flaw .unreadableBoolean

/-- Reads a truth value from a floating-point number: one that is no integer is none. -/
def booleanOfReal (x : Real64) : Checked Bool :=
  match integerOfReal x with
  | .valid n => booleanOfInt n
  | .invalid _ => .flaw .notBoolean

/-- Reads a truth value. -/
def readBool : Value → Checked Bool
  | .bool b => .valid b
  | .text s => ifWhole s (booleanOfText s)
  | .bytes .fixed data =>
    match decodeUtf8 data with
    | .ok s => booleanOfText s
    | .error _ => .flaw .unreadableBoolean
  | .int n => if -wordBound ≤ n && n < wordBound then booleanOfInt n else .flaw .notBoolean
  | .real x => booleanOfReal x
  | .decimal d =>
    match d.toReal64? with
    | some x => booleanOfReal x
    | none => .flaw .notBoolean
  | _ => .flaw .notBoolean

/-- Reads one of a list of names. -/
def readOneOf {α : Type} (all : List α) (name : α → String) (v : Value) : Checked α :=
  let unknown : Checked α := .flaw (.notOneOf (all.map name))
  match v with
  | .text s =>
    match all.find? fun a => name a == s with
    | some a => .valid a
    | none => ifWhole s unknown
  | _ => unknown

end SqlMapping.Shape
