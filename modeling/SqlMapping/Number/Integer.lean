import SqlMapping.Text.Blank
import SqlMapping.Text.Digit

/-!
# Integers in text

An integer is written in decimal and read from decimal digits of any script, with white space
around it, a sign, and single underscores between digits. Text with more than 4300 digits is
neither written nor read.
-/

namespace SqlMapping.Number

open SqlMapping.Text

/-- The most digits that an integer may have in text. -/
def digitLimit : Nat := 4300

/-- Why a text cannot be read as an integer. -/
inductive IntegerFault where
  /-- The text is not an integer. -/
  | malformed
  /-- The text holds more digits than the limit. -/
  | tooLong (digits : Nat)
deriving DecidableEq

/-- The decimal text of a natural number. -/
def natText (n : Nat) : String :=
  String.ofList (Nat.toDigits 10 n)

/-- The decimal text of an integer. -/
def intText (n : Int) : String :=
  if n < 0 then "-" ++ natText n.natAbs else natText n.natAbs

/-- The fault of an integer that has too many digits to be written. -/
inductive OverlongInteger where
  /-- The integer has more digits than the limit. -/
  | overlong
deriving DecidableEq

/-- The least natural number with too many digits to be written. -/
def digitCeiling : Nat := Nat.pow 10 digitLimit

/-- The decimal text of an integer within the limit. -/
def writeInteger (n : Int) : Except OverlongInteger String :=
  if n.natAbs < digitCeiling then .ok (intText n) else .error .overlong

/-- What is said when an integer has too many digits to be written. -/
def writeLimitMessage : String :=
  "Exceeds the limit (4300 digits) for integer string conversion; " ++
    "use sys.set_int_max_str_digits() to increase the limit"

/-- What is said when a text has too many digits to be read. -/
def readLimitMessage (digits : Nat) : String :=
  "Exceeds the limit (4300 digits) for integer string conversion: value has " ++ natText digits ++
    " digits; use sys.set_int_max_str_digits() to increase the limit"

/-- The number that a list of decimal digits denotes, most significant digit first. -/
def ofDigits (digits : List Nat) : Nat :=
  digits.foldl (fun n d => 10 * n + d) 0

/-- The values of the digits at the start of a text, and what follows them. A single underscore
may stand between two digits; a run that ends in an underscore, or holds two in a row, is no
run of digits. -/
def scanDigits (valueOf : Char → Option Nat) : List Char → Option (List Nat × List Char)
  | [] => some ([], [])
  | '_' :: c :: rest =>
    if (valueOf c).isSome then scanDigits valueOf (c :: rest) else none
  | ['_'] => none
  | c :: rest =>
    match valueOf c with
    | some d => (scanDigits valueOf rest).map fun (ds, tail) => (d :: ds, tail)
    | none => some ([], c :: rest)

/-- A text without its sign, and whether the sign was a minus. -/
def splitSign : List Char → Bool × List Char
  | '-' :: rest => (true, rest)
  | '+' :: rest => (false, rest)
  | cs => (false, cs)

/-- A natural number with a sign. -/
def signed (negative : Bool) (n : Nat) : Int :=
  if negative then -(n : Int) else n

/-- Reads an integer. -/
def readInteger (cs : List Char) : Except IntegerFault Int :=
  let (negative, body) := splitSign (trimWith isWhiteSpace cs)
  if body.head? == some '_' then .error .malformed
  else match scanDigits digitValue? body with
    | none => .error .malformed
    | some (digits, tail) =>
      if digits.length > digitLimit then .error (.tooLong digits.length)
      else if digits.isEmpty || !tail.isEmpty then .error .malformed
      else .ok (signed negative (ofDigits digits))

end SqlMapping.Number
