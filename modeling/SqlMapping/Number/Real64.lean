import SqlMapping.Number.Integer

/-!
# Binary floating-point numbers

Numbers of 64 bits as exact values: a finite number is `± mantissa * 2 ^ exponent`, with a
mantissa below `2 ^ 53` that is at least `2 ^ 52` unless the exponent is the least one. Every
operation works in exact arithmetic and rounds once, to the nearest number, a tie going to the
even mantissa.
-/

namespace SqlMapping.Number

open SqlMapping.Text

/-- A binary floating-point number of 64 bits. -/
inductive Real64 where
  /-- No number. -/
  | nan
  /-- Infinity of either sign. -/
  | infinite (negative : Bool)
  /-- The number `± mantissa * 2 ^ exponent`. -/
  | finite (negative : Bool) (mantissa : Nat) (exponent : Int)
deriving DecidableEq

/-- The quotient rounded to the nearest natural number, a tie going to the even neighbour. -/
def roundDiv (n d : Nat) : Nat :=
  let q := n / d
  let r := n % d
  if 2 * r < d then q else if 2 * r = d && q % 2 = 0 then q else q + 1

namespace Real64

/-- The least exponent. -/
def minExponent : Int := -1074

/-- The greatest exponent. -/
def maxExponent : Int := 971

/-- Zero of either sign. -/
def zero (negative : Bool) : Real64 :=
  .finite negative 0 minExponent

/-- The fraction `num / den` divided by `2 ^ exponent`, as a fraction. -/
def scaleBy (num den : Nat) (exponent : Int) : Nat × Nat :=
  (num * Nat.pow 2 (-exponent).toNat, den * Nat.pow 2 exponent.toNat)

/-- The number nearest to `± num / den`. -/
def ofRatio (negative : Bool) (num den : Nat) : Real64 :=
  if num = 0 then zero negative
  else
    let guess : Int := Int.ofNat num.log2 - Int.ofNat den.log2 - 52
    let (n, d) := scaleBy num den guess
    let exponent := max (if n / d < Nat.pow 2 52 then guess - 1 else guess) minExponent
    let (n, d) := scaleBy num den exponent
    let mantissa := roundDiv n d
    let (mantissa, exponent) :=
      if mantissa = Nat.pow 2 53 then (Nat.pow 2 52, exponent + 1) else (mantissa, exponent)
    if exponent > maxExponent then .infinite negative else .finite negative mantissa exponent

/-- The number nearest to `± coefficient * 10 ^ exponent`. -/
def ofDecimal (negative : Bool) (coefficient : Nat) (exponent : Int) : Real64 :=
  if coefficient = 0 then zero negative
  else
    let size := Int.ofNat (Nat.toDigits 10 coefficient).length + exponent
    if size > 400 then .infinite negative
    else if size < -400 then zero negative
    else ofRatio negative (coefficient * Nat.pow 10 exponent.toNat) (Nat.pow 10 (-exponent).toNat)

/-- The number nearest to an integer; `none` when the integer lies beyond all finite numbers. -/
def ofInt? (n : Int) : Option Real64 :=
  match ofRatio (decide (n < 0)) n.natAbs 1 with
  | .finite negative m e => some (.finite negative m e)
  | _ => none

/-- Whether the number is zero. -/
def isZero : Real64 → Bool
  | .finite _ m _ => m == 0
  | _ => false

/-- The magnitude of a finite number as a fraction. -/
def ratio (mantissa : Nat) (exponent : Int) : Nat × Nat :=
  (mantissa * Nat.pow 2 exponent.toNat, Nat.pow 2 (-exponent).toNat)

/-- The integer of a finite number without its fraction. -/
def truncate? : Real64 → Option Int
  | .finite negative m e =>
    let (n, d) := ratio m e
    some (signed negative (n / d))
  | _ => none

/-- The integer that a finite number without a fraction equals. -/
def toInt? : Real64 → Option Int
  | .finite negative m e =>
    let (n, d) := ratio m e
    if n % d = 0 then some (signed negative (n / d)) else none
  | _ => none

/-- The number as `m * 2 ^ e` with a signed `m`, when it is finite. -/
def parts? : Real64 → Option (Int × Int)
  | .finite negative m e => some (signed negative m, e)
  | _ => none

/-- Reads digits, and what follows them. -/
def takeDigits (cs : List Char) : List Nat × List Char :=
  ((cs.takeWhile Char.isDigit).map (·.toNat - 48), cs.dropWhile Char.isDigit)

/-- Reads the exponent that may end a number. -/
def readExponent : List Char → Option Int
  | [] => some 0
  | c :: rest =>
    if c == 'e' || c == 'E' then
      let (negative, body) := splitSign rest
      let (digits, tail) := takeDigits body
      if digits.isEmpty || !tail.isEmpty then none
      else some (signed negative (ofDigits digits))
    else none

/-- Reads an unsigned decimal number with an optional fraction and exponent. -/
def readDecimal (negative : Bool) (cs : List Char) : Option Real64 :=
  let (whole, rest) := takeDigits cs
  let (fraction, rest) := match rest with
    | '.' :: rest => takeDigits rest
    | rest => ([], rest)
  if whole.isEmpty && fraction.isEmpty then none
  else (readExponent rest).map fun exponent =>
    ofDecimal negative (ofDigits (whole ++ fraction)) (exponent - Int.ofNat fraction.length)

/-- Removes the underscores, each of which has to stand between two digits. -/
def dropUnderscores : Option Char → List Char → Option (List Char)
  | previous, [] => if previous == some '_' then none else some []
  | previous, c :: rest =>
    if c == '_' then
      if (previous.map Char.isDigit).getD false then dropUnderscores (some c) rest else none
    else if previous == some '_' && !c.isDigit then none
    else (dropUnderscores (some c) rest).map (c :: ·)

/-- The ASCII digit of a decimal digit of any script; any other character is kept. -/
def plainDigit (c : Char) : Char :=
  match digitValue? c with
  | some d => digitChar d
  | none => c

/-- Reads a number: white space around it, a sign, decimal digits with single underscores between
them, an optional fraction and exponent, or one of the words for infinity and for no number. -/
def read? (cs : List Char) : Option Real64 := do
  let plain ← dropUnderscores none ((trimWith isWhiteSpace cs).map plainDigit)
  let (negative, body) := splitSign plain
  let word := String.ofList (body.map Char.toLower)
  if word == "inf" || word == "infinity" then some (.infinite negative)
  else if word == "nan" then some .nan
  else readDecimal negative body

end Real64

end SqlMapping.Number
