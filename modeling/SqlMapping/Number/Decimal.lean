import SqlMapping.Number.Real64

/-!
# Decimal numbers

A decimal number keeps its digits and its exponent, so `2.50` and `2.5` differ as text. It is
written with an exponent when its point would stand more than six places left of its digits or
right of its last one.
-/

namespace SqlMapping.Number

open SqlMapping.Text

/-- A decimal number. -/
inductive Decimal where
  /-- The number `± coefficient * 10 ^ exponent`. -/
  | finite (negative : Bool) (coefficient : Nat) (exponent : Int)
  /-- Infinity of either sign. -/
  | infinite (negative : Bool)
  /-- No number, with the digits that say why. -/
  | nan (negative signaling : Bool) (payload : String)
deriving DecidableEq

namespace Decimal

/-- An integer with its sign always written. -/
def signedText (n : Int) : String :=
  if n < 0 then intText n else "+" ++ intText n

/-- The text of a decimal number. -/
def text : Decimal → String
  | .infinite negative => if negative then "-Infinity" else "Infinity"
  | .nan negative signaling payload =>
    (if negative then "-" else "") ++ (if signaling then "sNaN" else "NaN") ++ payload
  | .finite negative coefficient exponent =>
    let digits := Nat.toDigits 10 coefficient
    let size := Int.ofNat digits.length
    let left := exponent + size
    let point := if exponent ≤ 0 && left > -6 then left else 1
    let body :=
      if point ≤ 0 then '0' :: '.' :: List.replicate (-point).toNat '0' ++ digits
      else if point ≥ size then digits ++ List.replicate (point - size).toNat '0'
      else digits.take point.toNat ++ '.' :: digits.drop point.toNat
    let power := if left = point then "" else "E" ++ signedText (left - point)
    (if negative then "-" else "") ++ String.ofList body ++ power

/-- Whether the number is zero. -/
def isZero : Decimal → Bool
  | .finite _ c _ => c == 0
  | _ => false

/-- The integer of a finite number without its fraction. -/
def truncate? : Decimal → Option Int
  | .finite negative c e => some (signed negative (c * Nat.pow 10 e.toNat / Nat.pow 10 (-e).toNat))
  | _ => none

/-- The integer that a finite number without a fraction equals. -/
def toInt? : Decimal → Option Int
  | .finite negative c e =>
    if c * Nat.pow 10 e.toNat % Nat.pow 10 (-e).toNat = 0 then
      some (signed negative (c * Nat.pow 10 e.toNat / Nat.pow 10 (-e).toNat))
    else none
  | _ => none

/-- The nearest floating-point number; a signaling value has none. -/
def toReal64? : Decimal → Option Real64
  | .finite negative c e => some (Real64.ofDecimal negative c e)
  | .infinite negative => some (.infinite negative)
  | .nan _ signaling _ => if signaling then none else some .nan

/-- Reads the words for infinity and for no number. -/
def readWord (negative : Bool) (cs : List Char) : Option Decimal :=
  let word := cs.map Char.toLower
  if word == "inf".toList || word == "infinity".toList then some (.infinite negative)
  else if word.take 3 == "nan".toList && (word.drop 3).all Char.isDigit then
    some (.nan negative false (String.ofList (word.drop 3)))
  else if word.take 4 == "snan".toList && (word.drop 4).all Char.isDigit then
    some (.nan negative true (String.ofList (word.drop 4)))
  else none

/-- Reads a decimal number: a sign, digits with an optional fraction and exponent, or a word. -/
def read? (s : String) : Option Decimal :=
  let cs := ((trimWith isBlank s.toList).filter (· != '_')).map Real64.plainDigit
  let (negative, body) := splitSign cs
  match readWord negative body with
  | some d => some d
  | none =>
    let (whole, rest) := Real64.takeDigits body
    let (fraction, rest) := match rest with
      | '.' :: rest => Real64.takeDigits rest
      | rest => ([], rest)
    if whole.isEmpty && fraction.isEmpty then none
    else (Real64.readExponent rest).map fun e =>
      .finite negative (ofDigits (whole ++ fraction)) (e - Int.ofNat fraction.length)

end Decimal

end SqlMapping.Number
