import SqlMapping.Number.Real64

/-!
# The shortest text of a floating-point number

A finite number is written with the fewest digits that read back as the same number and, of those,
with the digits nearest to it. A decimal point is used from `0.0001` up to below `10 ^ 16`, an
exponent of at least two digits elsewhere; a positional text always has a fraction.
-/

namespace SqlMapping.Number.Real64

open SqlMapping.Text

/-- A decimal grid and the points of it that may stand for a number: the grid is `10 ^ scale`, the
number lies at `value / unit` on it, and every number from `low / unit` to `high / unit` rounds to
it, the ends only if `closed`. -/
structure Candidates where
  /-- The number, in parts of a grid step. -/
  value : Nat
  /-- The least number that may round to it. -/
  low : Nat
  /-- The greatest number that may round to it. -/
  high : Nat
  /-- How many parts a grid step has. -/
  unit : Nat
  /-- Whether the ends round to the number. -/
  closed : Bool

/-- The candidates for `mantissa * 2 ^ exponent` on the grid `10 ^ scale`. -/
def candidates (mantissa : Nat) (exponent scale : Int) : Candidates :=
  let quarter := exponent - 2
  let num := Nat.pow 10 (-scale).toNat * Nat.pow 2 quarter.toNat
  let below := if mantissa = Nat.pow 2 52 && exponent > minExponent then 1 else 2
  { value := 4 * mantissa * num
    low := (4 * mantissa - below) * num
    high := (4 * mantissa + 2) * num
    unit := Nat.pow 10 scale.toNat * Nat.pow 2 (-quarter).toNat
    closed := mantissa % 2 == 0 }

/-- Whether a grid point stands for the number. -/
def Candidates.accepts (c : Candidates) (point : Nat) : Bool :=
  point != 0 &&
    if c.closed then c.low ≤ point * c.unit && point * c.unit ≤ c.high
    else c.low < point * c.unit && point * c.unit < c.high

/-- The grid point nearest to the number among those that stand for it. -/
def Candidates.nearest? (c : Candidates) : Option Nat :=
  let floor := c.value / c.unit
  match c.accepts floor, c.accepts (floor + 1) with
  | true, false => some floor
  | false, true => some (floor + 1)
  | true, true => some (roundDiv c.value c.unit)
  | false, false => none

/-- The digits and the decimal exponent of the shortest text of a positive number. -/
def shortestDigits (mantissa : Nat) (exponent : Int) : Nat × Int :=
  let top := (Int.ofNat mantissa.log2 + 1 + exponent) * 30103 / 100000 + 1
  let found := (List.range 24).findSome? fun i =>
    let scale := top - Int.ofNat i
    ((candidates mantissa exponent scale).nearest?).map fun point => (point, scale)
  found.getD (0, 0)

/-- The digits without the zeros at their end, and the exponent that makes up for them. -/
def dropZeros (digits : List Char) (exponent : Int) : List Char × Int :=
  let kept := trimEndWith (· == '0') digits
  (kept, exponent + Int.ofNat (digits.length - kept.length))

/-- A text of `n` zeros. -/
def zeros (n : Nat) : List Char :=
  List.replicate n '0'

/-- An exponent with its sign and at least two digits. -/
def exponentText (e : Int) : List Char :=
  let digits := Nat.toDigits 10 e.natAbs
  (if e < 0 then '-' else '+') :: (zeros (2 - digits.length) ++ digits)

/-- Digits with the decimal point after the first `point` of them, or with an exponent. -/
def layoutDigits (digits : List Char) (point : Int) : List Char :=
  if -4 < point && point ≤ 16 then
    if point ≤ 0 then '0' :: '.' :: zeros (-point).toNat ++ digits
    else if digits.length ≤ point.toNat then
      digits ++ zeros (point.toNat - digits.length) ++ ['.', '0']
    else digits.take point.toNat ++ '.' :: digits.drop point.toNat
  else
    let rest := digits.drop 1
    digits.take 1 ++ (if rest.isEmpty then [] else '.' :: rest) ++ 'e' :: exponentText (point - 1)

/-- The text of a number. -/
def text : Real64 → String
  | .nan => "nan"
  | .infinite negative => if negative then "-inf" else "inf"
  | .finite negative mantissa exponent =>
    let body :=
      if mantissa = 0 then ['0', '.', '0']
      else
        let (coefficient, scale) := shortestDigits mantissa exponent
        let (digits, scale) := dropZeros (Nat.toDigits 10 coefficient) scale
        layoutDigits digits (Int.ofNat digits.length + scale)
    String.ofList (if negative then '-' :: body else body)

end SqlMapping.Number.Real64
