import SqlMapping.Number.Real64

/-!
# Sums and products of floating-point numbers

Both are taken exactly and rounded once.
-/

namespace SqlMapping.Number.Real64

/-- The number nearest to `n * 2 ^ exponent`; zero gets the given sign. -/
def ofScaled (negativeZero : Bool) (n : Int) (exponent : Int) : Real64 :=
  if n = 0 then zero negativeZero
  else
    let (num, den) := ratio n.natAbs exponent
    ofRatio (decide (n < 0)) num den

/-- The sum of two numbers. -/
def add (x y : Real64) : Real64 :=
  match x, y with
  | .nan, _ | _, .nan => .nan
  | .infinite s, .infinite t => if s = t then .infinite s else .nan
  | .infinite s, _ => .infinite s
  | _, .infinite t => .infinite t
  | .finite s m e, .finite t n f =>
    let exponent := min e f
    ofScaled (s && t)
      (signed s m * Int.pow 2 (e - exponent).toNat + signed t n * Int.pow 2 (f - exponent).toNat)
      exponent

/-- The product of two numbers. -/
def mul (x y : Real64) : Real64 :=
  match x, y with
  | .nan, _ | _, .nan => .nan
  | .infinite s, .infinite t => .infinite (s != t)
  | .infinite s, .finite t n _ => if n = 0 then .nan else .infinite (s != t)
  | .finite s m _, .infinite t => if m = 0 then .nan else .infinite (s != t)
  | .finite s m e, .finite t n f => ofScaled (s != t) (signed (s != t) (m * n)) (e + f)

/-- The number with the other sign. -/
def negate : Real64 → Real64
  | .nan => .nan
  | .infinite s => .infinite !s
  | .finite s m e => .finite (!s) m e

end SqlMapping.Number.Real64
