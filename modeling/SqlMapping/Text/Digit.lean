import SqlMapping.Text.DigitTable

/-!
# Digits

A decimal digit has a value from zero to nine in whatever script it is written. The wider class
of digit-like characters also holds superscripts and the like, which no number can be read from.
-/

namespace SqlMapping.Text

/-- The value of a decimal digit of any script. -/
def digitValue? (c : Char) : Option Nat :=
  (digitZeros.find? fun start => start ≤ c.toNat && c.toNat ≤ start + 9).map (c.toNat - ·)

/-- Whether a character stands for a digit, decimal or not. -/
def isDigitLike (c : Char) : Bool :=
  c.isDigit || digitLikes.contains c

/-- The character of a digit below ten. -/
def digitChar (d : Nat) : Char :=
  Char.ofNat (48 + d)

/-- The hexadecimal digit of `n` at a place, the units standing at place zero. -/
def hexDigitAt (n place : Nat) : Char :=
  Nat.digitChar (n / Nat.pow 16 place % 16)

/-- The hexadecimal digits of `n` at the places below `width`, the highest place first. -/
def hexDigits (width n : Nat) : List Char :=
  (List.range width).reverse.map (hexDigitAt n)

/-- The hexadecimal text has the width asked for. -/
@[simp] theorem length_hexDigits (width n : Nat) : (hexDigits width n).length = width := by
  simp [hexDigits]

/-- The value of a hexadecimal digit of either case. -/
def hexValue? (c : Char) : Option Nat :=
  if c.isDigit then some (c.toNat - 48)
  else if 'a' ≤ c && c ≤ 'f' then some (c.toNat - 87)
  else if 'A' ≤ c && c ≤ 'F' then some (c.toNat - 55)
  else none

end SqlMapping.Text
