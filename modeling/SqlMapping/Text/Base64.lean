import SqlMapping.Text.Utf8

/-!
# Bytes in base 64

Four characters stand for three bytes. Characters that belong to no digit are skipped, and equals
signs fill up the last group.
-/

namespace SqlMapping.Text

/-- The value of a digit in base 64. -/
def base64Digit? (c : Char) : Option Nat :=
  if c.isUpper then some (c.toNat - 65)
  else if c.isLower then some (c.toNat - 71)
  else if c.isDigit then some (c.toNat + 4)
  else if c = '+' then some 62
  else if c = '/' then some 63
  else none

/-- Reads bytes. Of the group at hand `place` digits are read, with `left` bits that belong to no
byte yet, and `pads` equals signs have followed. Fails at the end inside a group. -/
def readBase64 : Nat → Nat → Nat → List Char → Option (List UInt8)
  | place, _, _, [] => if place = 0 then some [] else none
  | place, left, pads, c :: rest =>
    if c = '=' then
      if 2 ≤ place then
        if 4 ≤ place + pads + 1 then some [] else readBase64 place left (pads + 1) rest
      else readBase64 place left pads rest
    else match base64Digit? c with
      | none => readBase64 place left pads rest
      | some d =>
        match place with
        | 0 => readBase64 1 d 0 rest
        | 1 => (readBase64 2 (d % 16) 0 rest).map (byte (left * 4 + d / 16) :: ·)
        | 2 => (readBase64 3 (d % 4) 0 rest).map (byte (left * 16 + d / 4) :: ·)
        | _ => (readBase64 0 0 0 rest).map (byte (left * 64 + d) :: ·)

/-- The bytes of a text in base 64, which has to be plain ASCII. -/
def decodeBase64 (s : String) : Option (List UInt8) :=
  if s.toList.all fun c => c.toNat < 128 then readBase64 0 0 0 s.toList else none

end SqlMapping.Text
