/-!
# Texts of code points

A text is a list of code points. Nearly all of them are characters, but an escape in a document, or
a caller, may also leave one half of a surrogate pair alone, and a half is no character. A text is
therefore spelled in a `String`. Each of the 2048 halves has a stand-in, a character of private use
that is spelled where the half stands. Where such a character itself stands, it is spelled with a
guard in front, and so is the guard; any other character spells itself.

Neither a half nor its stand-in is a letter, a digit, a blank or printable, and neither has another
case. So whatever asks for no more than that treats the two alike, and has nothing to do with code
points. They count where a text is encoded or escaped, and where halves are refused.
-/

namespace SqlMapping.Text

/-- The character in front of a character that is not to be taken for a stand-in. -/
def guardChar : Char :=
  Char.ofNat 0x10ffff

/-- The number of the first half. -/
def firstHalf : Nat := 0xd800

/-- The number of the first stand-in. -/
def firstStandIn : Nat := 0x10f000

/-- Whether a character stands in for a half. -/
def isStandIn (c : Char) : Bool :=
  0x10f000 ≤ c.toNat && c.toNat < 0x10f800

/-- The stand-in of a half. -/
abbrev StandIn := { c : Char // isStandIn c = true }

/-- Whether a character is spelled with a guard in front. -/
def isGuarded (c : Char) : Bool :=
  isStandIn c || c == guardChar

/-- A code point of a text. -/
inductive CodePoint where
  /-- A character. -/
  | char (c : Char)
  /-- A half of a surrogate pair, given by its stand-in. -/
  | half (c : StandIn)
  /-- A guard with nothing to guard; no text that is spelled has one. -/
  | loose
deriving DecidableEq

/-- The number of a half. -/
def StandIn.number (c : StandIn) : Nat :=
  firstHalf + (c.val.toNat - firstStandIn)

namespace CodePoint

/-- The code point that a character spells when there is no guard in front of it. -/
def ofUnguarded (c : Char) : CodePoint :=
  if h : isStandIn c = true then .half ⟨c, h⟩
  else if c = guardChar then .loose
  else .char c

/-- The code point of a number. -/
def ofNumber (n : Nat) : CodePoint :=
  let c := Char.ofNat (firstStandIn + (n - firstHalf))
  if h : firstHalf ≤ n ∧ isStandIn c = true then .half ⟨c, h.2⟩ else .char (Char.ofNat n)

/-- Whether a code point is a half. -/
def isHalf : CodePoint → Bool
  | .half _ => true
  | .char _ | .loose => false

/-- The characters that spell a code point. -/
def spelling : CodePoint → List Char
  | .char c => if isGuarded c then [guardChar, c] else [c]
  | .half c => [c]
  | .loose => [guardChar]

/-- The character that stands for a code point: a half has its stand-in. -/
def face : CodePoint → Char
  | .char c => c
  | .half c => c.val
  | .loose => guardChar

end CodePoint

/-- The code points that a list of characters spells. -/
def codePoints : List Char → List CodePoint
  | [] => []
  | [c] => [.ofUnguarded c]
  | c :: d :: rest =>
    if c = guardChar ∧ isGuarded d = true then .char d :: codePoints rest
    else .ofUnguarded c :: codePoints (d :: rest)

/-- A list of characters with one for each of the code points that it spells. -/
def faces (cs : List Char) : List Char :=
  (codePoints cs).map CodePoint.face

/-- The characters that spell code points. -/
def spellingOf (ps : List CodePoint) : List Char :=
  ps.flatMap CodePoint.spelling

/-- The spelling of a text of characters. -/
def spelled (cs : List Char) : String :=
  String.ofList (spellingOf (cs.map .char))

/-- Whether no half stands in a text. -/
def isWhole (s : String) : Bool :=
  (codePoints s.toList).all fun p => !p.isHalf

end SqlMapping.Text
