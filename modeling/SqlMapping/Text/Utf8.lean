import SqlMapping.Text.CodePoint
import SqlMapping.Text.Digit

/-!
# Text as bytes

The encoding of characters in one to four bytes, and the strict decoder. A text with a half of a
surrogate pair has no bytes. The decoder says where the first faulty sequence lies and what is wrong
with it.
-/

namespace SqlMapping.Text

/-- A byte from a number below 256. -/
def byte (n : Nat) : UInt8 :=
  UInt8.ofNat n

/-- The bytes of one character. -/
def encodeChar (c : Char) : List UInt8 :=
  let n := c.toNat
  if n < 0x80 then [byte n]
  else if n < 0x800 then [byte (0xc0 + n / 0x40), byte (0x80 + n % 0x40)]
  else if n < 0x10000 then
    [byte (0xe0 + n / 0x1000), byte (0x80 + n / 0x40 % 0x40), byte (0x80 + n % 0x40)]
  else
    [byte (0xf0 + n / 0x40000), byte (0x80 + n / 0x1000 % 0x40), byte (0x80 + n / 0x40 % 0x40),
     byte (0x80 + n % 0x40)]

/-- The bytes of a list of characters. -/
def encodeUtf8 (cs : List Char) : List UInt8 :=
  cs.flatMap encodeChar

/-- The character that a code point is, unless it is a half. -/
def CodePoint.char? : CodePoint → Option Char
  | .char c => some c
  | .half _ => none
  | .loose => some guardChar

/-- The bytes of a text, unless a half stands in it. -/
def encode? (s : String) : Option (List UInt8) :=
  ((codePoints s.toList).mapM CodePoint.char?).map encodeUtf8

/-- What is wrong with a faulty sequence. -/
inductive Utf8Cause where
  /-- No sequence begins with this byte. -/
  | startByte
  /-- A byte inside the sequence does not continue it. -/
  | continuationByte
  /-- The bytes end inside the sequence. -/
  | endOfData
deriving DecidableEq

/-- A faulty sequence: its first byte, where it begins, how long it is and what is wrong. -/
structure Utf8Fault where
  /-- The first byte of the sequence. -/
  first : UInt8
  /-- The position of that byte. -/
  position : Nat
  /-- How many bytes belong to the sequence. -/
  size : Nat
  /-- What is wrong. -/
  cause : Utf8Cause
deriving DecidableEq

/-- The wording of a cause. -/
def Utf8Cause.message : Utf8Cause → String
  | .startByte => "invalid start byte"
  | .continuationByte => "invalid continuation byte"
  | .endOfData => "unexpected end of data"

/-- The wording of a fault. -/
def Utf8Fault.message (f : Utf8Fault) : String :=
  let place :=
    if f.size = 1 then
      "byte 0x" ++ String.ofList (hexDigits 2 f.first.toNat) ++ " in position " ++
        toString f.position
    else
      "bytes in position " ++ toString f.position ++ "-" ++ toString (f.position + f.size - 1)
  "'utf-8' codec can't decode " ++ place ++ ": " ++ f.cause.message

/-- The value bits of a continuation byte that lies between two bounds. -/
def continuation? (low high : Nat) (b : UInt8) : Option Nat :=
  if low ≤ b.toNat && b.toNat ≤ high then some (b.toNat - 0x80) else none

/-- How many bytes follow a first byte, its value bits, and the bounds of the second byte. -/
def sequenceShape? (b : UInt8) : Option (Nat × Nat × Nat × Nat) :=
  let n := b.toNat
  if n < 0x80 then some (0, n, 0, 0)
  else if n < 0xc2 then none
  else if n < 0xe0 then some (1, n - 0xc0, 0x80, 0xbf)
  else if n < 0xf0 then
    some (2, n - 0xe0, if n = 0xe0 then 0xa0 else 0x80, if n = 0xed then 0x9f else 0xbf)
  else if n < 0xf5 then
    some (3, n - 0xf0, if n = 0xf0 then 0x90 else 0x80, if n = 0xf4 then 0x8f else 0xbf)
  else none

/-- Reads the `needed` bytes that continue a sequence of which `seen` bytes are read. -/
def readContinuation (first : UInt8) (position : Nat) :
    Nat → Nat → Nat → Nat → Nat → List UInt8 → Except Utf8Fault (Nat × List UInt8)
  | 0, _, value, _, _, bs => .ok (value, bs)
  | _ + 1, seen, _, _, _, [] => .error ⟨first, position, seen, .endOfData⟩
  | needed + 1, seen, value, low, high, b :: bs =>
    match continuation? low high b with
    | some bits =>
      readContinuation first position needed (seen + 1) (value * 0x40 + bits) 0x80 0xbf bs
    | none => .error ⟨first, position, seen, .continuationByte⟩

/-- Reads the first character of a sequence of bytes that begins at `position`. -/
def decodeFirst (position : Nat) (b : UInt8) (bs : List UInt8) :
    Except Utf8Fault (Char × List UInt8) :=
  match sequenceShape? b with
  | none => .error ⟨b, position, 1, .startByte⟩
  | some (needed, value, low, high) =>
    (readContinuation b position needed 1 value low high bs).map fun (n, rest) =>
      (Char.ofNat n, rest)

/-- Reads at most `fuel` characters. -/
def decodeChars : Nat → Nat → List UInt8 → Except Utf8Fault (List Char)
  | _, _, [] => .ok []
  | 0, _, _ :: _ => .ok []
  | fuel + 1, position, b :: bs => do
    let (c, rest) ← decodeFirst position b bs
    let cs ← decodeChars fuel (position + 1 + (bs.length - rest.length)) rest
    return c :: cs

/-- The text of a sequence of bytes. A sequence has at most as many characters as bytes. -/
def decodeUtf8 (bs : List UInt8) : Except Utf8Fault String :=
  (decodeChars bs.length 0 bs).map spelled

end SqlMapping.Text
