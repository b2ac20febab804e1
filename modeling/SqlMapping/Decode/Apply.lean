import SqlMapping.Calendar.Notation
import SqlMapping.Column.Decoder
import SqlMapping.Decode.Fault
import SqlMapping.Text.Case
import SqlMapping.Value

/-!
# Decoding values

Every decoder keeps null. The others turn the values that drivers return, among them texts and
three kinds of byte strings, into values of one type.
-/

namespace SqlMapping

open SqlMapping.Calendar SqlMapping.Number SqlMapping.Text

namespace Decode

/-- The character of a byte; bytes outside ASCII all become one letter. -/
def charOfByte (b : UInt8) : Char :=
  if b < 0x80 then Char.ofNat b.toNat else 'ÿ'

/-- The most characters of a faulty integer that a message shows. -/
def shownCharacters : Nat := 200

/-- The integer that a text denotes; `literal` shows the text in a message. -/
def integerOfText (cs : List Char) (literal : String) : Except ReadFault Int :=
  match readInteger cs with
  | .ok n => .ok n
  | .error .malformed => .error (.badInteger (String.ofList (literal.toList.take shownCharacters)))
  | .error (.tooLong _) => .error .badValue

/-- The integer of a floating-point number, without its fraction. -/
def integerOfReal (x : Real64) : Except ReadFault Int :=
  match x.truncate? with
  | some n => .ok n
  | none => .error (if x = .nan then .notANumber else .tooLarge)

/-- The integer of a decimal number, without its fraction. -/
def integerOfDecimal (d : Decimal) : Except ReadFault Int :=
  match d with
  | .nan .. => .error .badValue
  | .infinite _ => .error .tooLarge
  | .finite .. => .ok (d.truncate?.getD 0)

/-- The integer of a value. -/
def integer : Value → Except ReadFault Int
  | .bool b => .ok (if b then 1 else 0)
  | .int n => .ok n
  | .real x => integerOfReal x
  | .decimal d => integerOfDecimal d
  | .text s => integerOfText s.toList (quote s)
  | .bytes _ data => integerOfText (data.map charOfByte) (quoteBytes data)
  | _ => .error .badType

/-- The integer of a value, which has to fit 16 bits. -/
def short (v : Value) : Except ReadFault Int := do
  let n ← integer v
  if -32768 ≤ n && n ≤ 32767 then return n
  else match writeInteger n with
    | .ok _ => throw (.beyondShort n)
    | .error _ => throw .badValue

/-- The number that a text denotes; `literal` shows the text in a message. -/
def realOfText (cs : List Char) (literal : String) : Except ReadFault Real64 :=
  match Real64.read? cs with
  | some x => .ok x
  | none => .error (.badReal literal)

/-- The floating-point number of a value. -/
def real : Value → Except ReadFault Real64
  | .bool b => .ok ((Real64.ofInt? (if b then 1 else 0)).getD .nan)
  | .int n => match Real64.ofInt? n with
    | some x => .ok x
    | none => .error .tooLarge
  | .real x => .ok x
  | .decimal d => match d.toReal64? with
    | some x => .ok x
    | none => .error .badValue
  | .text s => realOfText s.toList (quote s)
  | .bytes kind data => realOfText (data.map charOfByte) (Value.bytesLiteral kind data)
  | _ => .error .badType

/-- The text of a value. -/
def string : Value → Except ReadFault String
  | .bytes _ data => match decodeUtf8 data with
    | .ok s => .ok s
    | .error _ => .error .notUnicode
  | v => match v.display with
    | .ok s => .ok s
    | .error _ => .error .badValue

/-- The words that stand for false. -/
def falseWords : List String := ["0", "false", "f", "no", "n", "off", ""]

/-- The truth value of a value. Bytes are false when all of them are zero. -/
def boolean : Value → Bool
  | .text s => !falseWords.contains (lower (strip s))
  | .bytes .view data => !data.isEmpty
  | .bytes _ data => data.any (· != 0)
  | v => v.isTruthy

/-- The greatest number of seconds since the epoch that a clock can tell. -/
def greatestSecond : Int := 67768036191676799

/-- The least number of seconds since the epoch that a clock can tell. -/
def leastSecond : Int := -67768040609740800

/-- The time of a number of seconds and microseconds since the epoch. -/
def epochTime (seconds : Int) (microseconds : Nat) : Except ReadFault DateTime :=
  if seconds < -Int.pow 2 63 || Int.pow 2 63 ≤ seconds then .error .tooLarge
  else if seconds < leastSecond || greatestSecond < seconds then .error .beyondClock
  else match DateTime.ofEpoch? seconds microseconds with
    | some t => .ok t
    | none => .error .badValue

/-- The microseconds of the fraction of a number, rounded first to a floating-point number and then
to an integer, a tie going to the even one. -/
def fractionMicroseconds (mantissa : Nat) (exponent : Int) : Nat :=
  let (n, d) := Real64.ratio mantissa exponent
  match Real64.ofRatio false (n % d * perSecond) d with
  | .finite _ m e =>
    let (n, d) := Real64.ratio m e
    roundDiv n d
  | _ => 0

/-- The time of a number of seconds since the epoch. -/
def timeOfReal : Real64 → Except ReadFault DateTime
  | .nan => .error .badValue
  | .infinite _ => .error .tooLarge
  | .finite negative m e =>
    let (n, d) := Real64.ratio m e
    let micros := fractionMicroseconds m e
    let whole := signed negative (n / d)
    let total := whole * Int.ofNat perSecond + signed negative micros
    epochTime (total / Int.ofNat perSecond) (total % Int.ofNat perSecond).toNat

/-- The naive universal time of a time that may carry an offset. -/
def naive (t : DateTime) : Except ReadFault DateTime :=
  match t.toUniversal? with
  | some t => .ok t
  | none => .error .tooLarge

/-- The naive universal time of a value. A naive time is kept as it is. -/
def timestamp : Value → Except ReadFault DateTime
  | .dateTime t => naive t
  | .date d => .ok (DateTime.ofDate d)
  | .bool b => epochTime (if b then 1 else 0) 0
  | .int n => epochTime n 0
  | .real x => timeOfReal x
  | v => match v.display.toOption.bind readDateTime with
    | some t => naive t
    | none => .error .badValue

end Decode

/-- The value that a decoder makes of a value. -/
def Decoder.apply (d : Decoder) (v : Value) : Except ReadFault Value :=
  match v with
  | .null => .ok .null
  | v => match d with
    | .int | .long => (Decode.integer v).map .int
    | .short => (Decode.short v).map .int
    | .string => (Decode.string v).map .text
    | .boolean => .ok (.bool (Decode.boolean v))
    | .float | .double => (Decode.real v).map .real
    | .timestamp => (Decode.timestamp v).map .dateTime
    | .object => .ok v

end SqlMapping
