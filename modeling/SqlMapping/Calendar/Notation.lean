import SqlMapping.Calendar.DateTime
import SqlMapping.Text.Utf8

/-!
# Reading dates and times

A text holds a date, by month or by week and with or without hyphens, then optionally any one
character, a time of day and an offset from universal time. The text is read byte by byte; a byte
past the end reads as zero.
-/

namespace SqlMapping.Calendar

open SqlMapping.Text SqlMapping.Number

/-- Reads a number of exactly `count` digits. -/
def readDigits : Nat → Nat → List Char → Option (Nat × List Char)
  | 0, n, cs => some (n, cs)
  | count + 1, n, c :: cs =>
    if c.isDigit then readDigits count (10 * n + (c.toNat - 48)) cs else none
  | _ + 1, _, [] => none

/-- Reads a hyphen if one is due. -/
def readHyphen (due : Bool) (cs : List Char) : Option (List Char) :=
  if due then
    match cs with
    | '-' :: rest => some rest
    | _ => none
  else some cs

/-- Reads the date at the start of a text; the date part is `size` bytes long. -/
def readDate (size : Nat) (cs : List Char) : Option Date := do
  let (year, rest) ← readDigits 4 0 cs
  let hyphens := rest.head? == some '-'
  let rest := if hyphens then rest.drop 1 else rest
  match rest with
  | 'W' :: rest =>
    let (week, rest) ← readDigits 2 0 rest
    if cs.length - rest.length < size then
      let rest ← readHyphen hyphens rest
      let (day, _) ← readDigits 1 0 rest
      Date.ofWeek? year week day
    else Date.ofWeek? year week 1
  | _ =>
    let (month, rest) ← readDigits 2 0 rest
    let rest ← readHyphen hyphens rest
    let (day, rest) ← readDigits 2 0 rest
    if cs.length - rest.length = size then Date.ofParts? year month day else none

/-- How many bytes the date part of a text has. -/
def datePartSize (cs : List Char) : Option Nat :=
  let length := cs.length
  if length = 7 then some 7
  else if cs[4]? == some '-' then
    if cs[5]? == some 'W' && cs[8]? == some '-' then
      if length = 9 then none
      else if (cs[10]?.map Char.isDigit).getD false then some 8
      else some 10
    else if cs[5]? == some 'W' then some 8
    else some 10
  else if cs[4]? == some 'W' then
    let stop := 7 + ((cs.drop 7).takeWhile Char.isDigit).length
    if stop < 9 then some stop else if stop % 2 = 0 then some 7 else some 8
  else some 8

/-- A time of day or an offset, and whether bytes are left after it. -/
structure ClockReading where
  /-- The hours. -/
  hour : Nat := 0
  /-- The minutes. -/
  minute : Nat := 0
  /-- The seconds. -/
  second : Nat := 0
  /-- The microseconds. -/
  microsecond : Nat := 0
  /-- Whether bytes are left. -/
  more : Bool := false

/-- The first part of a reading that is not yet filled gets a value. -/
def ClockReading.fill (r : ClockReading) (part value : Nat) : ClockReading :=
  match part with
  | 0 => { r with hour := value }
  | 1 => { r with minute := value }
  | _ => { r with second := value }

/-- Reads the fraction of a second from the `room` bytes before the end: six digits count, and the
digits after them are skipped. -/
def readFraction (r : ClockReading) (room : Nat) (cs : List Char) : Option ClockReading := do
  let (n, rest) ← readDigits (min room 6) 0 cs
  let rest := rest.dropWhile Char.isDigit
  return { r with
    microsecond := n * Nat.pow 10 (6 - min room 6)
    more := !(rest.isEmpty || rest.head? == some '\x00') }

/-- Reads hours, minutes and seconds, of which `parts` are still to come, and a fraction; `room`
bytes belong to the reading. The colons are all there or all missing. -/
def readParts (colons : Option Bool) : Nat → Nat → ClockReading → Nat → List Char →
    Option ClockReading
  | 0, _, r, room, cs => readFraction r room cs
  | parts + 1, part, r, room, cs => do
    let (n, rest) ← readDigits 2 0 cs
    let r := r.fill part n
    let next := rest.headD '\x00'
    let separated := colons.getD (next == ':')
    if room ≤ 3 then some { r with more := next != '\x00' }
    else if separated && next == ':' then
      readParts (some separated) parts (part + 1) r (room - 3) (rest.drop 1)
    else if next == '.' || next == ',' then readFraction r (room - 3) (rest.drop 1)
    else if separated then none
    else readParts (some separated) parts (part + 1) r (room - 2) rest

/-- Reads a time of day or an offset from the first `room` bytes. -/
def readClock (room : Nat) (cs : List Char) : Option ClockReading :=
  readParts none 3 0 {} room cs

/-- Whether a byte begins an offset. -/
def beginsOffset (c : Char) : Bool :=
  c == '+' || c == '-' || c == 'Z'

/-- Reads the offset after a time of day, in microseconds. An offset of zero seconds is zero, whatever
its fraction. -/
def readOffset : List Char → Option Int
  | 'Z' :: rest => if rest.isEmpty || rest.head? == some '\x00' then some 0 else none
  | sign :: rest => do
    let r ← readClock rest.length rest
    let seconds := (r.hour * 60 + r.minute) * 60 + r.second
    let size := if seconds = 0 then 0 else seconds * perSecond + r.microsecond
    if r.more || perDay ≤ size then none else some (signed (sign == '-') size)
  | [] => none

/-- Reads a time of day with an optional offset. -/
def readTime (date : Date) (cs : List Char) : Option DateTime := do
  let first := cs.takeWhile fun c => !beginsOffset c
  let rest := cs.dropWhile fun c => !beginsOffset c
  let r ← readClock first.length cs
  let offset ←
    if rest.isEmpty then (if r.more then none else some none) else (readOffset rest).map some
  let t : DateTime := ⟨date, r.hour, r.minute, r.second, r.microsecond, offset⟩
  if t.isValid then some t else none

/-- How many bytes the character takes that a byte begins. -/
def leadSize (c : Char) : Nat :=
  let n := c.toNat
  if n < 0x80 then 1 else if 0xf0 ≤ n then 4 else if 0xe0 ≤ n then 3 else 2

/-- Reads a date with an optional time of day. -/
def readDateTime (s : String) : Option DateTime := do
  let cs := (encodeUtf8 (faces s.toList)).map fun b => Char.ofNat b.toNat
  if cs.length < 7 then none
  let size ← datePartSize cs
  let date ← readDate size cs
  let rest := cs.drop size
  if rest.isEmpty then some (DateTime.ofDate date)
  else readTime date (rest.drop (leadSize (rest.headD ' ')))

end SqlMapping.Calendar
