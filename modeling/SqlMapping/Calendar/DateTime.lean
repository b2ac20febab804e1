import SqlMapping.Calendar.Date
import SqlMapping.Number.Integer

/-!
# Dates with a time of day

A time is naive or carries its offset from universal time. The microseconds since the beginning
of the year 1 number the naive times; an offset is subtracted to reach universal time.
-/

namespace SqlMapping.Calendar

open SqlMapping.Number

/-- A date with a time of day, and its offset from universal time if it is known. -/
structure DateTime where
  /-- The date. -/
  date : Date
  /-- The hour, below 24. -/
  hour : Nat
  /-- The minute, below 60. -/
  minute : Nat
  /-- The second, below 60. -/
  second : Nat
  /-- The microsecond, below one million. -/
  microsecond : Nat
  /-- The offset from universal time in microseconds, less than a day either way. -/
  offset : Option Int
deriving DecidableEq

/-- Microseconds of a second. -/
def perSecond : Nat := 1000000

/-- Microseconds of a day. -/
def perDay : Nat := 86400 * perSecond

/-- The number of the day on which time stamps count zero seconds. -/
def epochDay : Nat := 719163

namespace DateTime

/-- Midnight of a date. -/
def ofDate (d : Date) : DateTime :=
  ⟨d, 0, 0, 0, 0, none⟩

/-- Whether the date exists and the time of day lies within a day. -/
def isValid (t : DateTime) : Bool :=
  t.date.isValid && t.hour < 24 && t.minute < 60 && t.second < 60 && t.microsecond < perSecond

/-- The microseconds since midnight. -/
def microsecondOfDay (t : DateTime) : Nat :=
  ((t.hour * 60 + t.minute) * 60 + t.second) * perSecond + t.microsecond

/-- The microseconds since the beginning of the year 1, read off the clock. -/
def clock (t : DateTime) : Int :=
  Int.ofNat ((t.date.dayNumber - 1) * perDay + t.microsecondOfDay)

/-- The naive time that so many microseconds after the beginning of the year 1 show, if it lies
within the years 1 to 9999. -/
def ofClock? (n : Int) : Option DateTime :=
  let rest := (n % Int.ofNat perDay).toNat
  (Date.ofDayNumber? (n / Int.ofNat perDay + 1)).map fun date =>
    { date
      hour := rest / (3600 * perSecond)
      minute := rest / (60 * perSecond) % 60
      second := rest / perSecond % 60
      microsecond := rest % perSecond
      offset := none }

/-- The naive universal time: a naive time is kept, an offset is subtracted. There is none when it
lies outside the years 1 to 9999. -/
def toUniversal? (t : DateTime) : Option DateTime :=
  match t.offset with
  | none => some t
  | some offset =>
    if offset = 0 then some { t with offset := none } else ofClock? (t.clock - offset)

/-- The naive universal time so many seconds and microseconds after the epoch. -/
def ofEpoch? (seconds : Int) (microseconds : Nat) : Option DateTime :=
  ofClock? ((Int.ofNat ((epochDay - 1) * 86400) + seconds) * Int.ofNat perSecond +
    Int.ofNat microseconds)

/-- A number with at least `width` digits. -/
def padded (width n : Nat) : String :=
  let digits := Nat.toDigits 10 n
  String.ofList (List.replicate (width - digits.length) '0' ++ digits)

/-- The text of an offset: hours and minutes, and seconds and their fraction if there are any. -/
def offsetText (offset : Int) : String :=
  let n := offset.natAbs
  let seconds := n / perSecond
  (if offset < 0 then "-" else "+") ++ padded 2 (seconds / 3600) ++ ":" ++
    padded 2 (seconds / 60 % 60) ++
    (if n % (60 * perSecond) = 0 then "" else ":" ++ padded 2 (seconds % 60)) ++
    (if n % perSecond = 0 then "" else "." ++ padded 6 (n % perSecond))

end DateTime

/-- The text of a date. -/
def Date.text (d : Date) : String :=
  DateTime.padded 4 d.year ++ "-" ++ DateTime.padded 2 d.month ++ "-" ++ DateTime.padded 2 d.day

/-- The text of a time with `separator` between the date and the time of day. -/
def DateTime.text (separator : String) (t : DateTime) : String :=
  t.date.text ++ separator ++ padded 2 t.hour ++ ":" ++ padded 2 t.minute ++ ":" ++
    padded 2 t.second ++ (if t.microsecond = 0 then "" else "." ++ padded 6 t.microsecond) ++
    (match t.offset with
      | none => ""
      | some offset => offsetText offset)

end SqlMapping.Calendar
