/-!
# Dates

Dates of the Gregorian calendar from the year 1 to the year 9999, and their numbering by days:
the first of January of the year 1 is day 1.
-/

namespace SqlMapping.Calendar

/-- A date. -/
structure Date where
  /-- The year. -/
  year : Nat
  /-- The month, from 1. -/
  month : Nat
  /-- The day of the month, from 1. -/
  day : Nat
deriving DecidableEq

/-- Whether a year has a 29th of February. -/
def isLeapYear (year : Nat) : Bool :=
  year % 4 == 0 && (year % 100 != 0 || year % 400 == 0)

/-- The lengths of the months of a year. -/
def monthLengths (year : Nat) : List Nat :=
  [31, if isLeapYear year then 29 else 28, 31, 30, 31, 30, 31, 31, 30, 31, 30, 31]

/-- The number of days of a month. -/
def daysInMonth (year month : Nat) : Nat :=
  (monthLengths year).getD (month - 1) 0

/-- The number of days before the first of January. -/
def daysBeforeYear (year : Nat) : Nat :=
  let past := year - 1
  past * 365 + past / 4 - past / 100 + past / 400

/-- The number of days of the year before the first of the month. -/
def daysBeforeMonth (year month : Nat) : Nat :=
  ((monthLengths year).take (month - 1)).foldl (· + ·) 0

namespace Date

/-- Whether the month and the day exist, in a year that can be represented. -/
def isValid (d : Date) : Bool :=
  1 ≤ d.year && d.year ≤ 9999 && 1 ≤ d.month && d.month ≤ 12 && 1 ≤ d.day &&
    d.day ≤ daysInMonth d.year d.month

/-- A date that exists. -/
def ofParts? (year month day : Nat) : Option Date :=
  let d : Date := ⟨year, month, day⟩
  if d.isValid then some d else none

/-- The number of the day. -/
def dayNumber (d : Date) : Nat :=
  daysBeforeYear d.year + daysBeforeMonth d.year d.month + d.day

/-- The month and the day of the month of a day of the year, counted from 0. -/
def monthAndDay : List Nat → Nat → Nat → Nat × Nat
  | [], month, rest => (month, rest + 1)
  | length :: lengths, month, rest =>
    if rest < length then (month, rest + 1) else monthAndDay lengths (month + 1) (rest - length)

/-- The date of a day number. -/
def ofDayNumber (n : Nat) : Date :=
  let n := n - 1
  let n400 := n / 146097
  let r := n % 146097
  let n100 := min (r / 36524) 3
  let r := r - n100 * 36524
  let n4 := r / 1461
  let r := r % 1461
  let n1 := min (r / 365) 3
  let r := r - n1 * 365
  let year := 400 * n400 + 100 * n100 + 4 * n4 + n1 + 1
  let (month, day) := monthAndDay (monthLengths year) 1 r
  ⟨year, month, day⟩

/-- The number of the first day after the year 9999. -/
def dayNumberEnd : Nat := 3652060

/-- The date of a day number that lies within the years 1 to 9999. -/
def ofDayNumber? (n : Int) : Option Date :=
  if 1 ≤ n && n < Int.ofNat dayNumberEnd then some (ofDayNumber n.toNat) else none

/-- The day number of the Monday of the first week of a year: the week that holds the year's
first Thursday. -/
def firstMonday (year : Nat) : Int :=
  let first := daysBeforeYear year + 1
  let weekday := (first + 6) % 7
  let monday := Int.ofNat first - Int.ofNat weekday
  if weekday > 3 then monday + 7 else monday

/-- Whether a year has a week of that number. -/
def hasWeek (year week : Nat) : Bool :=
  (1 ≤ week && week ≤ 52) ||
    (week == 53 &&
      let weekday := (daysBeforeYear year + 1) % 7
      weekday == 4 || (weekday == 3 && isLeapYear year))

/-- The date of a day, counted from Monday as 1, of a week of a year. -/
def ofWeek? (year week day : Nat) : Option Date :=
  if 1 ≤ year && year ≤ 9999 && hasWeek year week && 1 ≤ day && day ≤ 7 then
    ofDayNumber? (firstMonday year + Int.ofNat ((week - 1) * 7 + (day - 1)))
  else none

end Date

end SqlMapping.Calendar
