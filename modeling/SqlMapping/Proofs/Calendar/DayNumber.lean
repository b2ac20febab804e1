import Mathlib.Algebra.Order.Ring.Nat
import Mathlib.Tactic.Lemma
import Mathlib.Tactic.SplitIfs
import SqlMapping.Calendar.DateTime

/-!
# Numbers of days and of microseconds

A date is found again from the number of its day, and a naive time from the microseconds that its
clock shows. The number of a day counts whole years first: with the past years split into groups of
400, 100 and 4 years, each division of the way back gives one part of the split. Only the last group
of 100 years in 400, and the last year in 4, may be a day longer than the others of their kind,
which is why two of the quotients are bounded by 3.

From years the numbering goes on to months: the days of a year are run through month by month.
-/

namespace SqlMapping.Calendar

/-! ## Years -/

/-- The number of days of a year. -/
def yearLength (year : Nat) : Nat :=
  if isLeapYear year then 366 else 365

/-- Every fourth year is a leap year, except for the hundredth ones that are no 400th ones. -/
lemma isLeapYear_iff {year : Nat} :
    isLeapYear year = true ↔ year % 4 = 0 ∧ (year % 100 ≠ 0 ∨ year % 400 = 0) := by
  simp [isLeapYear]

/-- The months of a year make up the year. -/
lemma sum_monthLengths (year : Nat) : (monthLengths year).sum = yearLength year := by
  rw [monthLengths, yearLength]
  cases isLeapYear year <;> rfl

/-- The days before a year are followed by its own days. -/
lemma daysBeforeYear_succ {year : Nat} (hyear : 1 ≤ year) :
    daysBeforeYear (year + 1) = daysBeforeYear year + yearLength year := by
  obtain ⟨past, rfl⟩ : ∃ past, year = past + 1 := ⟨year - 1, by omega⟩
  have hcenturies : past / 100 ≤ past / 4 := Nat.div_le_div_left (by decide) (by decide)
  have hfourth : (past + 1) % 100 = 0 → (past + 1) % 4 = 0 := by omega
  have hcentury : (past + 1) % 400 = 0 → (past + 1) % 100 = 0 := by omega
  simp only [daysBeforeYear, yearLength, isLeapYear_iff, Nat.add_sub_cancel, Nat.succ_div,
    Nat.dvd_iff_mod_eq_zero]
  -- beyond these facts nothing is needed of the quotients and remainders
  generalize past / 4 = fourths, past / 100 = centuries, past / 400 = fourCenturies,
    (past + 1) % 4 = r, (past + 1) % 100 = s, (past + 1) % 400 = t at *
  split_ifs <;> omega

/-- The days before a year are not more than those before a later one. -/
lemma daysBeforeYear_le {year later : Nat} (hyear : 1 ≤ year) (h : year ≤ later) :
    daysBeforeYear year ≤ daysBeforeYear later := by
  induction later, h using Nat.le_induction with
  | base => exact Nat.le_refl _
  | succ later h ih =>
    rw [daysBeforeYear_succ (Nat.le_trans hyear h)]
    exact Nat.le_add_right_of_le ih

/-! ## Months -/

/-- The days before a month, as a sum. -/
lemma daysBeforeMonth_eq_sum (year month : Nat) :
    daysBeforeMonth year month = ((monthLengths year).take (month - 1)).sum :=
  List.sum_eq_foldl.symm

/-- The days before a month and those of the month belong to one year. -/
lemma sum_take_add_getD_le (lengths : List Nat) (k : Nat) :
    (lengths.take k).sum + lengths.getD k 0 ≤ lengths.sum := by
  induction lengths generalizing k with
  | nil => simp
  | cons length lengths ih =>
    cases k with
    | zero => simp
    | succ k =>
      have hrest := ih k
      simp only [List.take_succ_cons, List.sum_cons, List.getD_cons_succ]
      omega

namespace Date

/-- A day of a month is found again by running through the lengths of the months. -/
lemma monthAndDay_sum_take {lengths : List Nat} {k day : Nat} (first : Nat)
    (hday : day < lengths.getD k 0) :
    monthAndDay lengths first ((lengths.take k).sum + day) = (first + k, day + 1) := by
  induction lengths generalizing k first with
  | nil => simp at hday
  | cons length lengths ih =>
    cases k with
    | zero =>
      have hshort : day < length := hday
      simp [monthAndDay, hshort]
    | succ k =>
      rw [List.getD_cons_succ] at hday
      have hlong : ¬length + (lengths.take k).sum + day < length := by omega
      have hrest : length + (lengths.take k).sum + day - length = (lengths.take k).sum + day := by
        omega
      rw [List.take_succ_cons, List.sum_cons, monthAndDay, if_neg hlong, hrest, ih _ hday]
      congr 1
      omega

/-! ## Dates -/

/-- What it means that a date exists. -/
lemma isValid_iff {d : Date} : d.isValid = true ↔
    (1 ≤ d.year ∧ d.year ≤ 9999) ∧ (1 ≤ d.month ∧ d.month ≤ 12) ∧
      1 ≤ d.day ∧ d.day ≤ daysInMonth d.year d.month := by
  simp [isValid, and_assoc]

/-- The day of the year of a date that exists, counted from 0, lies within the year. -/
lemma dayOfYear_lt {d : Date} (h : d.isValid = true) :
    daysBeforeMonth d.year d.month + (d.day - 1) < yearLength d.year := by
  obtain ⟨-, -, hfirst, hlast⟩ := isValid_iff.mp h
  have hmonth := sum_take_add_getD_le (monthLengths d.year) (d.month - 1)
  rw [sum_monthLengths, ← daysBeforeMonth_eq_sum] at hmonth
  rw [daysInMonth] at hlast
  omega

/-- The day number of a date that exists lies within the numbering. -/
lemma dayNumber_lt {d : Date} (h : d.isValid = true) : d.dayNumber < dayNumberEnd := by
  have hrest := dayOfYear_lt h
  obtain ⟨⟨hyear, hlast⟩, -⟩ := isValid_iff.mp h
  have hnext := daysBeforeYear_succ hyear
  have hend : daysBeforeYear (d.year + 1) ≤ daysBeforeYear 10000 :=
    daysBeforeYear_le (by omega) (by omega)
  have hvalue : daysBeforeYear 10000 + 1 = dayNumberEnd := rfl
  rw [dayNumber]
  omega

/-- The first day has the number 1. -/
lemma one_le_dayNumber {d : Date} (h : d.isValid = true) : 1 ≤ d.dayNumber := by
  obtain ⟨-, -, hfirst, -⟩ := isValid_iff.mp h
  rw [dayNumber]
  omega

/-- Within 400 years the parts of the split are found again from the days. The day that is left over
belongs to the last part, and does not make a further one. -/
lemma quotients_of_days {b c e rest : Nat} (hb : b < 4) (hc : c < 25) (he : e < 4)
    (hrest : rest < 365 ∨ rest = 365 ∧ e = 3 ∧ (c < 24 ∨ b = 3)) :
    min ((36524 * b + 1461 * c + 365 * e + rest) / 36524) 3 = b ∧
      (1461 * c + 365 * e + rest) / 1461 = c ∧
      (1461 * c + 365 * e + rest) % 1461 = 365 * e + rest ∧
      min ((365 * e + rest) / 365) 3 = e := by
  refine ⟨?_, ?_, ?_, ?_⟩ <;> omega

/-- The year is found again from the number of a day, and the day of the year is what is left. -/
lemma ofDayNumber_daysBeforeYear {year rest month day : Nat} (hyear : 1 ≤ year)
    (hrest : rest < yearLength year)
    (hparts : monthAndDay (monthLengths year) 1 rest = (month, day)) :
    ofDayNumber (daysBeforeYear year + rest + 1) = ⟨year, month, day⟩ := by
  obtain ⟨a, b, c, e, hb, hc, he, rfl⟩ : ∃ a b c e, b < 4 ∧ c < 25 ∧ e < 4 ∧
      year = 400 * a + 100 * b + 4 * c + e + 1 :=
    ⟨(year - 1) / 400, (year - 1) % 400 / 100, (year - 1) % 100 / 4, (year - 1) % 4,
      by omega, by omega, by omega, by omega⟩
  have hdays : daysBeforeYear (400 * a + 100 * b + 4 * c + e + 1) =
      146097 * a + 36524 * b + 1461 * c + 365 * e := by
    rw [daysBeforeYear]
    omega
  have hlength : rest < 365 ∨ rest = 365 ∧ e = 3 ∧ (c < 24 ∨ b = 3) := by
    simp only [yearLength, isLeapYear_iff] at hrest
    split_ifs at hrest <;> omega
  generalize hn : 146097 * a + 36524 * b + 1461 * c + 365 * e + rest = n
  have h400 : n / 146097 = a := by omega
  have hrest400 : n % 146097 = 36524 * b + 1461 * c + 365 * e + rest := by omega
  have hrest100 : 36524 * b + 1461 * c + 365 * e + rest - b * 36524 =
      1461 * c + 365 * e + rest := by omega
  have hrest1 : 365 * e + rest - e * 365 = rest := by omega
  obtain ⟨h100, h4, hrest4, h1⟩ := quotients_of_days hb hc he hlength
  -- by rewriting: the kernel is slow to compare the steps of the division in another form
  rw [ofDayNumber, hdays, hn, Nat.add_sub_cancel, h400, hrest400, h100, hrest100, h4, hrest4, h1,
    hrest1, hparts]

/-- **A date is found again from the number of its day.** -/
theorem ofDayNumber_dayNumber {d : Date} (h : d.isValid = true) : ofDayNumber d.dayNumber = d := by
  have hlt := dayOfYear_lt h
  obtain ⟨⟨hyear, -⟩, ⟨hmonth, -⟩, hfirst, hlast⟩ := isValid_iff.mp h
  have hnumber : d.dayNumber =
      daysBeforeYear d.year + (daysBeforeMonth d.year d.month + (d.day - 1)) + 1 := by
    rw [dayNumber]
    omega
  have hday : d.day - 1 < (monthLengths d.year).getD (d.month - 1) 0 := by
    rw [daysInMonth] at hlast
    omega
  have hparts : monthAndDay (monthLengths d.year) 1
      (daysBeforeMonth d.year d.month + (d.day - 1)) = (d.month, d.day) := by
    rw [daysBeforeMonth_eq_sum, monthAndDay_sum_take 1 hday, Nat.add_sub_cancel' hmonth,
      Nat.sub_add_cancel hfirst]
  rw [hnumber, ofDayNumber_daysBeforeYear hyear hlt hparts]

/-- Within the numbering, every number of a day of a date that exists has this date. -/
lemma ofDayNumber?_dayNumber {d : Date} (h : d.isValid = true) :
    ofDayNumber? d.dayNumber = some d := by
  have hbounds : (1 ≤ (d.dayNumber : Int) && (d.dayNumber : Int) < Int.ofNat dayNumberEnd) =
      true := by
    have hone := one_le_dayNumber h
    have hlt := dayNumber_lt h
    simp only [Bool.and_eq_true, decide_eq_true_eq, Int.ofNat_eq_natCast]
    omega
  rw [ofDayNumber?, if_pos hbounds, Int.toNat_natCast, ofDayNumber_dayNumber h]

end Date

/-! ## Times -/

namespace DateTime

/-- What it means that a time exists. -/
lemma isValid_iff {t : DateTime} : t.isValid = true ↔
    t.date.isValid = true ∧ t.hour < 24 ∧ t.minute < 60 ∧ t.second < 60 ∧
      t.microsecond < perSecond := by
  simp [isValid, and_assoc]

/-- The time of day of a time that exists lies within the day. -/
lemma microsecondOfDay_lt {t : DateTime} (h : t.isValid = true) : t.microsecondOfDay < perDay := by
  obtain ⟨-, hhour, hminute, hsecond, hmicrosecond⟩ := isValid_iff.mp h
  simp only [microsecondOfDay, perDay, perSecond] at *
  omega

/-- The parts of the time of day are found again. -/
lemma parts_microsecondOfDay {t : DateTime} (h : t.isValid = true) :
    t.microsecondOfDay / (3600 * perSecond) = t.hour ∧
      t.microsecondOfDay / (60 * perSecond) % 60 = t.minute ∧
      t.microsecondOfDay / perSecond % 60 = t.second ∧
      t.microsecondOfDay % perSecond = t.microsecond := by
  obtain ⟨-, -, hminute, hsecond, hmicrosecond⟩ := isValid_iff.mp h
  simp only [perSecond] at hmicrosecond
  simp only [microsecondOfDay, perSecond]
  refine ⟨?_, ?_, ?_, ?_⟩ <;> omega

/-- The clock of a time that exists lies within the years 1 to 9999. -/
lemma clock_bounds {t : DateTime} (h : t.isValid = true) :
    0 ≤ t.clock ∧ t.clock < (Date.dayNumberEnd - 1) * perDay := by
  have hday := microsecondOfDay_lt h
  have hlt := Date.dayNumber_lt (isValid_iff.mp h).1
  simp only [clock, Int.ofNat_eq_natCast, Date.dayNumberEnd, perDay, perSecond] at *
  omega

/-- **A naive time is found again from what its clock shows.** -/
theorem ofClock?_clock {t : DateTime} (h : t.isValid = true) :
    ofClock? t.clock = some { t with offset := none } := by
  have hlt := microsecondOfDay_lt h
  have hdate := (isValid_iff.mp h).1
  have hone := Date.one_le_dayNumber hdate
  have hday : t.clock / Int.ofNat perDay + 1 = t.date.dayNumber := by
    simp only [clock, Int.ofNat_eq_natCast, perDay, perSecond] at *
    omega
  have hrest : (t.clock % Int.ofNat perDay).toNat = t.microsecondOfDay := by
    simp only [clock, Int.ofNat_eq_natCast, perDay, perSecond] at *
    omega
  obtain ⟨hhour, hminute, hsecond, hmicrosecond⟩ := parts_microsecondOfDay h
  rw [ofClock?, hday, hrest, Date.ofDayNumber?_dayNumber hdate, hhour, hminute, hsecond,
    hmicrosecond]
  rfl

/-- A time without an offset is itself found again. -/
lemma ofClock?_clock_of_naive {t : DateTime} (h : t.isValid = true) (hnaive : t.offset = none) :
    ofClock? t.clock = some t := by
  rw [ofClock?_clock h, ← hnaive]

end DateTime

end SqlMapping.Calendar
