import Mathlib.Data.List.Basic
import Mathlib.Tactic.Lemma
import Mathlib.Tactic.SplitIfs
import SqlMapping.Calendar.Notation
import SqlMapping.Proofs.Calendar.DayNumber
import SqlMapping.Proofs.Number.Digits
import SqlMapping.Proofs.Text.CodePoint

/-!
# Times read back

The text of a time is read back as that time, naive or with an offset of whole minutes, whatever
character stands between the date and the time of day (`readDateTime_text`). The parts of a text are
read one after the other, so each part has a lemma that leaves the text behind it open.

The reader works on bytes. All of a text but the separator is ASCII, where a character is its byte,
and the number of bytes of the separator is told by the first of them.
-/

namespace SqlMapping.Calendar

open SqlMapping.Number SqlMapping.Text

/-! ## Digits -/

namespace DateTime

/-- A padded number as a list of characters. -/
lemma toList_padded (width n : Nat) : (padded width n).toList =
    List.replicate (width - (Nat.toDigits 10 n).length) '0' ++ Nat.toDigits 10 n :=
  String.toList_ofList

/-- A number that fits the width fills it. -/
lemma length_padded {width n : Nat} (hwidth : 0 < width) (h : n < 10 ^ width) :
    (padded width n).toList.length = width := by
  have hlength := (Nat.length_toDigits_le_iff (by decide) hwidth).mpr h
  rw [toList_padded, List.length_append, List.length_replicate]
  omega

/-- A number of hours, minutes or seconds takes two digits. -/
lemma length_padded_two {n : Nat} (h : n < 60) : (padded 2 n).toList.length = 2 :=
  length_padded (by decide) (by omega)

/-- A padded number consists of digits. -/
lemma isDigit_of_mem_padded {width n : Nat} {c : Char} (h : c ∈ (padded width n).toList) :
    c.isDigit = true := by
  rw [toList_padded, List.mem_append] at h
  rcases h with h | h
  · rw [List.eq_of_mem_replicate h]
    rfl
  · exact Nat.isDigit_of_mem_toDigits (by decide) (by decide) h

/-- The zeros in front do not change a number. -/
lemma ofDigitChars_padded (width n : Nat) : Nat.ofDigitChars 10 (padded width n).toList 0 = n := by
  have hzeros : ∀ k, Nat.ofDigitChars 10 (List.replicate k '0') 0 = 0 := by
    intro k
    induction k with
    | zero => rfl
    | succ k ih => exact ih
  rw [toList_padded, Nat.ofDigitChars_append, hzeros,
    Nat.ofDigitChars_toDigits (by decide) (by decide)]

end DateTime

open DateTime

/-- As many digits as asked for are read. -/
lemma readDigits_append {ds : List Char} (hdigits : ∀ c ∈ ds, c.isDigit = true) (n : Nat)
    (rest : List Char) :
    readDigits ds.length n (ds ++ rest) = some (Nat.ofDigitChars 10 ds n, rest) := by
  induction ds generalizing n with
  | nil => rfl
  | cons c ds ih =>
    have hrest := ih (fun d hd => hdigits d (List.mem_cons_of_mem _ hd)) (10 * n + (c.toNat - 48))
    rw [List.cons_append, List.length_cons, readDigits, if_pos (hdigits c List.mem_cons_self),
      hrest, Nat.ofDigitChars_cons]
    rfl

/-- A padded number is read back. -/
lemma readDigits_padded {width n : Nat} (hwidth : 0 < width) (h : n < 10 ^ width)
    (rest : List Char) :
    readDigits width 0 ((padded width n).toList ++ rest) = some (n, rest) := by
  have hdigits : ∀ c ∈ (padded width n).toList, c.isDigit = true := fun _ => isDigit_of_mem_padded
  have hread := readDigits_append hdigits 0 rest
  rwa [length_padded hwidth h, ofDigitChars_padded] at hread

/-- A padded number begins with a digit. -/
lemma exists_padded_append {width n : Nat} (hwidth : 0 < width) (h : n < 10 ^ width)
    (rest : List Char) :
    ∃ c cs, (padded width n).toList ++ rest = c :: cs ∧ c.isDigit = true := by
  have hlength := length_padded hwidth h
  cases hdigits : (padded width n).toList with
  | nil =>
    rw [hdigits] at hlength
    exact absurd hlength hwidth.ne
  | cons c cs => exact ⟨c, cs ++ rest, rfl, isDigit_of_mem_padded (hdigits ▸ List.mem_cons_self)⟩

/-! ## Dates -/

/-- The text of a date as a list of characters. -/
lemma Date.toList_text (d : Date) : d.text.toList =
    (padded 4 d.year).toList ++ '-' :: ((padded 2 d.month).toList ++
      '-' :: (padded 2 d.day).toList) := by
  simp [Date.text, String.toList_append]

/-- The numbers of a date that exists fit the text. -/
lemma Date.lt_of_isValid {d : Date} (h : d.isValid = true) :
    d.year < 10 ^ 4 ∧ d.month < 10 ^ 2 ∧ d.day < 10 ^ 2 := by
  obtain ⟨⟨-, hyear⟩, ⟨-, hmonth⟩, -, hday⟩ := Date.isValid_iff.mp h
  have hlength : ∀ k, (monthLengths d.year).getD k 0 ≤ 31 := by
    have hall : ∀ n ∈ monthLengths d.year, n ≤ 31 := by
      rw [monthLengths]
      cases isLeapYear d.year <;> decide
    intro k
    rw [List.getD_eq_getElem?_getD]
    cases hget : (monthLengths d.year)[k]? with
    | none => exact Nat.zero_le 31
    | some n => exact hall n (List.mem_of_getElem? hget)
  have hle := hlength (d.month - 1)
  rw [daysInMonth] at hday
  omega

/-- The text of a date that exists has ten characters. -/
lemma Date.length_text {d : Date} (h : d.isValid = true) : d.text.toList.length = 10 := by
  obtain ⟨hyear, hmonth, hday⟩ := Date.lt_of_isValid h
  rw [Date.toList_text, List.length_append, List.length_cons, List.length_append, List.length_cons,
    length_padded (by decide) hyear, length_padded (by decide) hmonth,
    length_padded (by decide) hday]

/-- In the text of a date that exists, the month stands behind the year, and begins with a character
that does not announce the number of a week. -/
lemma Date.exists_text_append {d : Date} (h : d.isValid = true) (rest : List Char) :
    ∃ c cs, d.text.toList ++ rest = (padded 4 d.year).toList ++ '-' :: c :: cs ∧
      (padded 2 d.month).toList ++ '-' :: ((padded 2 d.day).toList ++ rest) = c :: cs ∧
      c ≠ 'W' := by
  obtain ⟨-, hmonth, -⟩ := Date.lt_of_isValid h
  obtain ⟨c, cs, hcs, hdigit⟩ := exists_padded_append (by decide) hmonth
    ('-' :: ((padded 2 d.day).toList ++ rest))
  refine ⟨c, cs, ?_, hcs, ?_⟩
  · rw [Date.toList_text, List.append_assoc, List.cons_append, List.append_assoc, List.cons_append,
      hcs]
  · rintro rfl
    exact absurd hdigit (by decide)

/-- The text of a date that exists is taken for the date part. -/
lemma datePartSize_text {d : Date} (h : d.isValid = true) (rest : List Char) :
    datePartSize (d.text.toList ++ rest) = some 10 := by
  obtain ⟨hyear, -⟩ := Date.lt_of_isValid h
  obtain ⟨c, cs, hlist, -, hweek⟩ := Date.exists_text_append h rest
  have hlength : 10 + rest.length ≠ 7 := by omega
  have hhyphen : (d.text.toList ++ rest)[4]? = some '-' := by
    rw [hlist, List.getElem?_append_right (by rw [length_padded (by decide) hyear]),
      length_padded (by decide) hyear]
    rfl
  have hmonth : (d.text.toList ++ rest)[5]? = some c := by
    rw [hlist, List.getElem?_append_right (by rw [length_padded (by decide) hyear]; decide),
      length_padded (by decide) hyear]
    rfl
  simp [datePartSize, Date.length_text h, hlength, hhyphen, hmonth, hweek]

/-- A date is read back. -/
lemma readDate_text {d : Date} (h : d.isValid = true) (rest : List Char) :
    readDate 10 (d.text.toList ++ rest) = some d := by
  obtain ⟨hyear, hmonth, hday⟩ := Date.lt_of_isValid h
  obtain ⟨c, cs, hlist, hcs, hweek⟩ := Date.exists_text_append h rest
  have hmonth' := readDigits_padded (by decide) hmonth ('-' :: ((padded 2 d.day).toList ++ rest))
  have hyear' : readDigits 4 0 (d.text.toList ++ rest) = some (d.year, '-' :: c :: cs) := by
    rw [hlist]
    exact readDigits_padded (by decide) hyear _
  rw [hcs] at hmonth'
  simp only [readDate, hyear', List.head?_cons, beq_self_eq_true, if_true, List.drop_one,
    List.tail_cons, Option.bind_eq_bind, Option.bind_some]
  split
  · rename_i heq
    exact absurd (List.cons.inj heq).1 hweek
  · simp [hmonth', readHyphen, readDigits_padded (by decide) hday rest, Date.length_text h,
      Date.ofParts?, h]

/-! ## Times of day -/

/-- The time of day of a text, as a list of characters. -/
def DateTime.clockText (t : DateTime) : List Char :=
  (padded 2 t.hour).toList ++ ':' :: ((padded 2 t.minute).toList ++ ':' ::
    ((padded 2 t.second).toList ++
      (if t.microsecond = 0 then [] else '.' :: (padded 6 t.microsecond).toList)))

/-- What may stand behind a time of day: nothing, or an offset. -/
def EndsClock (tail : List Char) : Prop :=
  ∀ c ∈ tail.head?, beginsOffset c = true

/-- A digit does not begin an offset. -/
lemma not_beginsOffset_of_isDigit {c : Char} (h : c.isDigit = true) : beginsOffset c = false := by
  cases hoffset : beginsOffset c with
  | false => rfl
  | true =>
    simp only [beginsOffset, Bool.or_eq_true, beq_iff_eq] at hoffset
    rcases hoffset with (rfl | rfl) | rfl <;> exact absurd h (by decide)

/-- A time of day consists of digits, colons and a point. -/
lemma DateTime.isDigit_or_of_mem_clockText {t : DateTime} {c : Char} (h : c ∈ t.clockText) :
    c.isDigit = true ∨ c = ':' ∨ c = '.' := by
  simp only [clockText, List.mem_append, List.mem_cons] at h
  rcases h with h | h | h | h | h | h
  · exact Or.inl (isDigit_of_mem_padded h)
  · exact Or.inr (Or.inl h)
  · exact Or.inl (isDigit_of_mem_padded h)
  · exact Or.inr (Or.inl h)
  · exact Or.inl (isDigit_of_mem_padded h)
  · split_ifs at h
    · exact absurd h List.not_mem_nil
    · rcases List.mem_cons.mp h with h | h
      · exact Or.inr (Or.inr h)
      · exact Or.inl (isDigit_of_mem_padded h)

/-- No character of a time of day begins an offset. -/
lemma not_beginsOffset_of_mem_clockText {t : DateTime} {c : Char} (h : c ∈ t.clockText) :
    beginsOffset c = false := by
  rcases t.isDigit_or_of_mem_clockText h with hdigit | rfl | rfl
  · exact not_beginsOffset_of_isDigit hdigit
  · rfl
  · rfl

/-- Two digits and a colon are read, and the reading goes on behind them. -/
lemma readParts_colon {colons : Option Bool} {parts part room n : Nat} {r : ClockReading}
    (hcolons : colons.getD true = true) (hroom : 3 < room) (hn : n < 60) (rest : List Char) :
    readParts colons (parts + 1) part r room ((padded 2 n).toList ++ ':' :: rest) =
      readParts (some true) parts (part + 1) (r.fill part n) (room - 3) rest := by
  have hread := readDigits_padded (by decide) (show n < 10 ^ 2 by omega) (':' :: rest)
  have hlong : ¬room ≤ 3 := by omega
  simp [readParts, hread, hlong, hcolons]

/-- Two digits at the end are read, and what follows them is noticed. -/
lemma readParts_end {colons : Option Bool} {parts part n : Nat} {r : ClockReading} (hn : n < 60)
    (rest : List Char) :
    readParts colons (parts + 1) part r 2 ((padded 2 n).toList ++ rest) =
      some { r.fill part n with more := rest.headD '\x00' != '\x00' } := by
  have hread := readDigits_padded (by decide) (show n < 10 ^ 2 by omega) rest
  simp [readParts, hread]

/-- Six digits behind a point are microseconds. -/
lemma readParts_point {parts part n k : Nat} {r : ClockReading} (hn : n < 60)
    (hk : k < perSecond) {tail : List Char} (htail : EndsClock tail) :
    readParts (some true) (parts + 1) part r 9
        ((padded 2 n).toList ++ '.' :: ((padded 6 k).toList ++ tail)) =
      some { r.fill part n with
        microsecond := k
        more := !(tail.isEmpty || tail.head? == some '\x00') } := by
  have hread := readDigits_padded (by decide) (show n < 10 ^ 2 by omega)
    ('.' :: ((padded 6 k).toList ++ tail))
  have hfraction := readDigits_padded (by decide) (show k < 10 ^ 6 from hk) tail
  have hskip : tail.dropWhile Char.isDigit = tail := by
    cases tail with
    | nil => rfl
    | cons c cs =>
      have hdigit : ¬c.isDigit = true := fun hdigit => by
        have hoffset := htail c rfl
        rw [not_beginsOffset_of_isDigit hdigit] at hoffset
        exact Bool.false_ne_true hoffset
      exact List.dropWhile_cons_of_neg hdigit
  simp [readParts, hread, readFraction, hfraction, hskip]

/-- What follows a time of day is noticed. -/
lemma more_eq_of_endsClock {tail : List Char} (htail : EndsClock tail) :
    (tail.headD '\x00' != '\x00') = !tail.isEmpty ∧
      (!(tail.isEmpty || tail.head? == some '\x00')) = !tail.isEmpty := by
  cases tail with
  | nil => exact ⟨rfl, rfl⟩
  | cons c cs =>
    have hne : c ≠ '\x00' := by
      rintro rfl
      exact absurd (htail _ rfl) (by decide)
    simp [hne]

/-- A time of day is read back, and what follows it is noticed. -/
lemma readClock_clockText {t : DateTime} (h : t.isValid = true) {tail : List Char}
    (htail : EndsClock tail) :
    readClock t.clockText.length (t.clockText ++ tail) =
      some ⟨t.hour, t.minute, t.second, t.microsecond, !tail.isEmpty⟩ := by
  obtain ⟨-, hhour, hminute, hsecond, hmicrosecond⟩ := DateTime.isValid_iff.mp h
  have hhour' : t.hour < 60 := by omega
  obtain ⟨hmore, hmore'⟩ := more_eq_of_endsClock htail
  rw [readClock, DateTime.clockText]
  by_cases hzero : t.microsecond = 0
  · simp only [hzero, if_true, List.append_nil, List.append_assoc, List.cons_append,
      List.length_append, List.length_cons, length_padded_two hhour', length_padded_two hminute,
      length_padded_two hsecond]
    rw [readParts_colon rfl (by decide) hhour', readParts_colon rfl (by decide) hminute,
      readParts_end hsecond, hmore]
    rfl
  · have hsix : (padded 6 t.microsecond).toList.length = 6 := length_padded (by decide) hmicrosecond
    simp only [hzero, if_false, List.append_assoc, List.cons_append, List.length_append,
      List.length_cons, length_padded_two hhour', length_padded_two hminute,
      length_padded_two hsecond, hsix]
    rw [readParts_colon rfl (by decide) hhour', readParts_colon rfl (by decide) hminute,
      readParts_point hsecond hmicrosecond htail, hmore']
    rfl

/-! ## Offsets -/

/-- An offset of so many minutes. -/
def minutesOffset (minutes : Int) : Int :=
  minutes * (60 * perSecond)

/-- The text of an offset of whole minutes. -/
lemma toList_offsetText (minutes : Int) : (offsetText (minutesOffset minutes)).toList =
    (if minutes < 0 then '-' else '+') :: ((padded 2 (minutes.natAbs / 60)).toList ++
      ':' :: (padded 2 (minutes.natAbs % 60)).toList) := by
  have hsize : (minutesOffset minutes).natAbs = minutes.natAbs * (60 * perSecond) := by
    rw [minutesOffset, Int.natAbs_mul]
    rfl
  have hhour : minutes.natAbs * (60 * perSecond) / perSecond / 3600 = minutes.natAbs / 60 := by
    simp only [perSecond]
    omega
  have hminute : minutes.natAbs * (60 * perSecond) / perSecond / 60 % 60 =
      minutes.natAbs % 60 := by
    simp only [perSecond]
    omega
  have hsecond : minutes.natAbs * (60 * perSecond) % perSecond = 0 := by
    simp only [perSecond]
    omega
  have hsign : (minutesOffset minutes < 0) = (minutes < 0) := by
    simp only [minutesOffset, perSecond, eq_iff_iff]
    omega
  rw [offsetText]
  simp only [hsize, hhour, hminute, hsecond, hsign, Nat.mul_mod_left, if_true, String.append_empty,
    String.toList_append]
  split_ifs <;> simp

/-- Hours and minutes alone are read back. -/
lemma readClock_hourMinute {hour minute : Nat} (hhour : hour < 60) (hminute : minute < 60) :
    readClock ((padded 2 hour).toList ++ ':' :: (padded 2 minute).toList).length
        ((padded 2 hour).toList ++ ':' :: (padded 2 minute).toList) =
      some ⟨hour, minute, 0, 0, false⟩ := by
  simp only [List.length_append, List.length_cons, length_padded_two hhour,
    length_padded_two hminute]
  rw [readClock, readParts_colon rfl (by decide) hhour,
    ← List.append_nil (padded 2 minute).toList, readParts_end hminute]
  rfl

/-- An offset of whole minutes, less than a day either way, is read back. -/
lemma readOffset_offsetText {minutes : Int} (h : minutes.natAbs < 1440) :
    readOffset (offsetText (minutesOffset minutes)).toList = some (minutesOffset minutes) := by
  have hhour : minutes.natAbs / 60 < 60 := by omega
  have hminute : minutes.natAbs % 60 < 60 := by omega
  have hclock := readClock_hourMinute hhour hminute
  have hseconds : (minutes.natAbs / 60 * 60 + minutes.natAbs % 60) * 60 + 0 =
      minutes.natAbs * 60 := by
    omega
  have hsize : (if minutes.natAbs * 60 = 0 then 0 else minutes.natAbs * 60 * perSecond + 0) =
      minutes.natAbs * (60 * perSecond) := by
    simp only [perSecond]
    split_ifs <;> omega
  have hday : ¬perDay ≤ minutes.natAbs * (60 * perSecond) := by
    simp only [perDay, perSecond]
    omega
  have hsigned : signed (decide (minutes < 0)) (minutes.natAbs * (60 * perSecond)) =
      minutesOffset minutes := by
    simp only [signed, minutesOffset, perSecond, decide_eq_true_eq]
    split_ifs <;> omega
  have hsign : ((if minutes < 0 then '-' else '+') == '-') = decide (minutes < 0) := by
    split_ifs with hneg <;> simp [hneg]
  rw [toList_offsetText, readOffset]
  · simp only [hclock, Option.bind_eq_bind, Option.bind_some, hseconds, hsize, hsign, hday,
      decide_false, Bool.or_self, Bool.false_eq_true, if_false, hsigned]
  · intro hZ
    split_ifs at hZ <;> exact absurd hZ (by decide)

/-! ## Bytes -/

/-- The bytes of characters, each byte as a character. -/
def byteChars (cs : List Char) : List Char :=
  (cs.flatMap encodeChar).map fun b => Char.ofNat b.toNat

/-- The bytes of appended lists are appended. -/
lemma byteChars_append (cs ds : List Char) :
    byteChars (cs ++ ds) = byteChars cs ++ byteChars ds := by
  rw [byteChars, List.flatMap_append, List.map_append]
  rfl

/-- An ASCII character is its own byte. -/
lemma byteChars_of_ascii {cs : List Char} (h : ∀ c ∈ cs, c.toNat < 128) : byteChars cs = cs := by
  induction cs with
  | nil => rfl
  | cons c cs ih =>
    have hc := h c List.mem_cons_self
    have hone : encodeChar c = [byte c.toNat] := by
      rw [encodeChar]
      exact if_pos hc
    have hbyte : Char.ofNat (byte c.toNat).toNat = c := by
      rw [byte, UInt8.toNat_ofNat', Nat.mod_eq_of_lt (by omega), Char.ofNat_toNat]
    have hrest : byteChars (c :: cs) = Char.ofNat (byte c.toNat).toNat :: byteChars cs := by
      rw [byteChars, List.flatMap_cons, hone]
      rfl
    rw [hrest, hbyte, ih fun d hd => h d (List.mem_cons_of_mem _ hd)]

/-- The first byte of a character tells how many bytes it takes. -/
lemma exists_byteChars_singleton (c : Char) :
    ∃ first others, byteChars [c] = first :: others ∧ leadSize first = others.length + 1 := by
  have hbound : c.toNat < 1114112 := by
    have hvalid : c.toNat.isValidChar := c.valid
    rcases hvalid with hvalid | hvalid <;> omega
  have hbyte : ∀ n < 256, (Char.ofNat (byte n).toNat).toNat = n := by
    intro n hn
    have hvalid : n.isValidChar := Or.inl (by omega)
    rw [byte, UInt8.toNat_ofNat', Nat.mod_eq_of_lt hn, Char.ofNat, dif_pos hvalid]
    rfl
  rw [byteChars, List.flatMap_cons, List.flatMap_nil, List.append_nil, encodeChar]
  split_ifs with hone htwo hthree
  · refine ⟨_, _, rfl, ?_⟩
    rw [leadSize, hbyte _ (by omega)]
    exact if_pos hone
  · refine ⟨_, _, rfl, ?_⟩
    rw [leadSize, hbyte _ (by omega), if_neg (by omega), if_neg (by omega), if_neg (by omega)]
    rfl
  · refine ⟨_, _, rfl, ?_⟩
    rw [leadSize, hbyte _ (by omega), if_neg (by omega), if_neg (by omega), if_pos (by omega)]
    rfl
  · refine ⟨_, _, rfl, ?_⟩
    rw [leadSize, hbyte _ (by omega), if_neg (by omega), if_pos (by omega)]
    rfl

/-! ## Texts -/

namespace DateTime

/-- The offset of a text, as a list of characters. -/
def offsetChars (t : DateTime) : List Char :=
  match t.offset with
  | none => []
  | some offset => (offsetText offset).toList

/-- The offset, if there is one, is of whole minutes and less than a day either way. -/
def HasWholeMinutes (t : DateTime) : Prop :=
  ∀ offset ∈ t.offset, ∃ minutes : Int, minutes.natAbs < 1440 ∧ offset = minutesOffset minutes

/-- The text of a time as a list of characters. -/
lemma toList_text (separator : String) (t : DateTime) : (t.text separator).toList =
    t.date.text.toList ++ (separator.toList ++ (t.clockText ++ t.offsetChars)) := by
  rw [text, clockText, offsetChars]
  cases t.offset with
  | none => split_ifs <;> simp [String.toList_append]
  | some offset => split_ifs <;> simp [String.toList_append]

variable {t : DateTime}

/-- The offset of a text begins with a character that begins an offset. -/
lemma endsClock_offsetChars (hoffset : t.HasWholeMinutes) : EndsClock t.offsetChars := by
  rw [offsetChars]
  cases ht : t.offset with
  | none => exact fun c hc => absurd hc (Option.not_mem_none c)
  | some offset =>
    obtain ⟨minutes, -, rfl⟩ := hoffset offset ht
    intro c hc
    dsimp only at hc
    rw [toList_offsetText, List.head?_cons, Option.mem_some_iff] at hc
    rw [← hc]
    split_ifs <;> rfl

/-- A time of day and an offset are read back. -/
lemma readTime_text (h : t.isValid = true) (hoffset : t.HasWholeMinutes) :
    readTime t.date (t.clockText ++ t.offsetChars) = some t := by
  have hends := endsClock_offsetChars hoffset
  have hclock : ∀ c ∈ t.clockText, (!beginsOffset c) = true := by
    intro c hc
    rw [not_beginsOffset_of_mem_clockText hc]
    rfl
  have htake : t.offsetChars.takeWhile (fun c => !beginsOffset c) = [] := by
    cases hchars : t.offsetChars with
    | nil => rfl
    | cons c cs => simp [hends c (by rw [hchars]; rfl)]
  have hdrop : t.offsetChars.dropWhile (fun c => !beginsOffset c) = t.offsetChars := by
    cases hchars : t.offsetChars with
    | nil => rfl
    | cons c cs => simp [hends c (by rw [hchars]; rfl)]
  simp only [readTime, List.takeWhile_append_of_pos hclock, List.dropWhile_append_of_pos hclock,
    htake, hdrop, List.append_nil, readClock_clockText h hends, Option.bind_eq_bind,
    Option.bind_some]
  cases ht : t.offset with
  | none =>
    have hchars : t.offsetChars = [] := by rw [offsetChars, ht]
    have hsame : (⟨t.date, t.hour, t.minute, t.second, t.microsecond, none⟩ : DateTime) = t := by
      rw [← ht]
    simp [hchars, hsame, h]
  | some offset =>
    obtain ⟨minutes, hminutes, rfl⟩ := hoffset offset ht
    have hchars : t.offsetChars = (offsetText (minutesOffset minutes)).toList := by
      rw [offsetChars, ht]
    have hnonempty : (offsetText (minutesOffset minutes)).toList ≠ [] := by
      rw [toList_offsetText]
      exact List.cons_ne_nil _ _
    have hsame : (⟨t.date, t.hour, t.minute, t.second, t.microsecond,
        some (minutesOffset minutes)⟩ : DateTime) = t := by
      rw [← ht]
    simp [hchars, hnonempty, readOffset_offsetText hminutes, hsame, h]

/-- Digits are ASCII characters. -/
lemma toNat_lt_of_isDigit {c : Char} (h : c.isDigit = true) : c.toNat < 128 :=
  Nat.lt_of_le_of_lt (toNat_of_isDigit h).2 (by decide)

/-- The text of a date consists of ASCII characters. -/
lemma ascii_of_mem_dateText {d : Date} {c : Char} (h : c ∈ d.text.toList) : c.toNat < 128 := by
  have hpadded : ∀ {width n}, c ∈ (padded width n).toList → c.toNat < 128 :=
    fun hc => toNat_lt_of_isDigit (isDigit_of_mem_padded hc)
  simp only [Date.toList_text, List.mem_append, List.mem_cons] at h
  rcases h with h | rfl | h | rfl | h
  · exact hpadded h
  · decide
  · exact hpadded h
  · decide
  · exact hpadded h

/-- A time of day with its offset consists of ASCII characters. -/
lemma ascii_of_mem_clockText (hoffset : t.HasWholeMinutes) {c : Char}
    (h : c ∈ t.clockText ++ t.offsetChars) : c.toNat < 128 := by
  have hpadded : ∀ {width n}, c ∈ (padded width n).toList → c.toNat < 128 :=
    fun hc => toNat_lt_of_isDigit (isDigit_of_mem_padded hc)
  rcases List.mem_append.mp h with h | h
  · rcases t.isDigit_or_of_mem_clockText h with hdigit | rfl | rfl
    · exact toNat_lt_of_isDigit hdigit
    · decide
    · decide
  · rw [offsetChars] at h
    cases ht : t.offset with
    | none => exact absurd (ht ▸ h) List.not_mem_nil
    | some offset =>
      obtain ⟨minutes, -, rfl⟩ := hoffset offset ht
      rw [ht] at h
      simp only [toList_offsetText, List.mem_append, List.mem_cons] at h
      rcases h with rfl | h | rfl | h
      · split_ifs <;> decide
      · exact hpadded h
      · decide
      · exact hpadded h

/-- **The text of a time is read back**, whatever character separates the date from the time of
day, if the time is naive or has an offset of whole minutes. -/
theorem readDateTime_text (h : t.isValid = true) (hoffset : t.HasWholeMinutes)
    (separator : Char) : readDateTime (t.text (String.singleton separator)) = some t := by
  have hdate : t.date.isValid = true := (isValid_iff.mp h).1
  obtain ⟨first, others, hbytes, hsize⟩ := exists_byteChars_singleton separator
  have htime := readTime_text h hoffset
  have hascii := byteChars_of_ascii fun c hc => ascii_of_mem_clockText hoffset hc
  have hlist := toList_text (String.singleton separator) t
  have hfaces : faces (t.text (String.singleton separator)).toList =
      t.date.text.toList ++ ([separator] ++ (t.clockText ++ t.offsetChars)) := by
    rw [hlist, String.toList_singleton, List.singleton_append]
    exact faces_append_cons (fun c hc => isGuarded_of_ascii (ascii_of_mem_dateText hc)) separator
      fun c hc => isGuarded_of_ascii (ascii_of_mem_clockText hoffset hc)
  generalize t.clockText ++ t.offsetChars = tail at htime hascii hfaces
  have hchars : (encodeUtf8 (faces (t.text (String.singleton separator)).toList)).map
      (fun b => Char.ofNat b.toNat) = t.date.text.toList ++ first :: (others ++ tail) := by
    rw [encodeUtf8, hfaces]
    show byteChars _ = _
    rw [byteChars_append, byteChars_append, hascii,
      byteChars_of_ascii fun c hc => ascii_of_mem_dateText hc, hbytes, List.cons_append]
  have hlength : ¬10 + (others.length + tail.length + 1) < 7 := by omega
  have hdrop : (t.date.text.toList ++ first :: (others ++ tail)).drop 10 =
      first :: (others ++ tail) :=
    List.drop_left' (Date.length_text hdate)
  have hskip : (first :: others ++ tail).drop (leadSize first) = tail :=
    List.drop_left' hsize.symm
  rw [List.cons_append] at hskip
  rw [readDateTime, hchars]
  simp only [List.length_append, Date.length_text hdate, List.length_cons, hlength, if_false,
    datePartSize_text hdate, readDate_text hdate, hdrop, List.headD_cons, hskip,
    List.isEmpty_cons, Bool.false_eq_true, htime, Option.bind_eq_bind, Option.bind_some]

end DateTime

end SqlMapping.Calendar
