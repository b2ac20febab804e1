import SqlMapping.Decode.Apply
import SqlMapping.Proofs.Calendar.Notation
import SqlMapping.Proofs.Result

/-!
# Times that drivers return

A driver may return one and the same universal time as a naive time, as a local time with its
offset, as the text of either, and, if it is a whole second, as a number of seconds since the epoch.
All of these are decoded to the naive universal time, and nothing that is decoded as a time has an
offset (`timestamps_agree`).

What relates the encodings is the clock, the number of microseconds since the beginning of the year
1: a local clock is ahead of the universal one by its offset.
-/

namespace SqlMapping

open SqlMapping.Calendar

/-- A value that is not null is decoded by the reading that belongs to the decoder. -/
lemma Decoder.apply_of_ne_null (d : Decoder) {v : Value} (hv : v ≠ .null) :
    d.apply v = match d with
      | .int | .long => (Decode.integer v).map .int
      | .short => (Decode.short v).map .int
      | .string => (Decode.string v).map .text
      | .boolean => .ok (.bool (Decode.boolean v))
      | .float | .double => (Decode.real v).map .real
      | .timestamp => (Decode.timestamp v).map .dateTime
      | .object => .ok v := by
  cases v with
  | null => exact absurd rfl hv
  | _ => rfl

namespace Decode

/-! ## Encodings of a universal time -/

/-- A local time shows a universal time at an offset of so many minutes. -/
structure ShowsLocally (t u : DateTime) (minutes : Int) : Prop where
  /-- The local time exists. -/
  valid : t.isValid = true
  /-- The local time carries the offset. -/
  offset : t.offset = some (minutesOffset minutes)
  /-- The local clock is ahead by the offset. -/
  clock : t.clock = u.clock + minutesOffset minutes

/-- The whole seconds from the epoch to a universal time. -/
def epochSecond (u : DateTime) : Int :=
  ((u.date.dayNumber : Int) - epochDay) * 86400 + ((u.hour * 60 + u.minute) * 60 + u.second : Nat)

/-- All encodings of a naive universal time are decoded to it. -/
structure DecodesAlike (u : DateTime) : Prop where
  /-- The time itself. -/
  naive : Decoder.timestamp.apply (.dateTime u) = .ok (.dateTime u)
  /-- Its text, with any character between the date and the time of day. -/
  text : ∀ separator : Char,
    Decoder.timestamp.apply (.text (u.text (String.singleton separator))) = .ok (.dateTime u)
  /-- A local time that shows it. -/
  localTime : ∀ (minutes : Int) (t : DateTime), minutes.natAbs < 1440 → ShowsLocally t u minutes →
    Decoder.timestamp.apply (.dateTime t) = .ok (.dateTime u)
  /-- The text of such a local time, with its offset. -/
  localText : ∀ (minutes : Int) (t : DateTime) (separator : Char), minutes.natAbs < 1440 →
    ShowsLocally t u minutes →
    Decoder.timestamp.apply (.text (t.text (String.singleton separator))) = .ok (.dateTime u)
  /-- Its seconds since the epoch, if it has no fraction of a second. -/
  epoch : u.microsecond = 0 → Decoder.timestamp.apply (.int (epochSecond u)) = .ok (.dateTime u)

/-! ## Offsets are subtracted -/

/-- A naive time is decoded to itself. -/
lemma naive_of_offset_eq_none {t : DateTime} (h : t.offset = none) : naive t = .ok t := by
  rw [naive, DateTime.toUniversal?, h]

/-- A local time is decoded to the universal time that it shows. -/
lemma naive_of_showsLocally {t u : DateTime} {minutes : Int} (hu : u.isValid = true)
    (hnaive : u.offset = none) (h : ShowsLocally t u minutes) : naive t = .ok u := by
  have huniversal := DateTime.ofClock?_clock_of_naive hu hnaive
  rw [naive, DateTime.toUniversal?, h.offset]
  dsimp only
  split_ifs with hzero
  · have hsame : DateTime.ofClock? t.clock = some { t with offset := none } :=
      DateTime.ofClock?_clock h.valid
    rw [h.clock, hzero, Int.add_zero, huniversal] at hsame
    rw [← hsame]
  · rw [h.clock, Int.add_sub_cancel, huniversal]

/-- The seconds since the epoch are decoded to the universal time. -/
lemma epochTime_epochSecond {u : DateTime} (hu : u.isValid = true) (hnaive : u.offset = none)
    (hwhole : u.microsecond = 0) : epochTime (epochSecond u) 0 = .ok u := by
  have huniversal := DateTime.ofClock?_clock_of_naive hu hnaive
  have hone := Date.one_le_dayNumber (DateTime.isValid_iff.mp hu).1
  have hclock : (Int.ofNat ((epochDay - 1) * 86400) + epochSecond u) * Int.ofNat perSecond +
      Int.ofNat 0 = u.clock := by
    simp only [epochSecond, DateTime.clock, DateTime.microsecondOfDay, hwhole, epochDay, perDay,
      perSecond, Int.ofNat_eq_natCast]
    omega
  obtain ⟨hfirst, hlast⟩ := DateTime.clock_bounds hu
  rw [← hclock] at hfirst hlast
  simp only [epochDay, perDay, perSecond, Date.dayNumberEnd, Int.ofNat_eq_natCast] at hfirst hlast
  have hwide : ¬(epochSecond u < -Int.pow 2 63 ∨ Int.pow 2 63 ≤ epochSecond u) := by
    have hpow : Int.pow 2 63 = 9223372036854775808 := rfl
    rw [hpow]
    omega
  have hclocked : ¬(epochSecond u < leastSecond ∨ greatestSecond < epochSecond u) := by
    rw [leastSecond, greatestSecond]
    omega
  rw [epochTime]
  simp only [Bool.or_eq_true, decide_eq_true_eq, hwide, hclocked, if_false]
  rw [DateTime.ofEpoch?, hclock, huniversal]

/-! ## Decoded times are naive -/

/-- What a clock shows is a naive time. -/
lemma offset_of_ofClock? {n : Int} {t : DateTime} (h : DateTime.ofClock? n = some t) :
    t.offset = none := by
  obtain ⟨date, -, rfl⟩ := Option.map_eq_some_iff.mp h
  rfl

/-- Without its offset a time is naive. -/
lemma offset_of_naive {t u : DateTime} (h : naive t = .ok u) : u.offset = none := by
  rw [naive] at h
  cases huniversal : t.toUniversal? with
  | none => rw [huniversal] at h; exact absurd h (by simp)
  | some u' =>
    rw [huniversal] at h
    obtain rfl : u' = u := Except.ok.inj h
    rw [DateTime.toUniversal?] at huniversal
    cases hoffset : t.offset with
    | none =>
      rw [hoffset] at huniversal
      rw [← Option.some.inj huniversal, hoffset]
    | some offset =>
      rw [hoffset] at huniversal
      dsimp only at huniversal
      split_ifs at huniversal
      · rw [← Option.some.inj huniversal]
      · exact offset_of_ofClock? huniversal

/-- The time of a number of seconds since the epoch is naive. -/
lemma offset_of_epochTime {seconds : Int} {microseconds : Nat} {t : DateTime}
    (h : epochTime seconds microseconds = .ok t) : t.offset = none := by
  rw [epochTime] at h
  split_ifs at h
  cases hepoch : DateTime.ofEpoch? seconds microseconds with
  | none => rw [hepoch] at h; exact absurd h (by simp)
  | some t' =>
    rw [hepoch] at h
    obtain rfl : t' = t := Except.ok.inj h
    exact offset_of_ofClock? hepoch

/-- Whatever a time is decoded from, it is naive. -/
lemma offset_of_timestamp {v : Value} {t : DateTime} (h : timestamp v = .ok t) :
    t.offset = none := by
  unfold timestamp at h
  split at h
  · exact offset_of_naive h
  · rw [← Except.ok.inj h]
    rfl
  · exact offset_of_epochTime h
  · exact offset_of_epochTime h
  · rename_i x
    cases x with
    | nan => exact absurd h (by simp [timeOfReal])
    | infinite negative => exact absurd h (by simp [timeOfReal])
    | finite negative m e => exact offset_of_epochTime h
  · split at h
    · exact offset_of_naive h
    · exact absurd h (by simp)

/-! ## Agreement -/

/-- A text that is read as a time is decoded as this time. -/
lemma timestamp_text {s : String} {t : DateTime} (h : readDateTime s = some t) :
    timestamp (.text s) = naive t := by
  have hread : (Value.text s).display.toOption.bind readDateTime = some t := h
  simp only [timestamp, hread]

/-- **The encodings of a time agree.** A naive universal time of the years 1 to 9999, every local
time that shows it at an offset of whole minutes, the texts of both, and the seconds since the epoch
if there is no fraction of a second are all decoded to the naive universal time. Whatever is decoded
is null or a naive time. -/
theorem timestamps_agree :
    (∀ u : DateTime, u.isValid = true → u.offset = none → DecodesAlike u) ∧
      ∀ v r : Value, Decoder.timestamp.apply v = .ok r →
        v = .null ∧ r = .null ∨ ∃ t : DateTime, r = .dateTime t ∧ t.offset = none := by
  constructor
  · intro u hu hnaive
    have happly : ∀ v : Value, v ≠ .null → timestamp v = .ok u →
        Decoder.timestamp.apply v = .ok (.dateTime u) := by
      intro v hv htime
      rw [Decoder.apply_of_ne_null _ hv]
      exact congrArg (Except.map Value.dateTime) htime
    have hwhole : u.HasWholeMinutes := by
      intro offset hoffset
      rw [hnaive] at hoffset
      exact absurd hoffset (Option.not_mem_none offset)
    constructor
    case naive => exact happly _ (by simp) (naive_of_offset_eq_none hnaive)
    case text =>
      intro separator
      have hread := DateTime.readDateTime_text hu hwhole separator
      exact happly _ (by simp) ((timestamp_text hread).trans (naive_of_offset_eq_none hnaive))
    case localTime =>
      intro minutes t _ hshows
      exact happly _ (by simp) (naive_of_showsLocally hu hnaive hshows)
    case localText =>
      intro minutes t separator hminutes hshows
      have hlocal : t.HasWholeMinutes := by
        intro offset hoffset
        rw [hshows.offset, Option.mem_some_iff] at hoffset
        exact ⟨minutes, hminutes, hoffset.symm⟩
      have hread := DateTime.readDateTime_text hshows.valid hlocal separator
      exact happly _ (by simp)
        ((timestamp_text hread).trans (naive_of_showsLocally hu hnaive hshows))
    case epoch =>
      intro hmicrosecond
      exact happly _ (by simp) (epochTime_epochSecond hu hnaive hmicrosecond)
  · intro v r h
    by_cases hv : v = .null
    · rw [hv] at h
      exact Or.inl ⟨hv, (Except.ok.inj h).symm⟩
    · rw [Decoder.apply_of_ne_null _ hv] at h
      obtain ⟨t, htime, rfl⟩ := map_eq_ok.mp h
      exact Or.inr ⟨t, rfl, offset_of_timestamp htime⟩

/-- Half an hour before midnight at the end of a leap day. -/
def leapDayEvening : DateTime :=
  ⟨⟨2000, 2, 29⟩, 23, 30, 0, 0, none⟩

/-- The same time where clocks are 45 minutes ahead: it is a day of March already. -/
def marchMorning : DateTime :=
  ⟨⟨2000, 3, 1⟩, 0, 15, 0, 0, some 2700000000⟩

/-- The encodings of a time that is a leap day in universal time and not where it is shown. -/
theorem timestamps_agree_leapDay :
    leapDayEvening.isValid = true ∧ leapDayEvening.offset = none ∧
      ShowsLocally marchMorning leapDayEvening 45 ∧
      Decoder.timestamp.apply (.dateTime marchMorning) = .ok (.dateTime leapDayEvening) ∧
      Decoder.timestamp.apply (.text "2000-03-01T00:15:00+00:45") =
        .ok (.dateTime leapDayEvening) ∧
      Decoder.timestamp.apply (.text "2000-02-29T23:30:00") = .ok (.dateTime leapDayEvening) ∧
      Decoder.timestamp.apply (.int 951867000) = .ok (.dateTime leapDayEvening) := by
  have hvalid : leapDayEvening.isValid = true := by decide
  have hshows : ShowsLocally marchMorning leapDayEvening 45 :=
    ⟨by decide, rfl, by decide⟩
  have hlocal : marchMorning.text (String.singleton 'T') = "2000-03-01T00:15:00+00:45" := by decide
  have huniversal : leapDayEvening.text (String.singleton 'T') = "2000-02-29T23:30:00" := by decide
  have hepoch : epochSecond leapDayEvening = 951867000 := by decide
  have hagree := timestamps_agree.1 leapDayEvening hvalid rfl
  refine ⟨hvalid, rfl, hshows, hagree.localTime 45 _ (by decide) hshows, ?_, ?_, ?_⟩
  · exact hlocal ▸ hagree.localText 45 _ 'T' (by decide) hshows
  · exact huniversal ▸ hagree.text 'T'
  · exact hepoch ▸ hagree.epoch rfl

end Decode

end SqlMapping
