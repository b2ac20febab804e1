import Mathlib.Data.List.TakeWhile
import SqlMapping.Proofs.Entity.DigitLimit
import SqlMapping.Proofs.Sql.Number

/-!
# Numeric defaults

A numeric literal is an optional minus sign, digits, an optional fraction and an optional exponent
(`IsNumericLiteral`). Integers and finite numbers are written like that, whether or not an exponent
is used. The words for infinity and for no number are none, and an integer with too many digits has
no text. So the literal of a numeric default is a numeric literal exactly when the default is finite
and can be written.
-/

namespace SqlMapping

open SqlMapping.Number SqlMapping.Text

/-! ## Numeric literals -/

/-- One digit or more. -/
def IsDigits (cs : List Char) : Prop :=
  cs ≠ [] ∧ ∀ c ∈ cs, c.isDigit = true

/-- An optional fraction: a point with digits behind it, or nothing. -/
def IsFraction (cs : List Char) : Prop :=
  cs = [] ∨ ∃ digits, IsDigits digits ∧ cs = '.' :: digits

/-- An optional exponent: the letter for it, an optional sign and digits, or nothing. -/
def IsExponent (cs : List Char) : Prop :=
  cs = [] ∨ ∃ letter sign digits, (letter = 'e' ∨ letter = 'E') ∧
    (sign = [] ∨ sign = ['+'] ∨ sign = ['-']) ∧ IsDigits digits ∧ cs = letter :: (sign ++ digits)

/-- A numeric literal: an optional minus sign, digits, an optional fraction and an optional
exponent. -/
def IsNumericLiteral (cs : List Char) : Prop :=
  ∃ sign whole fraction exponent, (sign = [] ∨ sign = ['-']) ∧ IsDigits whole ∧
    IsFraction fraction ∧ IsExponent exponent ∧ cs = sign ++ whole ++ fraction ++ exponent

/-- The decimal digits of a natural number are digits. -/
lemma isDigits_toDigits (n : Nat) : IsDigits (Nat.toDigits 10 n) :=
  ⟨Nat.toDigits_ne_nil, fun _ => Nat.isDigit_of_mem_toDigits (by decide) (by decide)⟩

/-- Digits stay digits with others around them. -/
lemma IsDigits.append {cs ds : List Char} (h : IsDigits cs) (hds : ∀ d ∈ ds, d.isDigit = true) :
    IsDigits (cs ++ ds) ∧ IsDigits (ds ++ cs) := by
  refine ⟨⟨by simp [h.1], fun c hc => ?_⟩, ⟨by simp [h.1], fun c hc => ?_⟩⟩
  · exact (List.mem_append.mp hc).elim (h.2 c) (hds c)
  · exact (List.mem_append.mp hc).elim (hds c) (h.2 c)

/-- A part of digits that is not empty is digits. -/
lemma IsDigits.of_subset {cs ds : List Char} (h : IsDigits cs) (hne : ds ≠ [])
    (hsubset : ∀ d ∈ ds, d ∈ cs) : IsDigits ds :=
  ⟨hne, fun d hd => h.2 d (hsubset d hd)⟩

/-- Zeros are digits. -/
lemma isDigit_of_mem_zeros {n : Nat} {c : Char} (h : c ∈ Real64.zeros n) : c.isDigit = true := by
  obtain rfl := List.eq_of_mem_replicate h
  rfl

/-- No letter but that of the exponent stands in a numeric literal. -/
lemma IsNumericLiteral.notMem {cs : List Char} (h : IsNumericLiteral cs) : 'n' ∉ cs := by
  obtain ⟨sign, whole, fraction, exponent, hsign, hwhole, hfraction, hexponent, rfl⟩ := h
  have hdigits {ds : List Char} (hds : IsDigits ds) : 'n' ∉ ds :=
    fun hmem => absurd (hds.2 _ hmem) (by decide)
  have hsigned : 'n' ∉ sign := by
    rcases hsign with rfl | rfl <;> simp
  have hpoint : 'n' ∉ fraction := by
    rcases hfraction with rfl | ⟨digits, hds, rfl⟩
    · simp
    · simp [hdigits hds]
  have hscale : 'n' ∉ exponent := by
    rcases hexponent with rfl | ⟨letter, sign, digits, hletter, hsign, hds, rfl⟩
    · simp
    · rcases hletter with rfl | rfl <;> rcases hsign with rfl | rfl | rfl <;> simp [hdigits hds]
  simp [hsigned, hdigits hwhole, hpoint, hscale]

/-! ## The texts of numbers -/

/-- The text of an integer is a numeric literal. -/
lemma isNumericLiteral_intText (n : Int) : IsNumericLiteral (intText n).toList := by
  refine ⟨if n < 0 then ['-'] else [], Nat.toDigits 10 n.natAbs, [], [], ?_,
    isDigits_toDigits _, Or.inl rfl, Or.inl rfl, ?_⟩
  · split_ifs
    · exact Or.inr rfl
    · exact Or.inl rfl
  · rw [Sql.toList_intText, List.append_nil, List.append_nil]

/-- An exponent with its letter is an exponent of a literal. -/
lemma isExponent_exponentText (e : Int) : IsExponent ('e' :: Real64.exponentText e) := by
  refine Or.inr ⟨'e', [if e < 0 then '-' else '+'],
    Real64.zeros (2 - (Nat.toDigits 10 e.natAbs).length) ++ Nat.toDigits 10 e.natAbs,
    Or.inl rfl, ?_, ?_, rfl⟩
  · split_ifs
    · exact Or.inr (Or.inr rfl)
    · exact Or.inr (Or.inl rfl)
  · exact ((isDigits_toDigits _).append fun _ => isDigit_of_mem_zeros).2

/-- Digits with a point or an exponent are an unsigned literal. -/
lemma exists_layoutDigits {digits : List Char} (h : IsDigits digits) (point : Int) :
    ∃ whole fraction exponent, IsDigits whole ∧ IsFraction fraction ∧ IsExponent exponent ∧
      Real64.layoutDigits digits point = whole ++ fraction ++ exponent := by
  have hzero : IsDigits ['0'] := ⟨by simp, by simp⟩
  unfold Real64.layoutDigits
  split_ifs with hplain hsmall hwhole
  · exact ⟨['0'], '.' :: (Real64.zeros (-point).toNat ++ digits), [], hzero,
      Or.inr ⟨_, (h.append fun _ => isDigit_of_mem_zeros).2, rfl⟩, Or.inl rfl, by simp⟩
  · exact ⟨digits ++ Real64.zeros (point.toNat - digits.length), ['.', '0'], [],
      (h.append fun _ => isDigit_of_mem_zeros).1, Or.inr ⟨['0'], hzero, rfl⟩, Or.inl rfl, by simp⟩
  · have htake : digits.take point.toNat ≠ [] := by
      have hpos : point.toNat ≠ 0 := by omega
      rw [Ne, List.take_eq_nil_iff, not_or]
      exact ⟨hpos, h.1⟩
    have hdrop : digits.drop point.toNat ≠ [] := by
      rw [Ne, List.drop_eq_nil_iff]
      exact hwhole
    exact ⟨digits.take point.toNat, '.' :: digits.drop point.toNat, [],
      h.of_subset htake fun _ => List.mem_of_mem_take,
      Or.inr ⟨_, h.of_subset hdrop fun _ => List.mem_of_mem_drop, rfl⟩, Or.inl rfl, by simp⟩
  · have htake : digits.take 1 ≠ [] := by
      simp [List.take_eq_nil_iff, h.1]
    refine ⟨digits.take 1, if (digits.drop 1).isEmpty then [] else '.' :: digits.drop 1,
      'e' :: Real64.exponentText (point - 1), h.of_subset htake fun _ => List.mem_of_mem_take,
      ?_, isExponent_exponentText _, rfl⟩
    split_ifs with hrest
    · exact Or.inl rfl
    · exact Or.inr ⟨_, h.of_subset (by simpa using hrest) fun _ => List.mem_of_mem_drop, rfl⟩

/-- A number that is not zero has a digit other than zero. -/
lemma dropZeros_ne_nil {n : Nat} (h : n ≠ 0) (exponent : Int) :
    (Real64.dropZeros (Nat.toDigits 10 n) exponent).1 ≠ [] := by
  intro hempty
  have hall : ∀ c ∈ Nat.toDigits 10 n, c = '0' := by
    have hdrop : (Nat.toDigits 10 n).reverse.dropWhile (· == '0') = [] :=
      List.reverse_eq_nil_iff.mp hempty
    simpa using List.dropWhile_eq_nil_iff.mp hdrop
  have hzeros : ∀ k, Nat.ofDigitChars 10 (List.replicate k '0') 0 = 0 := by
    intro k
    induction k with
    | zero => rfl
    | succ k ih => exact ih
  refine h ?_
  rw [← Nat.ofDigitChars_toDigits (b := 10) (n := n) (by decide) (by decide),
    List.eq_replicate_of_mem hall, hzeros]

/-- A grid point that stands for a number is not zero. -/
lemma nearest_ne_zero {c : Real64.Candidates} {point : Nat} (h : c.nearest? = some point) :
    point ≠ 0 := by
  have haccepted {p : Nat} (hp : c.accepts p = true) : p ≠ 0 := by
    rintro rfl
    simp [Real64.Candidates.accepts] at hp
  have hround : c.value / c.unit ≤ roundDiv c.value c.unit := by
    rw [roundDiv]
    split_ifs
    · exact Nat.le_refl _
    · exact Nat.le_refl _
    · exact Nat.le_succ _
  unfold Real64.Candidates.nearest? at h
  dsimp only at h
  split at h
  next hfloor _ =>
    obtain rfl := Option.some.inj h
    exact haccepted hfloor
  next _ _ =>
    obtain rfl := Option.some.inj h
    exact Nat.succ_ne_zero _
  next hfloor _ =>
    obtain rfl := Option.some.inj h
    exact Nat.ne_of_gt (Nat.lt_of_lt_of_le (Nat.pos_of_ne_zero (haccepted hfloor)) hround)
  next => simp at h

/-- The digits of a number are those of zero only in the answer for the case that none are found. -/
lemma shortestDigits_eq_of_fst_eq_zero {mantissa : Nat} {exponent : Int}
    (h : (Real64.shortestDigits mantissa exponent).1 = 0) :
    Real64.shortestDigits mantissa exponent = (0, 0) := by
  unfold Real64.shortestDigits at h ⊢
  dsimp only at h ⊢
  cases hfound : (List.range 24).findSome? _ with
  | none => rfl
  | some found =>
    rw [hfound] at h
    obtain ⟨i, -, hi⟩ := List.exists_of_findSome?_eq_some hfound
    obtain ⟨point, hpoint, rfl⟩ := Option.map_eq_some_iff.mp hi
    exact absurd h (nearest_ne_zero hpoint)

/-- The text of a finite number is a numeric literal. -/
lemma isNumericLiteral_finiteText (negative : Bool) (mantissa : Nat) (exponent : Int) :
    IsNumericLiteral (Real64.text (.finite negative mantissa exponent)).toList := by
  have hbody : ∃ whole fraction exponent', IsDigits whole ∧ IsFraction fraction ∧
      IsExponent exponent' ∧
        Sql.finiteBody mantissa exponent = whole ++ fraction ++ exponent' := by
    have hzero : IsDigits ['0'] := ⟨by simp, by simp⟩
    rw [Sql.finiteBody]
    split_ifs with hmantissa
    · exact ⟨['0'], ['.', '0'], [], hzero, Or.inr ⟨['0'], hzero, rfl⟩, Or.inl rfl, rfl⟩
    · dsimp only
      by_cases hcoefficient : (Real64.shortestDigits mantissa exponent).1 = 0
      · rw [shortestDigits_eq_of_fst_eq_zero hcoefficient]
        exact ⟨['0'], ['.', '0'], [], hzero, Or.inr ⟨['0'], hzero, rfl⟩, Or.inl rfl, rfl⟩
      · refine exists_layoutDigits ((isDigits_toDigits _).of_subset
          (dropZeros_ne_nil hcoefficient _) fun _ => Sql.mem_of_mem_dropZeros) _
  obtain ⟨whole, fraction, exponent', hwhole, hfraction, hexponent, hlist⟩ := hbody
  refine ⟨if negative then ['-'] else [], whole, fraction, exponent', ?_, hwhole, hfraction,
    hexponent, ?_⟩
  · cases negative <;> simp
  · rw [Sql.toList_finiteText, hlist, List.append_assoc, List.append_assoc, List.append_assoc]

/-! ## Defaults -/

/-- The kinds of numeric defaults. -/
def numericKinds : List DefaultKind :=
  [.int, .long, .short, .float, .double]

/-- The default is no infinity and not the value that is no number. -/
def DefaultValue.IsFinite : DefaultValue → Prop
  | .real _ .nan | .real _ (.infinite _) => False
  | _ => True

/-- **Numeric defaults.** A default of a numeric kind has a numeric literal exactly when it is
finite and, as an integer, has few enough digits to be written. -/
theorem isNumericLiteral_iff {d : DefaultValue} (hkind : d.kind ∈ numericKinds) :
    (∃ s, d.literal = .ok s ∧ IsNumericLiteral s.toList) ↔ d.IsFinite ∧ ¬d.IsOverlong := by
  have hinteger (n : Int) : (∃ s, writeInteger n = .ok s ∧ IsNumericLiteral s.toList) ↔
      ¬digitCeiling ≤ n.natAbs := by
    rw [writeInteger, Nat.not_le]
    split_ifs with h
    · simp [h, isNumericLiteral_intText]
    · simp [h]
  cases d with
  | none => exact absurd hkind (by decide)
  | bool b => exact absurd hkind (by simp [DefaultValue.kind, numericKinds])
  | text s => exact absurd hkind (by simp [DefaultValue.kind, numericKinds])
  | integer width n =>
    exact (hinteger n).trans (and_iff_right (by simp [DefaultValue.IsFinite])).symm
  | whole precision n =>
    exact (hinteger n).trans (and_iff_right (by simp [DefaultValue.IsFinite])).symm
  | real precision x =>
    have hword {cs : List Char} (hn : 'n' ∈ cs) : ¬IsNumericLiteral cs := fun h => h.notMem hn
    cases x with
    | nan => simpa [DefaultValue.literal, DefaultValue.IsFinite] using hword (by decide)
    | infinite negative =>
      cases negative <;>
        simpa [DefaultValue.literal, DefaultValue.IsFinite] using hword (by decide)
    | finite negative mantissa exponent =>
      simp [DefaultValue.literal, DefaultValue.IsFinite, DefaultValue.IsOverlong,
        isNumericLiteral_finiteText]

/-- The number -1.25e-07 as the default of a column of numbers with a fraction. -/
def tinyDefault : DefaultValue :=
  .real .double (.finite true 4722366482869645 (-75))

/-- The default is written with an exponent, as a numeric literal. -/
theorem isNumericLiteral_tinyDefault :
    tinyDefault.kind ∈ numericKinds ∧
      ∃ s, tinyDefault.literal = .ok s ∧ IsNumericLiteral s.toList :=
  ⟨by decide, (isNumericLiteral_iff (by decide)).mpr ⟨trivial, not_false⟩⟩

/-- The value that is no number is accepted as a default, and its literal is a word. -/
theorem not_isNumericLiteral_nan :
    DefaultValue.read 100 (.mapping [(.text "kind", .text "float"), (.text "value", .real .nan)]) =
        .valid (.real .float .nan) ∧
      (DefaultValue.real .float .nan).kind ∈ numericKinds ∧
        ¬∃ s, (DefaultValue.real .float .nan).literal = .ok s ∧ IsNumericLiteral s.toList := by
  refine ⟨rfl, by decide, ?_⟩
  rintro ⟨s, hs, hliteral⟩
  obtain rfl := Except.ok.inj hs
  exact hliteral.notMem (by decide)

end SqlMapping
