import SqlMapping.Number.Shortest
import SqlMapping.Proofs.Number.Digits
import SqlMapping.Proofs.Sql.Token

/-!
# Numbers in statements

The texts of integers and of floating-point numbers are words: they have a character, and none that
ends a word or opens a quoted part. This also holds for the texts of infinity and of no number.
-/

namespace SqlMapping.Sql

open SqlMapping.Number SqlMapping.Text

/-- A digit is a character of words. -/
lemma isWordChar_of_isDigit {c : Char} (h : c.isDigit = true) : isWordChar c = true :=
  forall_isDigit (p := fun c => isWordChar c = true) (by decide) h

/-- The decimal digits of a natural number are characters of words. -/
lemma isWordChar_of_mem_toDigits {n : Nat} {c : Char} (h : c ∈ Nat.toDigits 10 n) :
    isWordChar c = true :=
  isWordChar_of_isDigit (Nat.isDigit_of_mem_toDigits (by decide) (by decide) h)

/-- The text of an integer as a list of characters. -/
lemma toList_intText (n : Int) :
    (intText n).toList = (if n < 0 then ['-'] else []) ++ Nat.toDigits 10 n.natAbs := by
  have hdigits : (natText n.natAbs).toList = Nat.toDigits 10 n.natAbs := String.toList_ofList
  rw [intText]
  split
  · rw [String.toList_append, hdigits]
    rfl
  · exact hdigits

/-- The text of an integer is not empty and consists of characters of words. -/
lemma intText_word (n : Int) :
    intText n ≠ "" ∧ ∀ c ∈ (intText n).toList, isWordChar c = true := by
  refine ⟨fun hempty => ?_, fun c hc => ?_⟩
  · have hlist := toList_intText n
    rw [hempty] at hlist
    exact Nat.toDigits_ne_nil (List.append_eq_nil_iff.mp hlist.symm).2
  · rw [toList_intText, List.mem_append] at hc
    rcases hc with hc | hc
    · split_ifs at hc
      · obtain rfl := List.mem_singleton.mp hc
        rfl
      · exact absurd hc List.not_mem_nil
    · exact isWordChar_of_mem_toDigits hc

/-- The text of an integer is one word. -/
theorem spells_intText (n : Int) : Spells (intText n) [.word (intText n)] :=
  spells_word (intText_word n).1 (List.all_eq_true.mpr (intText_word n).2)

/-! ## Floating-point numbers -/

/-- Zeros are characters of words. -/
lemma isWordChar_of_mem_zeros {n : Nat} {c : Char} (h : c ∈ Real64.zeros n) :
    isWordChar c = true := by
  obtain rfl := List.eq_of_mem_replicate h
  rfl

/-- What is left without the zeros at the end belongs to the digits. -/
lemma mem_of_mem_dropZeros {digits : List Char} {exponent : Int} {c : Char}
    (h : c ∈ (Real64.dropZeros digits exponent).1) : c ∈ digits := by
  have hmem : c ∈ digits.reverse.dropWhile (· == '0') := List.mem_reverse.mp h
  exact List.mem_reverse.mp ((List.dropWhile_sublist _).mem hmem)

/-- An exponent consists of characters of words. -/
lemma isWordChar_of_mem_exponentText {e : Int} {c : Char} (h : c ∈ Real64.exponentText e) :
    isWordChar c = true := by
  rw [Real64.exponentText, List.mem_cons, List.mem_append] at h
  rcases h with rfl | h | h
  · split <;> rfl
  · exact isWordChar_of_mem_zeros h
  · exact isWordChar_of_mem_toDigits h

/-- Digits with a point or an exponent consist of characters of words. -/
lemma isWordChar_of_mem_layoutDigits {digits : List Char} {point : Int} {c : Char}
    (hdigits : ∀ d ∈ digits, isWordChar d = true) (h : c ∈ Real64.layoutDigits digits point) :
    isWordChar c = true := by
  have hsplit : isWordChar '.' = true ∧ isWordChar '0' = true ∧ isWordChar 'e' = true := by decide
  have htake : ∀ n, c ∈ digits.take n → isWordChar c = true :=
    fun n hc => hdigits c (List.mem_of_mem_take hc)
  have hdrop : ∀ n, c ∈ digits.drop n → isWordChar c = true :=
    fun n hc => hdigits c (List.mem_of_mem_drop hc)
  unfold Real64.layoutDigits at h
  split_ifs at h with hplain hsmall hwhole
  · simp only [List.cons_append, List.mem_cons, List.mem_append] at h
    rcases h with rfl | rfl | h | h
    · exact hsplit.2.1
    · exact hsplit.1
    · exact isWordChar_of_mem_zeros h
    · exact hdigits c h
  · simp only [List.mem_cons, List.mem_append, List.not_mem_nil, or_false] at h
    rcases h with (h | h) | rfl | rfl
    · exact hdigits c h
    · exact isWordChar_of_mem_zeros h
    · exact hsplit.1
    · exact hsplit.2.1
  · simp only [List.mem_cons, List.mem_append] at h
    rcases h with h | rfl | h
    · exact htake _ h
    · exact hsplit.1
    · exact hdrop _ h
  · simp only [List.mem_cons, List.mem_append] at h
    rcases h with (h | h) | rfl | h
    · exact htake _ h
    · split_ifs at h with hempty
      · exact absurd h List.not_mem_nil
      · rcases List.mem_cons.mp h with rfl | h
        · exact hsplit.1
        · exact hdrop _ h
    · exact hsplit.2.2
    · exact isWordChar_of_mem_exponentText h

/-- Digits with a point or an exponent are not the empty text. -/
lemma layoutDigits_ne_nil (digits : List Char) (point : Int) :
    Real64.layoutDigits digits point ≠ [] := by
  unfold Real64.layoutDigits
  split_ifs <;> simp

/-- The text of a finite number without its sign. -/
def finiteBody (mantissa : Nat) (exponent : Int) : List Char :=
  if mantissa = 0 then ['0', '.', '0']
  else
    let shortest := Real64.shortestDigits mantissa exponent
    let kept := Real64.dropZeros (Nat.toDigits 10 shortest.1) shortest.2
    Real64.layoutDigits kept.1 (Int.ofNat kept.1.length + kept.2)

/-- The text of a finite number without its sign is not empty and consists of characters of
words. -/
lemma finiteBody_word (mantissa : Nat) (exponent : Int) :
    finiteBody mantissa exponent ≠ [] ∧ (finiteBody mantissa exponent).all isWordChar = true := by
  rw [finiteBody]
  split_ifs with hzero
  · exact ⟨List.cons_ne_nil _ _, by decide⟩
  · refine ⟨layoutDigits_ne_nil _ _, List.all_eq_true.mpr fun c hc => ?_⟩
    refine isWordChar_of_mem_layoutDigits (fun d hd => ?_) hc
    exact isWordChar_of_mem_toDigits (mem_of_mem_dropZeros hd)

/-- The text of a finite number as a list of characters. -/
lemma toList_finiteText (negative : Bool) (mantissa : Nat) (exponent : Int) :
    (Real64.text (.finite negative mantissa exponent)).toList =
      (if negative then ['-'] else []) ++ finiteBody mantissa exponent := by
  cases negative <;> exact String.toList_ofList

/-- The text of a floating-point number is not empty and consists of characters of words. -/
lemma realText_word (x : Real64) : x.text ≠ "" ∧ x.text.toList.all isWordChar = true := by
  cases x with
  | nan => decide
  | infinite negative => cases negative <;> decide
  | finite negative mantissa exponent =>
    obtain ⟨hne, hword⟩ := finiteBody_word mantissa exponent
    have htext := toList_finiteText negative mantissa exponent
    have hsign : (if negative then ['-'] else []).all isWordChar = true := by
      cases negative <;> decide
    refine ⟨fun hempty => ?_, ?_⟩
    · rw [hempty] at htext
      exact hne (List.append_eq_nil_iff.mp htext.symm).2
    · rw [htext, List.all_append, hsign, hword]
      rfl

/-- The text of a floating-point number is one word. -/
theorem spells_realText (x : Real64) : Spells x.text [.word x.text] :=
  spells_word (realText_word x).1 (realText_word x).2

end SqlMapping.Sql
