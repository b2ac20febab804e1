import Mathlib.Data.List.TakeWhile
import Mathlib.Tactic.Lemma
import SqlMapping.Number.Integer
import SqlMapping.Proofs.Text.Trimming

/-!
# Decimal digits

The ASCII digits are ten characters, so that what holds of these holds of every digit
(`forall_isDigit`). The digits that are written for a number are read back as this number
(`readInteger_toDigits`), unless they are more than the limit allows.
-/

namespace SqlMapping

open SqlMapping.Number SqlMapping.Text

/-- A digit has one of ten codes. -/
lemma toNat_of_isDigit {c : Char} (h : c.isDigit = true) : 48 ≤ c.toNat ∧ c.toNat ≤ 57 := by
  simp only [Char.isDigit, Bool.and_eq_true, decide_eq_true_eq, ge_iff_le,
    UInt32.le_iff_toNat_le] at h
  exact h

/-- What holds of the ten digits holds of every digit. -/
lemma forall_isDigit {p : Char → Prop} (hp : ∀ n < 10, p (Char.ofNat (48 + n))) {c : Char}
    (h : c.isDigit = true) : p c := by
  obtain ⟨hlow, hhigh⟩ := toNat_of_isDigit h
  have hdigit := hp (c.toNat - 48) (by omega)
  rwa [Nat.add_sub_cancel' hlow, Char.ofNat_toNat] at hdigit

/-- The value of an ASCII digit. -/
lemma digitValue_of_isDigit {c : Char} (h : c.isDigit = true) :
    digitValue? c = some (c.toNat - 48) :=
  forall_isDigit (p := fun c => digitValue? c = some (c.toNat - 48)) (by decide) h

/-- Digits are scanned one after the other. -/
lemma scanDigits_of_isDigit {cs : List Char} (h : ∀ c ∈ cs, c.isDigit = true) :
    scanDigits digitValue? cs = some (cs.map fun c => c.toNat - 48, []) := by
  induction cs with
  | nil => rfl
  | cons c cs ih =>
    have hdigit := h c List.mem_cons_self
    have hne : c ≠ '_' := by
      rintro rfl
      exact absurd hdigit (by decide)
    have hrest := ih fun d hd => h d (List.mem_cons_of_mem _ hd)
    unfold scanDigits
    split
    · rename_i heq
      exact absurd heq (by simp)
    · rename_i heq
      exact absurd (List.cons.inj heq).1 hne
    · rename_i heq
      exact absurd (List.cons.inj heq).1 hne
    · rename_i d ds _ _ heq
      obtain ⟨rfl, rfl⟩ := List.cons.inj heq
      rw [digitValue_of_isDigit hdigit, hrest]
      rfl

/-- A number below a power of ten has no more digits than its exponent. -/
lemma length_toDigits_le {n k : Nat} (hk : 0 < k) (h : n < Nat.pow 10 k) :
    (Nat.toDigits 10 n).length ≤ k :=
  (Nat.length_toDigits_le_iff (by decide) hk).mpr h

/-- The digits of a number that is not too long are read back. -/
lemma readInteger_toDigits {n : Nat} (h : n < digitCeiling) :
    readInteger (Nat.toDigits 10 n) = .ok (Int.ofNat n) := by
  have hdigits : ∀ c ∈ Nat.toDigits 10 n, c.isDigit = true :=
    fun _ => Nat.isDigit_of_mem_toDigits (by decide) (by decide)
  have htrim : trimWith isWhiteSpace (Nat.toDigits 10 n) = Nat.toDigits 10 n := by
    refine trimWith_of_forall fun c hc => ?_
    exact forall_isDigit (p := fun c => isWhiteSpace c = false) (by decide) (hdigits c hc)
  obtain ⟨first, rest, hlist⟩ := List.exists_cons_of_ne_nil (Nat.toDigits_ne_nil (b := 10) (n := n))
  have hfirst : first.isDigit = true := hdigits first (hlist ▸ List.mem_cons_self)
  have hsign : splitSign (Nat.toDigits 10 n) = (false, Nat.toDigits 10 n) := by
    rw [hlist]
    unfold splitSign
    split
    · rename_i heq
      obtain ⟨rfl, -⟩ := List.cons.inj heq
      exact absurd hfirst (by decide)
    · rename_i heq
      obtain ⟨rfl, -⟩ := List.cons.inj heq
      exact absurd hfirst (by decide)
    · rfl
  have hhead : ¬((Nat.toDigits 10 n).head? == some '_') = true := by
    rw [hlist, List.head?_cons, beq_iff_eq, Option.some_inj]
    rintro rfl
    exact absurd hfirst (by decide)
  have hlength : ¬((Nat.toDigits 10 n).map fun c => c.toNat - 48).length > digitLimit := by
    unfold digitCeiling at h
    rw [List.length_map, Nat.not_lt]
    exact length_toDigits_le (by decide) h
  have hvalue : ofDigits ((Nat.toDigits 10 n).map fun c => c.toNat - 48) = n := by
    have hread : Nat.ofDigitChars 10 (Nat.toDigits 10 n) 0 = n :=
      Nat.ofDigitChars_toDigits (by decide) (by decide)
    rw [ofDigits, List.foldl_map]
    exact hread
  rw [readInteger, htrim, hsign]
  dsimp only
  rw [if_neg hhead, scanDigits_of_isDigit hdigits]
  dsimp only
  rw [if_neg hlength, if_neg (by simp [hlist]), hvalue]
  rfl

end SqlMapping
