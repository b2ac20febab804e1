import Mathlib.Data.List.DropRight
import Mathlib.Tactic.Lemma
import SqlMapping.Text.Blank

/-!
# Trimmed texts

Trimming takes characters of one kind away from both ends of a text, and nothing else
(`exists_eq_append_trimWith`). What has been trimmed stays as it is (`trimWith_trimWith`).
-/

namespace SqlMapping.Text

variable {p : Char → Bool}

/-! ## The end of a text -/

/-- The end of a text is trimmed up to the last character that stays. -/
lemma trimEndWith_cons (p : Char → Bool) (c : Char) (cs : List Char) :
    trimEndWith p (c :: cs) =
      if p c = true ∧ trimEndWith p cs = [] then [] else c :: trimEndWith p cs := by
  rw [trimEndWith, trimEndWith, List.reverse_cons, List.dropWhile_append]
  cases hdrop : cs.reverse.dropWhile p with
  | nil => cases hc : p c <;> simp [hc]
  | cons d rest => simp

/-- Nothing is left out at the end of a text that ends with a character that is kept. -/
lemma trimEndWith_concat {last : Char} (cs : List Char) (h : p last = false) :
    trimEndWith p (cs ++ [last]) = cs ++ [last] :=
  List.rdropWhile_concat_neg p cs last (by simp [h])

/-- Characters to trim at the end do not count. -/
lemma trimEndWith_append {ending : List Char} (h : ∀ c ∈ ending, p c = true) (cs : List Char) :
    trimEndWith p (cs ++ ending) = trimEndWith p cs := by
  have hreverse : ∀ c ∈ ending.reverse, p c = true :=
    fun c hc => h c (List.mem_reverse.mp hc)
  rw [trimEndWith, List.reverse_append, List.dropWhile_append_of_pos hreverse, trimEndWith]

/-- A text is what is left at its end and characters that are trimmed. -/
lemma exists_eq_trimEndWith_append (p : Char → Bool) (cs : List Char) :
    ∃ ending, (∀ c ∈ ending, p c = true) ∧ cs = trimEndWith p cs ++ ending :=
  ⟨cs.rtakeWhile p, fun _ => List.mem_rtakeWhile_imp, List.rdropWhile_append_rtakeWhile.symm⟩

/-! ## Both ends -/

/-- Both ends are trimmed one after the other. -/
lemma trimWith_eq (p : Char → Bool) (cs : List Char) :
    trimWith p cs = trimEndWith p (cs.dropWhile p) := rfl

/-- A text is what trimming leaves of it, between characters that are trimmed. -/
lemma exists_eq_append_trimWith (p : Char → Bool) (cs : List Char) :
    ∃ start ending, (∀ c ∈ start, p c = true) ∧ (∀ c ∈ ending, p c = true) ∧
      cs = start ++ (trimWith p cs ++ ending) := by
  obtain ⟨ending, hending, heq⟩ := exists_eq_trimEndWith_append p (cs.dropWhile p)
  refine ⟨cs.takeWhile p, ending, fun c => List.mem_takeWhile_imp, hending, ?_⟩
  rw [trimWith_eq, ← heq, List.takeWhile_append_dropWhile]

/-- Trimming makes no text longer. -/
lemma length_trimWith_le (p : Char → Bool) (cs : List Char) :
    (trimWith p cs).length ≤ cs.length := by
  obtain ⟨start, ending, -, -, heq⟩ := exists_eq_append_trimWith p cs
  have hlength := congrArg List.length heq
  simp only [List.length_append] at hlength
  omega

/-- Nothing is left out of a text without characters to trim. -/
lemma trimWith_of_forall {cs : List Char} (h : ∀ c ∈ cs, p c = false) :
    trimWith p cs = cs := by
  have hkept {ds : List Char} (hds : ∀ d ∈ ds, p d = false) : ds.dropWhile p = ds := by
    cases ds with
    | nil => rfl
    | cons d ds => exact List.dropWhile_cons_of_neg (by simp [hds d List.mem_cons_self])
  rw [trimWith, hkept h, hkept fun c hc => h c (List.mem_reverse.mp hc), List.reverse_reverse]

/-- Characters to trim in front of a text do not count. -/
lemma trimWith_cons_of_pos {c : Char} (h : p c = true) (cs : List Char) :
    trimWith p (c :: cs) = trimWith p cs := by
  rw [trimWith_eq, List.dropWhile_cons_of_pos h, trimWith_eq]

/-- Only the end is trimmed of a text that begins with a character that is kept. -/
lemma trimWith_cons_of_neg {c : Char} (h : p c = false) (cs : List Char) :
    trimWith p (c :: cs) = c :: trimEndWith p cs := by
  rw [trimWith_eq, List.dropWhile_cons_of_neg (by simp [h]), trimEndWith_cons, if_neg (by simp [h])]

/-- The end of a text may be trimmed first. -/
lemma trimWith_trimEndWith (p : Char → Bool) (cs : List Char) :
    trimWith p (trimEndWith p cs) = trimWith p cs := by
  induction cs with
  | nil => rfl
  | cons c rest ih =>
    rw [trimEndWith_cons]
    cases hc : p c with
    | true =>
      rw [trimWith_cons_of_pos hc]
      split_ifs with hnothing
      · rw [← ih, hnothing.2]
      · rw [trimWith_cons_of_pos hc, ih]
    | false =>
      have hstable : trimEndWith p (trimEndWith p rest) = trimEndWith p rest :=
        List.rdropWhile_idempotent p rest
      rw [if_neg (by simp), trimWith_cons_of_neg hc, trimWith_cons_of_neg hc, hstable]

/-- **Trimming is stable.** What has been trimmed stays as it is. -/
theorem trimWith_trimWith (p : Char → Bool) (cs : List Char) :
    trimWith p (trimWith p cs) = trimWith p cs := by
  rw [trimWith_eq p cs, trimWith_trimEndWith, trimWith_eq, List.dropWhile_idempotent]

end SqlMapping.Text
