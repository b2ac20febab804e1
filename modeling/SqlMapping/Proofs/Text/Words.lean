import Mathlib.Data.Nat.Basic
import Mathlib.Tactic.Lemma
import SqlMapping.Text.Words

/-!
# What names become in snake case

The snake case of a name shows its segments in lower case and nothing else of it. They can be read
back from it, as no segment holds an underscore: two names have the same snake case exactly when
they have the same segments in lower case (`snakeCase_eq_iff`).
-/

namespace SqlMapping.Text

/-- The segments of a name between changes of case, in lower case. -/
def foldedSegments (name : String) : List (List Char) :=
  (segments cutsAtCase name.toList).map (List.map Char.toLower)

/-- Putting a character in front of the first segment adds nothing else to the segments. -/
lemma forall_mem_prependToFirst {p : Char → Bool} {c : Char} {others : List (List Char)}
    (hc : p c = true) (h : ∀ segment ∈ others, segment ≠ [] ∧ segment.all p = true) :
    ∀ segment ∈ prependToFirst c others, segment ≠ [] ∧ segment.all p = true := by
  cases others with
  | nil =>
    intro segment hmem
    rw [List.mem_singleton.mp hmem]
    exact ⟨List.cons_ne_nil c [], by simp [hc]⟩
  | cons first rest =>
    intro segment hmem
    rcases List.mem_cons.mp hmem with rfl | hrest
    · have hfirst := (h first List.mem_cons_self).2
      exact ⟨List.cons_ne_nil c first, by rw [List.all_cons, hc, hfirst, Bool.true_and]⟩
    · exact h segment (List.mem_cons_of_mem first hrest)

/-- Segments are not empty and consist of letters and digits. -/
lemma segments_alphanum (cut : Char → Char → Option Char → Bool) (cs : List Char) :
    ∀ segment ∈ segments cut cs, segment ≠ [] ∧ segment.all Char.isAlphanum = true := by
  induction cs using segments.induct cut with
  | case1 => exact fun segment hmem => absurd hmem List.not_mem_nil
  | case2 c hc =>
    rw [segments, if_pos hc]
    exact forall_mem_prependToFirst hc fun segment hmem => absurd hmem List.not_mem_nil
  | case3 c hc =>
    rw [segments, if_neg hc]
    exact fun segment hmem => absurd hmem List.not_mem_nil
  | case4 c d rest hc ih =>
    rw [segments, if_pos hc]
    exact ih
  | case5 c d rest hc hjoins ih =>
    rw [segments, if_neg hc, if_pos hjoins]
    exact forall_mem_prependToFirst (by simpa using hc) ih
  | case6 c d rest hc hcuts ih =>
    rw [segments, if_neg hc, if_neg hcuts]
    intro segment hmem
    rcases List.mem_cons.mp hmem with rfl | hrest
    · exact ⟨List.cons_ne_nil c [], by simpa using hc⟩
    · exact ih segment hrest

/-- What holds of the letters and digits among the first characters holds of every letter and
digit. -/
lemma of_isAlphanum {p : Char → Prop}
    (h : ∀ n < 123, (Char.ofNat n).isAlphanum = true → p (Char.ofNat n)) {c : Char}
    (hc : c.isAlphanum = true) : p c := by
  have hbound : c.toNat ≤ 122 := by
    rcases (Bool.or_eq_true _ _).mp hc with halpha | hdigit
    · rcases (Bool.or_eq_true _ _).mp halpha with hupper | hlower
      · have hle : c.toNat ≤ 90 := (of_decide_eq_true hupper).2
        exact Nat.le_trans hle (by decide)
      · exact of_decide_eq_true ((Bool.and_eq_true _ _).mp hlower).2
    · have hle : c.toNat ≤ 57 := of_decide_eq_true ((Bool.and_eq_true _ _).mp hdigit).2
      exact Nat.le_trans hle (by decide)
  rw [← Char.ofNat_toNat c] at hc ⊢
  exact h c.toNat (Nat.lt_succ_of_le hbound) hc

/-- A letter or digit in lower case is no underscore. -/
lemma toLower_ne_underscore {c : Char} (h : c.isAlphanum = true) : c.toLower ≠ '_' :=
  of_isAlphanum (p := fun c => c.toLower ≠ '_') (by decide) h

/-- Segments in lower case are not empty and hold no underscore. -/
lemma foldedSegments_mem {name : String} {segment : List Char}
    (h : segment ∈ foldedSegments name) : segment ≠ [] ∧ '_' ∉ segment := by
  obtain ⟨original, hmem, rfl⟩ := List.mem_map.mp h
  obtain ⟨hne, hall⟩ := segments_alphanum cutsAtCase name.toList original hmem
  refine ⟨by simpa using hne, fun hunderscore => ?_⟩
  obtain ⟨c, hc, hlower⟩ := List.mem_map.mp hunderscore
  exact toLower_ne_underscore (List.all_eq_true.mp hall c hc) hlower

/-- The characters of a snake case are those of the segments, with an underscore between each
two. -/
lemma toList_snakeCase (name : String) :
    (snakeCase name).toList = ['_'].intercalate (foldedSegments name) := by
  have hfolded : (String.toList ∘ fun segment => String.ofList (segment.map Char.toLower)) =
      List.map Char.toLower := by
    funext segment
    exact String.toList_ofList
  rw [snakeCase, String.toList_intercalate, List.map_map, hfolded]
  rfl

/-- What holds of the underscore and of the characters of some parts holds of every character of the
parts with underscores between them. -/
lemma forall_mem_intercalate {p : Char → Prop} (hunderscore : p '_') {parts : List (List Char)}
    (h : ∀ part ∈ parts, ∀ c ∈ part, p c) : ∀ c ∈ ['_'].intercalate parts, p c := by
  induction parts with
  | nil => exact fun c hc => absurd hc List.not_mem_nil
  | cons part rest ih =>
    have hfirst := h part List.mem_cons_self
    cases rest with
    | nil =>
      rw [List.intercalate_singleton]
      exact hfirst
    | cons next rest =>
      have hrest := ih fun other hmem => h other (List.mem_cons_of_mem part hmem)
      rw [List.intercalate_cons_cons]
      intro c hc
      rcases List.mem_append.mp hc with hc | hc
      · rcases List.mem_append.mp hc with hc | hc
        · exact hfirst c hc
        · rw [List.mem_singleton.mp hc]
          exact hunderscore
      · exact hrest c hc

/-- What holds of the underscore and of letters and digits in lower case holds of every character of
a snake case. -/
lemma forall_mem_snakeCase {p : Char → Prop} (hunderscore : p '_')
    (hletter : ∀ c : Char, c.isAlphanum = true → p c.toLower) (name : String) :
    ∀ c ∈ (snakeCase name).toList, p c := by
  rw [toList_snakeCase]
  refine forall_mem_intercalate hunderscore fun segment hsegment c hc => ?_
  obtain ⟨original, horiginal, rfl⟩ := List.mem_map.mp hsegment
  obtain ⟨d, hd, rfl⟩ := List.mem_map.mp hc
  have hall := (segments_alphanum cutsAtCase name.toList original horiginal).2
  exact hletter d (List.all_eq_true.mp hall d hd)

/-- The segments of a name in lower case are the parts of its snake case between underscores. -/
lemma foldedSegments_eq_splitOn (name : String) :
    foldedSegments name =
      if (snakeCase name).toList = [] then [] else (snakeCase name).toList.splitOn '_' := by
  rw [toList_snakeCase]
  by_cases hnil : foldedSegments name = []
  · rw [hnil]
    rfl
  · have hread := List.splitOn_intercalate '_' (fun segment hmem => (foldedSegments_mem hmem).2) hnil
    rw [hread, if_neg]
    intro hempty
    -- the empty text has one part, the empty one, and no segment is empty
    rw [hempty, List.splitOn_nil] at hread
    exact (foldedSegments_mem (hread ▸ List.mem_singleton_self [])).1 rfl

/-- **What a snake case shows.** Two names have the same snake case exactly when they have the same
segments in lower case. -/
theorem snakeCase_eq_iff {a b : String} :
    snakeCase a = snakeCase b ↔ foldedSegments a = foldedSegments b := by
  constructor
  · intro heq
    rw [foldedSegments_eq_splitOn a, foldedSegments_eq_splitOn b, heq]
  · intro heq
    rw [← String.toList_inj, toList_snakeCase, toList_snakeCase, heq]

end SqlMapping.Text
