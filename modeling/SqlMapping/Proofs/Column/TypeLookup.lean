import SqlMapping.Proofs.Column.TypeText
import SqlMapping.Proofs.Text.Substitution

/-!
# Look-ups by type texts

A type text names a column type, and through it a decoder. Both look-ups leave out a size at the end
of the text and the blanks around the rest. The same is left out by a pattern that is matched from
left to right (`stripSize_eq_substituted`).

The look-up of a decoder leaves out a size twice, as if the second time made no difference. It makes
one exactly if another size stands above the line of the last one (`stripSize_stripSize_iff`): the
pattern does not go beyond a line, and takes the last one only. Such a text names no column type,
but it can have a decoder all the same (`lookupsAgree_iff`).
-/

namespace SqlMapping

open SqlMapping.Text

namespace ColumnType

/-! ## Sizes by a pattern -/

/-- Whether anything on one line, a closing parenthesis and blanks up to the end make up a text:
`.*\)\s*$`. -/
def closesSize : List Char → Bool
  | [] => false
  | c :: rest => (c == ')' && rest.all isBlank) || (c != '\n' && closesSize rest)

/-- Blanks and a size up to the end of the text: `\s*\(.*\)\s*$`. Nothing takes its place. -/
def sizeRule (cs : List Char) : Option (Nat × List Char) :=
  match cs.dropWhile isBlank with
  | '(' :: rest => if closesSize rest then some (cs.length - 1, []) else none
  | _ => none

/-- A type text without the match of the pattern and without the blanks around it. -/
def substitutedSize (s : String) : String :=
  strip (String.ofList (substitute sizeRule s.toList))

/-- What the pattern takes for the rest of a size. -/
lemma closesSize_iff {cs : List Char} :
    closesSize cs = true ↔ ∃ inner after, cs = inner ++ ')' :: after ∧ '\n' ∉ inner ∧
      ∀ c ∈ after, isBlank c = true := by
  induction cs with
  | nil => simp [closesSize]
  | cons c rest ih =>
    rw [closesSize, Bool.or_eq_true, Bool.and_eq_true, Bool.and_eq_true, beq_iff_eq, bne_iff_ne, ih,
      List.all_eq_true]
    constructor
    · rintro (⟨rfl, hblank⟩ | ⟨hline, inner, after, rfl, hinner, hafter⟩)
      · exact ⟨[], rest, rfl, List.not_mem_nil, hblank⟩
      · exact ⟨c :: inner, after, rfl, by simp [Ne.symm hline, hinner], hafter⟩
    · rintro ⟨inner, after, hcs, hinner, hafter⟩
      cases inner with
      | nil =>
        obtain ⟨rfl, rfl⟩ := List.cons.inj hcs
        exact Or.inl ⟨rfl, hafter⟩
      | cons d inner =>
        obtain ⟨rfl, rfl⟩ := List.cons.inj hcs
        rw [List.mem_cons, not_or] at hinner
        exact Or.inr ⟨Ne.symm hinner.1, inner, after, rfl, hinner.2, hafter⟩

/-- A size does not go beyond its line, if anything but blanks stands there. -/
lemma closesSize_of_lineFeed {front rest : List Char} (h : '\n' ∈ front) :
    closesSize (front ++ '(' :: rest) = false := by
  induction front with
  | nil => exact absurd h List.not_mem_nil
  | cons c front ih =>
    have hopen : (front ++ '(' :: rest).all isBlank = false := by
      simp [(by decide : isBlank '(' = false)]
    rw [List.cons_append, closesSize, hopen, Bool.and_false, Bool.false_or]
    rcases List.mem_cons.mp h with rfl | hmem
    · rfl
    · rw [ih hmem, Bool.and_false]

/-- The pattern matches blanks and a size. -/
lemma sizeRule_of_closesSize {blanks rest : List Char} (hblanks : ∀ c ∈ blanks, isBlank c = true)
    (hrest : closesSize rest = true) :
    sizeRule (blanks ++ '(' :: rest) = some ((blanks ++ '(' :: rest).length - 1, []) := by
  unfold sizeRule
  rw [List.dropWhile_append_of_pos hblanks, List.dropWhile_cons_of_neg (by decide)]
  exact if_pos hrest

/-- The pattern matches sizes only. -/
lemma endsInSize_of_sizeRule {cs : List Char} (h : sizeRule cs ≠ none) : EndsInSize cs := by
  unfold sizeRule at h
  split at h
  · next rest hdrop =>
    split_ifs at h with hrest
    · obtain ⟨inner, after, rfl, hinner, hafter⟩ := closesSize_iff.mp hrest
      refine ⟨cs.takeWhile isBlank, inner, after, ?_, hinner, hafter⟩
      rw [← hdrop, List.takeWhile_append_dropWhile]
    · exact absurd rfl h
  · exact absurd rfl h

/-- Where the pattern matches, the rest of the text is left out. -/
lemma substitute_of_sizeRule {c : Char} {rest : List Char}
    (h : sizeRule (c :: rest) = some ((c :: rest).length - 1, [])) :
    substitute sizeRule (c :: rest) = [] := by
  rw [substitute_of_some h, List.length_cons, Nat.add_sub_cancel, List.drop_length, substitute]
  rfl

/-- The pattern does not match at a character that belongs to the type, or to a line above. -/
lemma sizeRule_of_not {front rest : List Char} (hkept : ¬∀ c ∈ front, isBlank c = true)
    (hfirst : '(' ∉ lastLine front) : sizeRule (front ++ '(' :: rest) = none := by
  cases hdrop : front.dropWhile isBlank with
  | nil => exact absurd (List.dropWhile_eq_nil_iff.mp hdrop) hkept
  | cons d more =>
    have hrest : (front ++ '(' :: rest).dropWhile isBlank = d :: (more ++ '(' :: rest) := by
      rw [List.dropWhile_append, hdrop]
      rfl
    unfold sizeRule
    rw [hrest]
    by_cases hopens : d = '('
    · subst hopens
      have hline : '\n' ∈ more := by
        by_contra hmore
        refine hfirst ?_
        rw [← List.takeWhile_append_dropWhile (p := isBlank) (l := front), hdrop,
          lastLine_append_of_notMem (by simp [hmore])]
        simp
      exact if_neg (Bool.eq_false_iff.mp (closesSize_of_lineFeed hline))
    · split
      · next heq => exact absurd (List.cons.inj heq).1 hopens
      · rfl

/-- The pattern takes a size from the first parenthesis of the last line on, with the blanks before
it. -/
lemma substitute_sizeRule_size {front rest : List Char} (hfirst : '(' ∉ lastLine front)
    (hrest : closesSize rest = true) :
    substitute sizeRule (front ++ '(' :: rest) = trimEndWith isBlank front := by
  induction front with
  | nil =>
    have hempty : ∀ c ∈ ([] : List Char), isBlank c = true := by simp
    exact substitute_of_sizeRule (sizeRule_of_closesSize hempty hrest)
  | cons c front ih =>
    by_cases hblank : ∀ d ∈ c :: front, isBlank d = true
    · have hnothing : trimEndWith isBlank (c :: front) = [] :=
        List.rdropWhile_eq_nil_iff.mpr hblank
      rw [hnothing]
      exact substitute_of_sizeRule (sizeRule_of_closesSize hblank hrest)
    · have hfront : '(' ∉ lastLine front := by
        by_cases hline : '\n' ∈ front
        · rwa [← List.singleton_append, lastLine_append_of_mem hline] at hfirst
        · exact fun hmem => hfirst (by
            rw [← List.singleton_append, lastLine_append_of_notMem hline]
            exact List.mem_append_right _ ((List.rtakeWhile_suffix _ _).mem hmem))
      have hkept : ¬(isBlank c = true ∧ trimEndWith isBlank front = []) := by
        rintro ⟨hc, hnothing⟩
        exact hblank (List.forall_mem_cons.mpr ⟨hc, List.rdropWhile_eq_nil_iff.mp hnothing⟩)
      have hnone : sizeRule (c :: (front ++ '(' :: rest)) = none := sizeRule_of_not hblank hfirst
      rw [List.cons_append, substitute_of_none hnone, ih hfront, trimEndWith_cons, if_neg hkept]

/-- Where there is no size, nothing is left out. -/
lemma substitute_sizeRule_of_not {cs : List Char} (h : ¬EndsInSize cs) :
    substitute sizeRule cs = cs := by
  induction cs with
  | nil => rw [substitute]
  | cons c rest ih =>
    have hnone : sizeRule (c :: rest) = none := by
      by_contra hmatch
      exact h (endsInSize_of_sizeRule hmatch)
    have hrest : ¬EndsInSize rest := by
      rintro ⟨front, inner, after, rfl, hsize⟩
      exact h ⟨c :: front, inner, after, rfl, hsize⟩
    rw [substitute_of_none hnone, ih hrest]

/-- **Sizes by a pattern.** What is left of a type text is what the pattern leaves of it, without the
blanks around it. -/
theorem stripSize_eq_substituted (s : String) : stripSize s = substitutedSize s := by
  have hlist : stripSizeList s.toList = trimWith isBlank (substitute sizeRule s.toList) := by
    by_cases hsize : EndsInSize s.toList
    · obtain ⟨front, inner, after, hcs, hfirst, hinner, hafter⟩ := hsize.exists_first
      have hcloses : closesSize (inner ++ ')' :: after) = true :=
        closesSize_iff.mpr ⟨inner, after, rfl, hinner, hafter⟩
      rw [hcs, stripSizeList_append_size hfirst hinner hafter,
        substitute_sizeRule_size hfirst hcloses, trimWith_trimEndWith]
    · rw [stripSizeList_of_not hsize, substitute_sizeRule_of_not hsize]
  rw [stripSize, hlist, substitutedSize, strip, String.toList_ofList]

/-! ## A second size -/

/-- A text that ends in a size is longer than what is left of it. -/
lemma length_stripSizeList_lt {cs : List Char} (h : EndsInSize cs) :
    (stripSizeList cs).length < cs.length := by
  obtain ⟨front, inner, after, rfl, hfirst, hinner, hafter⟩ := h.exists_first
  rw [stripSizeList_append_size hfirst hinner hafter, List.length_append, List.length_cons]
  have hshort := length_trimWith_le isBlank front
  omega

/-- There are no blanks around what is left. -/
lemma trimWith_stripSizeList (cs : List Char) :
    trimWith isBlank (stripSizeList cs) = stripSizeList cs := by
  by_cases h : EndsInSize cs
  · obtain ⟨front, inner, after, rfl, hfirst, hinner, hafter⟩ := h.exists_first
    rw [stripSizeList_append_size hfirst hinner hafter, trimWith_trimWith]
  · rw [stripSizeList_of_not h, trimWith_trimWith]

/-- What is left stays as it is a second time exactly if it ends in no size. -/
lemma stripSizeList_stripSizeList_iff (cs : List Char) :
    stripSizeList (stripSizeList cs) = stripSizeList cs ↔ ¬EndsInSize (stripSizeList cs) := by
  constructor
  · intro hsame hsize
    have hshorter := length_stripSizeList_lt hsize
    rw [hsame] at hshorter
    exact Nat.lt_irrefl _ hshorter
  · intro hnone
    rw [stripSizeList_of_not hnone, trimWith_stripSizeList]

/-- Blanks around a text do not matter to whether it ends in a size. -/
lemma endsInSize_trimWith_iff (cs : List Char) :
    EndsInSize (trimWith isBlank cs) ↔ EndsInSize cs := by
  constructor
  · rintro ⟨front, inner, after, htrim, hinner, hafter⟩
    obtain ⟨start, ending, -, hending, hcs⟩ := exists_eq_append_trimWith isBlank cs
    refine ⟨start ++ front, inner, after ++ ending, ?_, hinner,
      List.forall_mem_append.mpr ⟨hafter, hending⟩⟩
    rw [hcs, htrim]
    simp
  · rintro ⟨front, inner, after, rfl, hinner, hafter⟩
    have hparts : front ++ '(' :: (inner ++ ')' :: after) =
        front ++ '(' :: (inner ++ [')']) ++ after := by
      simp
    have hstart : (front ++ '(' :: (inner ++ [')'])).dropWhile isBlank =
        (front.dropWhile isBlank ++ '(' :: inner) ++ [')'] := by
      have hopen : ('(' :: (inner ++ [')'])).dropWhile isBlank = '(' :: (inner ++ [')']) :=
        List.dropWhile_cons_of_neg (by decide)
      rw [List.dropWhile_append, hopen]
      split_ifs with hempty
      · rw [List.isEmpty_iff.mp hempty]
        rfl
      · simp
    refine ⟨front.dropWhile isBlank, inner, [], ?_, hinner, by simp⟩
    rw [← trimWith_trimEndWith, hparts, trimEndWith_append hafter, trimWith_trimEndWith, trimWith_eq,
      hstart, trimEndWith_concat _ (by decide), List.append_assoc, List.cons_append]

/-- A text has a size at its end and another one above the line of this one, with nothing but blanks
between them. -/
def HasStackedSizes (cs : List Char) : Prop :=
  ∃ front above gap below after,
    cs = front ++ '(' :: (above ++ ')' :: gap) ++ '(' :: (below ++ ')' :: after) ∧
      '\n' ∉ above ∧ '\n' ∉ below ∧ '\n' ∈ gap ∧ (∀ c ∈ gap, isBlank c = true) ∧
        ∀ c ∈ after, isBlank c = true

/-- What is left ends in a size exactly if there are two sizes, one above the line of the other. -/
lemma endsInSize_stripSizeList_iff (cs : List Char) :
    EndsInSize (stripSizeList cs) ↔ HasStackedSizes cs := by
  constructor
  · intro hleft
    by_cases hsize : EndsInSize cs
    · obtain ⟨rest, below, after, rfl, hfirst, hbelow, hafter⟩ := hsize.exists_first
      rw [stripSizeList_append_size hfirst hbelow hafter, endsInSize_trimWith_iff] at hleft
      obtain ⟨front, above, gap, rfl, habove, hgap⟩ := hleft
      refine ⟨front, above, gap, below, after, rfl, habove, hbelow, ?_, hgap, hafter⟩
      -- on one line, the first of the two parentheses would have been taken
      by_contra hline
      refine hfirst ?_
      rw [lastLine_append_of_notMem (by simp [habove, hline])]
      simp
    · rw [stripSizeList_of_not hsize, endsInSize_trimWith_iff] at hleft
      exact absurd hleft hsize
  · rintro ⟨front, above, gap, below, after, rfl, habove, hbelow, hline, hgap, hafter⟩
    have hfirst : '(' ∉ lastLine (front ++ '(' :: (above ++ ')' :: gap)) := by
      have hparts : front ++ '(' :: (above ++ ')' :: gap) =
          (front ++ '(' :: (above ++ [')'])) ++ gap := by
        simp
      rw [hparts, lastLine_append_of_mem hline]
      intro hmem
      exact absurd (hgap '(' ((List.rtakeWhile_suffix _ _).mem hmem)) (by decide)
    rw [stripSizeList_append_size hfirst hbelow hafter, endsInSize_trimWith_iff]
    exact ⟨front, above, gap, rfl, habove, hgap⟩

/-- **A second size.** Leaving out a size a second time makes no difference exactly if the text has
no sizes on lines of their own. -/
theorem stripSize_stripSize_iff (s : String) :
    stripSize (stripSize s) = stripSize s ↔ ¬HasStackedSizes s.toList := by
  rw [← endsInSize_stripSizeList_iff, ← stripSizeList_stripSizeList_iff, stripSize, stripSize,
    String.toList_ofList, String.ofList_inj]

/-! ## Look-ups -/

/-- No type has a name with a parenthesis. -/
lemma ofName?_upper_eq_none {s : String} (h : ')' ∈ s.toList) : ofName? (upper s) = none := by
  have hupper : ')' ∈ (upper s).toList := by
    rw [upper, String.toList_ofList]
    exact List.mem_flatMap.mpr ⟨')', h, by decide⟩
  rw [ofName?, List.find?_eq_none]
  intro t _ hname
  rw [← eq_of_beq hname] at hupper
  exact absurd (isPlain_of_mem_name hupper) (by decide)

/-- A text with two sizes names no column type. -/
lemma parse?_of_hasStackedSizes {s : String} (h : HasStackedSizes s.toList) : parse? s = none := by
  obtain ⟨front, inner, after, hleft, -, -⟩ := (endsInSize_stripSizeList_iff s.toList).mpr h
  refine ofName?_upper_eq_none ?_
  rw [stripSize, String.toList_ofList, hleft]
  simp

/-- Both look-ups agree on a type text: it makes no difference to leave out a size twice, and the
decoder is that of the column type, if the text names one. -/
structure LookupsAgree (s : String) : Prop where
  /-- What is left of the text stays as it is. -/
  stable : stripSize (stripSize s) = stripSize s
  /-- The decoder is that of the column type. -/
  decoder : decoderOfText? s = (parse? s).bind decoder?

/-- The decoder is that of the column type, unless there are two sizes and a decoder behind them. -/
lemma decoderOfText?_eq_iff (s : String) :
    decoderOfText? s = (parse? s).bind decoder? ↔
      ¬(HasStackedSizes s.toList ∧ (decoderOfText? s).isSome = true) := by
  by_cases h : HasStackedSizes s.toList
  · rw [parse?_of_hasStackedSizes h, Option.bind_none, and_iff_right h, Option.not_isSome_iff_eq_none]
  · have hsame := (stripSize_stripSize_iff s).mpr h
    refine iff_of_true ?_ fun hboth => h hboth.1
    rw [decoderOfText?, parse?, hsame, parse?]

/-- **Look-ups by type texts.** What is left of a type text is what the pattern leaves of it. Both
look-ups agree exactly on the texts that do not have two sizes, one above the line of the other. On
these the look-up of a type fails, and that of a decoder is wrong if it does not fail. -/
theorem lookupsAgree_iff (s : String) :
    stripSize s = substitutedSize s ∧ (LookupsAgree s ↔ ¬HasStackedSizes s.toList) ∧
      (decoderOfText? s = (parse? s).bind decoder? ↔
        ¬(HasStackedSizes s.toList ∧ (decoderOfText? s).isSome = true)) := by
  refine ⟨stripSize_eq_substituted s, ?_, decoderOfText?_eq_iff s⟩
  constructor
  · exact fun hagree => (stripSize_stripSize_iff s).mp hagree.stable
  · intro hsingle
    exact ⟨(stripSize_stripSize_iff s).mpr hsingle,
      (decoderOfText?_eq_iff s).mpr fun hboth => hsingle hboth.1⟩

/-- A text that names no column type and has a decoder. -/
theorem not_lookupsAgree_twoLines :
    parse? "VARCHAR(1)\n(2)" = none ∧ decoderOfText? "VARCHAR(1)\n(2)" = some .string ∧
      ¬LookupsAgree "VARCHAR(1)\n(2)" := by
  have hparse : parse? "VARCHAR(1)\n(2)" = none := by decide +kernel
  have hdecoder : decoderOfText? "VARCHAR(1)\n(2)" = some .string := by decide +kernel
  refine ⟨hparse, hdecoder, fun hagree => ?_⟩
  have hnone := hagree.decoder
  rw [hdecoder, hparse] at hnone
  exact absurd hnone (by simp)

end ColumnType

end SqlMapping
