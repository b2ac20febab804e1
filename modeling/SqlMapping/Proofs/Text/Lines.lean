import Mathlib.Data.List.Infix
import Mathlib.Tactic.Lemma
import SqlMapping.Text.Layout
import SqlMapping.Text.Words

/-!
# Physical lines

A text is read line by line: a line feed, a carriage return, or both in this order end a line. Lines
that are joined to a text are not always the lines that are read in it, since each of them may hold
line breaks itself. Those that hold none are read in the text as they were joined
(`isInfix_physicalLines`), whatever stands around them.
-/

namespace SqlMapping.Text

/-- Whether a character ends a physical line. -/
def breaksLine (c : Char) : Bool :=
  c == '\n' || c == '\r'

/-- A text stands on one line. -/
def IsOneLine (s : String) : Prop :=
  s.toList.all (fun c => !breaksLine c) = true

instance : DecidablePred IsOneLine :=
  fun s => inferInstanceAs (Decidable (s.toList.all (fun c => !breaksLine c) = true))

/-- A text whose characters are known stands on one line if none of them ends one. -/
lemma isOneLine_of_toList {s : String} {cs : List Char} (h : s.toList = cs)
    (hcs : cs.all (fun c => !breaksLine c) = true) : IsOneLine s := by
  rw [IsOneLine, h]
  exact hcs

/-- Two texts of one line each make one line. -/
lemma IsOneLine.append {s t : String} (hs : IsOneLine s) (ht : IsOneLine t) :
    IsOneLine (s ++ t) := by
  unfold IsOneLine at *
  rw [String.toList_append, List.all_append, hs, ht, Bool.and_true]

/-- The lines of a list of characters. -/
def splitLines : List Char → List (List Char)
  | [] => [[]]
  | '\r' :: '\n' :: rest => [] :: splitLines rest
  | c :: rest => if breaksLine c then [] :: splitLines rest else prependToFirst c (splitLines rest)

/-- The physical lines of a text. -/
def physicalLines (s : String) : List String :=
  (splitLines s.toList).map String.ofList

/-- A character that is no carriage return ends a line by itself or stands on the first line. -/
lemma splitLines_cons {c : Char} (h : c ≠ '\r') (rest : List Char) :
    splitLines (c :: rest) =
      if breaksLine c then [] :: splitLines rest else prependToFirst c (splitLines rest) := by
  rw [splitLines]
  rintro - hc -
  exact h hc

/-- A line is read up to the line feed that ends it. -/
lemma splitLines_line {line : List Char} (hline : line.all (fun c => !breaksLine c) = true)
    (rest : List Char) : splitLines (line ++ '\n' :: rest) = line :: splitLines rest := by
  induction line with
  | nil => exact splitLines_cons (by decide) rest
  | cons c line ih =>
    rw [List.all_cons, Bool.and_eq_true, Bool.not_eq_true'] at hline
    have hc : c ≠ '\r' := by
      rintro rfl
      exact absurd hline.1 (by decide)
    rw [List.cons_append, splitLines_cons hc, hline.1, ih hline.2]
    rfl

/-- A text without line breaks is one line. -/
lemma splitLines_last {line : List Char} (hline : line.all (fun c => !breaksLine c) = true) :
    splitLines line = [line] := by
  induction line with
  | nil => rfl
  | cons c line ih =>
    rw [List.all_cons, Bool.and_eq_true, Bool.not_eq_true'] at hline
    have hc : c ≠ '\r' := by
      rintro rfl
      exact absurd hline.1 (by decide)
    rw [splitLines_cons hc, hline.1, ih hline.2]
    rfl

/-- What follows a line feed is read apart from what stands before it. -/
lemma exists_splitLines_append (cs rest : List Char) :
    ∃ before, before ≠ [] ∧ splitLines (cs ++ '\n' :: rest) = before ++ splitLines rest := by
  induction cs using splitLines.induct with
  | case1 => exact ⟨[[]], List.cons_ne_nil _ _, splitLines_cons (by decide) rest⟩
  | case2 cs ih =>
    obtain ⟨before, -, hbefore⟩ := ih
    refine ⟨[] :: before, List.cons_ne_nil _ _, ?_⟩
    rw [List.cons_append, List.cons_append, splitLines, hbefore, List.cons_append]
  | case3 c cs hpair hbreak ih =>
    obtain ⟨before, -, hbefore⟩ := ih
    by_cases hlast : c = '\r' ∧ cs = []
    · -- the carriage return and the line feed end one line together
      obtain ⟨rfl, rfl⟩ := hlast
      exact ⟨[[]], List.cons_ne_nil _ _, rfl⟩
    · refine ⟨[] :: before, List.cons_ne_nil _ _, ?_⟩
      rw [List.cons_append, splitLines, if_pos hbreak, hbefore, List.cons_append]
      rintro tail rfl htail
      cases cs with
      | nil => exact hlast ⟨rfl, rfl⟩
      | cons d cs =>
        rw [List.cons_append, List.cons.injEq] at htail
        exact hpair cs rfl (by rw [htail.1])
  | case4 c cs hpair hbreak ih =>
    obtain ⟨before, hne, hbefore⟩ := ih
    have hc : c ≠ '\r' := by
      rintro rfl
      exact hbreak (by decide)
    rw [List.cons_append, splitLines_cons hc, if_neg hbreak, hbefore]
    cases before with
    | nil => exact absurd rfl hne
    | cons first before => exact ⟨(c :: first) :: before, List.cons_ne_nil _ _, rfl⟩

/-- The characters of joined lines. -/
lemma toList_joinLines_cons_cons (first second : String) (rest : List String) :
    (joinLines (first :: second :: rest)).toList =
      first.toList ++ '\n' :: (joinLines (second :: rest)).toList := by
  have hjoin : joinLines (first :: second :: rest) = first ++ "\n" ++ joinLines (second :: rest) :=
    String.intercalate_cons_cons
  rw [hjoin, String.toList_append, String.toList_append, List.append_assoc]
  rfl

/-- Joined lines that hold no line breaks are read first. -/
lemma isPrefix_physicalLines {block : List String} (hblock : ∀ line ∈ block, IsOneLine line)
    (after : List String) : block <+: physicalLines (joinLines (block ++ after)) := by
  induction block with
  | nil => exact List.nil_prefix
  | cons line block ih =>
    have hline : IsOneLine line := hblock line List.mem_cons_self
    have hrest := ih fun other hmem => hblock other (List.mem_cons_of_mem line hmem)
    rw [List.cons_append]
    cases hjoined : block ++ after with
    | nil =>
      have hnil : block = [] := (List.append_eq_nil_iff.mp hjoined).1
      have hjoin : joinLines [line] = line := String.intercalate_singleton
      rw [hjoin, physicalLines, splitLines_last hline, hnil, List.map_singleton,
        String.ofList_toList]
    | cons next others =>
      rw [hjoined] at hrest
      rw [physicalLines, toList_joinLines_cons_cons, splitLines_line hline, List.map_cons,
        String.ofList_toList]
      exact List.cons_prefix_cons.mpr ⟨rfl, hrest⟩

/-- **Lines without line breaks.** Joined lines that hold no line breaks are read in the joined text
as they are, one after the other, whatever the lines around them hold. -/
theorem isInfix_physicalLines {lines block : List String} (h : block <:+: lines)
    (hblock : ∀ line ∈ block, IsOneLine line) : block <:+: physicalLines (joinLines lines) := by
  obtain ⟨before, after, rfl⟩ := h
  rw [List.append_assoc]
  induction before with
  | nil => exact (isPrefix_physicalLines hblock after).isInfix
  | cons first before ih =>
    rw [List.cons_append]
    cases hjoined : before ++ (block ++ after) with
    | nil =>
      have hnil : block = [] :=
        (List.append_eq_nil_iff.mp (List.append_eq_nil_iff.mp hjoined).2).1
      rw [hnil]
      exact List.nil_infix
    | cons second others =>
      obtain ⟨lines, -, hlines⟩ :=
        exists_splitLines_append first.toList (joinLines (second :: others)).toList
      rw [physicalLines, toList_joinLines_cons_cons, hlines, List.map_append]
      rw [hjoined] at ih
      exact ih.trans (List.suffix_append _ _).isInfix

end SqlMapping.Text
