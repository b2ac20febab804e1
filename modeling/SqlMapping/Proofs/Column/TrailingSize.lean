import Mathlib.Data.List.DropRight
import Mathlib.Tactic.Lemma
import Mathlib.Tactic.SplitIfs
import SqlMapping.Column.Type
import SqlMapping.Proofs.Text.Trimming

/-!
# Sizes at the end of a text

A text ends in a size if its last line that is not blank has a part in parentheses at its end, with
nothing but blanks behind it. The size begins at the first parenthesis of that line
(`EndsInSize.exists_first`), and what is left without it and without the blanks around it is what
the reader of column types goes on with (`stripSizeList_append_size`). A text that ends in no size is
only trimmed (`stripSizeList_of_not`).
-/

namespace SqlMapping

open SqlMapping.Text

/-! ## Last lines -/

/-- The last line of a text. -/
def lastLine (cs : List Char) : List Char :=
  cs.rtakeWhile (· != '\n')

/-- There is no line feed in the last line. -/
lemma lineFeed_notMem_lastLine (cs : List Char) : '\n' ∉ lastLine cs :=
  fun h => absurd (List.mem_rtakeWhile_imp h) (by decide)

/-- A text is the lines above the last one, and the last one. -/
lemma exists_eq_append_lastLine (cs : List Char) : ∃ above, cs = above ++ lastLine cs :=
  ⟨_, List.rdropWhile_append_rtakeWhile.symm⟩

/-- What holds no line feed continues the last line. -/
lemma lastLine_append_of_notMem {rest : List Char} (h : '\n' ∉ rest) (front : List Char) :
    lastLine (front ++ rest) = lastLine front ++ rest := by
  have hrest : ∀ c ∈ rest.reverse, (c != '\n') = true := by
    intro c hc
    exact bne_iff_ne.mpr fun heq => h (heq ▸ List.mem_reverse.mp hc)
  rw [lastLine, List.rtakeWhile, List.reverse_append, List.takeWhile_append_of_pos hrest,
    List.reverse_append, List.reverse_reverse]
  rfl

/-- What holds a line feed has the last line. -/
lemma lastLine_append_of_mem {rest : List Char} (h : '\n' ∈ rest) (front : List Char) :
    lastLine (front ++ rest) = lastLine rest := by
  have hends : (rest.reverse.takeWhile (· != '\n')).length ≠ rest.reverse.length := by
    intro hlength
    have hall := List.takeWhile_eq_self_iff.mp
      ((List.takeWhile_prefix (· != '\n')).eq_of_length hlength)
    exact absurd (hall '\n' (List.mem_reverse.mpr h)) (by decide)
  rw [lastLine, List.rtakeWhile, List.reverse_append, List.takeWhile_append, if_neg hends]
  rfl

/-- A text with a character in its last line can be cut at the first such character there. -/
lemma exists_first_of_mem_lastLine {c : Char} {cs : List Char} (h : c ∈ lastLine cs) :
    ∃ front rest, cs = front ++ c :: rest ∧ c ∉ lastLine front ∧ '\n' ∉ rest := by
  obtain ⟨line, rest, hline, hfirst⟩ := List.eq_append_cons_of_mem h
  have hrest : '\n' ∉ c :: rest := by
    intro hmem
    refine lineFeed_notMem_lastLine cs ?_
    rw [hline]
    exact List.mem_append_right line hmem
  obtain ⟨above, habove⟩ := exists_eq_append_lastLine cs
  rw [hline, ← List.append_assoc] at habove
  have hshort : lastLine (above ++ line) = line := by
    have hsame := lastLine_append_of_notMem hrest (above ++ line)
    rw [← habove, hline] at hsame
    exact (List.append_cancel_right hsame).symm
  refine ⟨above ++ line, rest, habove, ?_, fun hmem => hrest (List.mem_cons_of_mem _ hmem)⟩
  rwa [hshort]

/-! ## The first parenthesis of the last line -/

/-- A text ends in a size: a part in parentheses on one line, with blanks behind it. -/
def EndsInSize (cs : List Char) : Prop :=
  ∃ front inner after, cs = front ++ '(' :: (inner ++ ')' :: after) ∧ '\n' ∉ inner ∧
    ∀ c ∈ after, isBlank c = true

/-- The size begins at the first parenthesis of its line. -/
lemma EndsInSize.exists_first {cs : List Char} (h : EndsInSize cs) :
    ∃ front inner after, cs = front ++ '(' :: (inner ++ ')' :: after) ∧ '(' ∉ lastLine front ∧
      '\n' ∉ inner ∧ ∀ c ∈ after, isBlank c = true := by
  obtain ⟨front, inner, after, rfl, hinner, hafter⟩ := h
  have hopens : '(' ∈ lastLine (front ++ '(' :: inner) := by
    rw [lastLine_append_of_notMem (by simp [hinner])]
    exact List.mem_append_right _ List.mem_cons_self
  obtain ⟨first, more, heq, hfirst, hmore⟩ := exists_first_of_mem_lastLine hopens
  refine ⟨first, more, after, ?_, hfirst, hmore, hafter⟩
  rw [← List.cons_append, ← List.append_assoc, heq, List.append_assoc, List.cons_append]

namespace ColumnType

/-- What is read of the type in a text that has a closing parenthesis at its end. -/
lemma stripSizeList_eq (cs : List Char) :
    stripSizeList cs =
      if (trimEndWith isBlank cs).getLast? = some ')' then
        let body := (trimEndWith isBlank cs).dropLast
        if (lastLine body).contains '(' then
          trimWith isBlank (body.take (body.length - (lastLine body).length) ++
            (lastLine body).takeWhile (· != '('))
        else trimWith isBlank cs
      else trimWith isBlank cs := rfl

/-- Without its size, a text is trimmed. -/
lemma stripSizeList_append_size {front inner after : List Char} (hfirst : '(' ∉ lastLine front)
    (hinner : '\n' ∉ inner) (hafter : ∀ c ∈ after, isBlank c = true) :
    stripSizeList (front ++ '(' :: (inner ++ ')' :: after)) = trimWith isBlank front := by
  have htrimmed : trimEndWith isBlank (front ++ '(' :: (inner ++ ')' :: after)) =
      (front ++ '(' :: inner) ++ [')'] := by
    have hparts : front ++ '(' :: (inner ++ ')' :: after) =
        ((front ++ '(' :: inner) ++ [')']) ++ after := by
      simp
    rw [hparts, trimEndWith_append hafter, trimEndWith_concat _ (by decide)]
  have hline : lastLine (front ++ '(' :: inner) = lastLine front ++ '(' :: inner :=
    lastLine_append_of_notMem (by simp [hinner]) front
  have hfree : ∀ c ∈ lastLine front, (c != '(') = true :=
    fun c hc => bne_iff_ne.mpr fun heq => hfirst (heq ▸ hc)
  obtain ⟨above, habove⟩ := exists_eq_append_lastLine front
  have hlength : (front ++ '(' :: inner).length - (lastLine front ++ '(' :: inner).length =
      above.length := by
    have hsum := congrArg List.length habove
    simp only [List.length_append] at hsum ⊢
    omega
  have htake : (front ++ '(' :: inner).take above.length = above := by
    rw [habove, List.append_assoc, List.take_left]
  rw [stripSizeList_eq, htrimmed, if_pos List.getLast?_concat]
  dsimp only
  rw [List.dropLast_concat, hline, if_pos (by simp), hlength, htake,
    List.takeWhile_append_of_pos hfree, List.takeWhile_cons_of_neg (by simp), List.append_nil,
    ← habove]

/-- A text that ends in no size is only trimmed. -/
lemma stripSizeList_of_not {cs : List Char} (h : ¬EndsInSize cs) :
    stripSizeList cs = trimWith isBlank cs := by
  rw [stripSizeList_eq]
  dsimp only
  split_ifs with hlast hopens
  · refine absurd ?_ h
    obtain ⟨body, hbody⟩ := List.getLast?_eq_some_iff.mp hlast
    obtain ⟨after, hafter, hcs⟩ := exists_eq_trimEndWith_append isBlank cs
    rw [hbody, List.dropLast_concat, List.contains_iff_mem] at hopens
    obtain ⟨front, inner, heq, -, hinner⟩ := exists_first_of_mem_lastLine hopens
    refine ⟨front, inner, after, ?_, hinner, hafter⟩
    rw [hcs, hbody, heq]
    simp
  · rfl
  · rfl

end ColumnType

end SqlMapping
