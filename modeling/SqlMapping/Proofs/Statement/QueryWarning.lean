import SqlMapping.Proofs.Entity.Queries
import SqlMapping.Proofs.Sql.Adaptation

/-!
# Warnings about placeholders

A query whose text has more or fewer question marks than the query has parameters is taken with a
warning. All question marks are counted there, those between quotes too, while a driver gets a mark
only for those outside quotes. So the warning says what a driver finds exactly when no question mark
stands between quotes, or the number of parameters is neither of the two counts
(`warnsRightly_iff`).
-/

namespace SqlMapping

open SqlMapping.Number SqlMapping.Sql

/-! ## Question marks between quotes -/

namespace Sql

/-- The places of the question marks between quotes. -/
def quotedMarks (sql : String) : Finset Nat :=
  (Finset.range sql.toList.length).filter fun i =>
    sql.toList[i]? = some '?' ∧ i ∉ placeholderPlaces sql

/-- A character is counted at each of its places. -/
lemma count_eq_count_places (c : Char) (cs : List Char) :
    Nat.count (fun i => cs[i]? = some c) cs.length = cs.count c := by
  induction cs with
  | nil => rfl
  | cons d cs ih =>
    rw [List.length_cons, Nat.count_succ', List.count_cons, ← ih]
    simp

/-- Every question mark of a text stands outside quotes or between them. -/
lemma questionMarks_eq (sql : String) :
    Query.questionMarks sql = (placeholderPlaces sql).card + (quotedMarks sql).card := by
  set marks : Finset Nat :=
    (Finset.range sql.toList.length).filter fun i => sql.toList[i]? = some '?' with hmarks
  have hcount : Query.questionMarks sql = marks.card := by
    unfold Query.questionMarks
    rw [← count_eq_count_places, Nat.count_eq_card_filter_range]
  have hunquoted : marks.filter (· ∈ placeholderPlaces sql) = placeholderPlaces sql := by
    ext i
    rw [hmarks, Finset.mem_filter, Finset.mem_filter]
    constructor
    · exact fun h => h.2
    · intro hi
      have hmem := Finset.mem_filter.mp hi
      exact ⟨⟨hmem.1, hmem.2.1⟩, hi⟩
  have hquoted : marks.filter (· ∉ placeholderPlaces sql) = quotedMarks sql := by
    unfold quotedMarks
    rw [hmarks, Finset.filter_filter]
  have hsplit := Finset.card_filter_add_card_filter_not (s := marks) (· ∈ placeholderPlaces sql)
  rw [hcount, ← hsplit, hunquoted, hquoted]

end Sql

/-! ## Warnings -/

namespace Query

/-- The warning about the number of placeholders of a query. -/
def countWarning (q : Query) : LogEntry :=
  ⟨.warning, .statements, s!"Query '{q.name}' has " ++ natText (questionMarks q.sql) ++
    " '?' placeholder(s) but " ++ natText q.parameters.length ++ " parameter(s)."⟩

/-- The entries that an accepted query leaves: the warning, unless the counts agree. -/
lemma statement_trace {q : Query} (haccepted : q.fault? = none) (entity : String) :
    (q.statement entity).trace =
      if questionMarks q.sql = q.parameters.length then [] else [q.countWarning] := by
  unfold statement
  rw [haccepted]
  show (if questionMarks q.sql != q.parameters.length then _ else _ : Step Statement).trace = _
  by_cases hmarks : questionMarks q.sql = q.parameters.length
  · have hsame : ¬(questionMarks q.sql != q.parameters.length) = true := by simp [hmarks]
    rw [if_neg hsame, if_pos hmarks]
    rfl
  · have hdiffer : (questionMarks q.sql != q.parameters.length) = true := by simp [hmarks]
    rw [if_pos hdiffer, if_neg hmarks]
    rfl

/-- An accepted query is warned about exactly when the number of all its question marks is not that
of its parameters. -/
lemma countWarning_mem_iff {q : Query} (haccepted : q.fault? = none) (entity : String) :
    q.countWarning ∈ (q.statement entity).trace ↔
      (placeholderPlaces q.sql).card + (quotedMarks q.sql).card ≠ q.parameters.length := by
  rw [statement_trace haccepted, ← questionMarks_eq]
  split_ifs with hmarks <;> simp [hmarks]

/-- A query is warned about exactly when a driver gets another number of marks than the query has
parameters. -/
def WarnsRightly (q : Query) (entity : String) : Prop :=
  ∃ places, AdaptsAt q.sql places ∧
    (q.countWarning ∈ (q.statement entity).trace ↔ places.card ≠ q.parameters.length)

/-- The places at which a driver gets marks are those of the placeholders. -/
lemma warnsRightly_iff_placeholderPlaces {q : Query} {entity : String} :
    q.WarnsRightly entity ↔ (q.countWarning ∈ (q.statement entity).trace ↔
      (placeholderPlaces q.sql).card ≠ q.parameters.length) := by
  constructor
  · rintro ⟨places, hadapts, hwarns⟩
    rw [adaptsAt_iff.mp hadapts] at hwarns
    exact hwarns
  · exact fun h => ⟨placeholderPlaces q.sql, adaptsAt_placeholderPlaces q.sql, h⟩

/-- **When the warning is right.** An accepted query is warned about by the number of all its
question marks. That agrees with what a driver finds exactly when none of them stands between
quotes, or the query has as many parameters neither as placeholders nor as question marks. -/
theorem warnsRightly_iff {q : Query} (haccepted : q.fault? = none) (entity : String) :
    (q.countWarning ∈ (q.statement entity).trace ↔
      (placeholderPlaces q.sql).card + (quotedMarks q.sql).card ≠ q.parameters.length) ∧
    (q.WarnsRightly entity ↔ quotedMarks q.sql = ∅ ∨
      (q.parameters.length ≠ (placeholderPlaces q.sql).card ∧
        q.parameters.length ≠ (placeholderPlaces q.sql).card + (quotedMarks q.sql).card)) := by
  have hwarns := countWarning_mem_iff haccepted entity
  refine ⟨hwarns, ?_⟩
  rw [warnsRightly_iff_placeholderPlaces, hwarns, ← Finset.card_eq_zero]
  omega

/-- A query with a question mark between quotes, and too few parameters on either count. -/
def undersupplied : Query :=
  ⟨"undersupplied", "SELECT '?' FROM t WHERE a = ? AND b = ?", [⟨"a", "object"⟩]⟩

/-- A warning that is right although a question mark stands between quotes. -/
theorem warnsRightly_undersupplied :
    undersupplied.fault? = none ∧ undersupplied.WarnsRightly "" := by
  have haccepted : undersupplied.fault? = none := by decide +kernel
  have hcounts : undersupplied.parameters.length ≠ (placeholderPlaces undersupplied.sql).card ∧
      undersupplied.parameters.length ≠ (placeholderPlaces undersupplied.sql).card +
        (quotedMarks undersupplied.sql).card := by decide
  exact ⟨haccepted, (warnsRightly_iff haccepted "").2.mpr (Or.inr hcounts)⟩

/-- A query with a question mark between quotes and one parameter, which its placeholder binds. -/
def literalMark : Query :=
  ⟨"literal_mark", "SELECT '?' FROM t WHERE a = ?", [⟨"a", "object"⟩]⟩

/-- Not every accepted query is warned about rightly: here a driver gets as many marks as there are
parameters, and still there is a warning. -/
theorem not_warnsRightly_literalMark :
    literalMark.fault? = none ∧ placeholderPlaces literalMark.sql = {28} ∧
      literalMark.countWarning ∈ (literalMark.statement "").trace ∧ ¬literalMark.WarnsRightly "" := by
  have haccepted : literalMark.fault? = none := by decide +kernel
  have hwarns : literalMark.countWarning ∈ (literalMark.statement "").trace :=
    (countWarning_mem_iff haccepted "").mpr (by decide)
  refine ⟨haccepted, by decide, hwarns, ?_⟩
  rw [warnsRightly_iff_placeholderPlaces]
  exact fun h => absurd (h.mp hwarns) (by decide)

end Query

end SqlMapping
