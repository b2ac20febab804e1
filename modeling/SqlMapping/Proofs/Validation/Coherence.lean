import SqlMapping.Proofs.Result
import SqlMapping.Validation.Check

/-!
# What a valid batch of schemas is

A validation is valid when none of its issues is an error. This module says what that means for the
checks over a batch: the tables are distinct, every table and every column has a name of the
accepted form, and every reference into the batch leads to a column (`Coherent`). The other issues
are warnings and information.
-/

namespace SqlMapping

open SqlMapping.Text

/-! ## Names -/

namespace Text

/-- A text has the form of a name: an ASCII letter or an underscore, then ASCII letters, digits and
underscores, and possibly one line feed at the end. -/
def HasNameForm (s : String) : Prop :=
  ∃ first rest ending, s.toList = first :: (rest ++ ending) ∧ isPlainStart first = true ∧
    (∀ c ∈ rest, isPlainPart c = true) ∧ (ending = [] ∨ ending = ['\n'])

/-- A plain name starts with a letter or an underscore and goes on with letters, digits and
underscores. -/
lemma isPlainNameList_iff {cs : List Char} :
    isPlainNameList cs = true ↔ ∃ first rest, cs = first :: rest ∧ isPlainStart first = true ∧
      ∀ c ∈ rest, isPlainPart c = true := by
  cases cs with
  | nil => simp [isPlainNameList]
  | cons first rest => simp [isPlainNameList]

/-- A text is accepted as a name exactly when it has the form of a name. -/
lemma isPlainNameLine_iff {s : String} : isPlainNameLine s = true ↔ HasNameForm s := by
  rw [isPlainNameLine, Bool.or_eq_true, Bool.and_eq_true, beq_iff_eq, isPlainNameList_iff,
    isPlainNameList_iff]
  constructor
  · rintro (⟨first, rest, htext, hfirst, hrest⟩ | ⟨hlast, first, rest, hinit, hfirst, hrest⟩)
    · exact ⟨first, rest, [], by rw [htext, List.append_nil], hfirst, hrest, Or.inl rfl⟩
    · refine ⟨first, rest, ['\n'], ?_, hfirst, hrest, Or.inr rfl⟩
      rw [← List.cons_append, ← hinit]
      exact (List.dropLast_append_getLast? _ hlast).symm
  · rintro ⟨first, rest, ending, htext, hfirst, hrest, rfl | rfl⟩
    · exact Or.inl ⟨first, rest, by rw [htext, List.append_nil], hfirst, hrest⟩
    · rw [← List.cons_append] at htext
      refine Or.inr ⟨?_, first, rest, ?_, hfirst, hrest⟩
      · rw [htext, List.getLast?_concat]
      · rw [htext, List.dropLast_concat]

end Text

/-! ## Validations -/

namespace Validation

/-- A validation is valid when none of its issues is an error. -/
lemma isValid_iff {v : Validation} : v.isValid = true ↔ ∀ issue ∈ v, issue.level ≠ .error := by
  simp [isValid]

/-- Validations are valid together when each of them is. -/
lemma isValid_append {v w : Validation} :
    isValid (v ++ w) = true ↔ v.isValid = true ∧ w.isValid = true := by
  simp only [isValid_iff, List.forall_mem_append]

/-- The issues of the members of a list are valid when those of each member are. -/
lemma isValid_flatMap {α : Type} {xs : List α} {issues : α → Validation} :
    isValid (xs.flatMap issues) = true ↔ ∀ x ∈ xs, (issues x).isValid = true := by
  simp only [isValid_iff, List.mem_flatMap]
  constructor
  · exact fun h x hx issue hissue => h issue ⟨x, hx, hissue⟩
  · rintro h issue ⟨x, hx, hissue⟩
    exact h x hx issue hissue

end Validation

namespace Schema

/-- The table of a schema is shared unless no earlier schema has it. -/
lemma isValid_sharedTableIssues {s : Schema} {earlier : List Schema} :
    Validation.isValid (s.sharedTableIssues earlier) = true ↔
      s.table ∉ earlier.map Schema.table := by
  rw [sharedTableIssues, List.mem_map]
  cases hfind : earlier.find? fun t => t.table == s.table with
  | none =>
    have hnone : ¬∃ t ∈ earlier, t.table = s.table := by
      rintro ⟨t, ht, htable⟩
      exact List.find?_eq_none.mp hfind t ht (beq_iff_eq.mpr htable)
    simp [hnone, Validation.isValid]
  | some owner =>
    have howner : ∃ t ∈ earlier, t.table = s.table :=
      ⟨owner, List.mem_of_find?_eq_some hfind, by simpa using List.find?_some hfind⟩
    simp [howner, Validation.isValid]

/-- A table name is an error unless it has the form of a name. -/
lemma isValid_tableNameIssues {s : Schema} :
    Validation.isValid s.tableNameIssues = true ↔ HasNameForm s.table := by
  rw [tableNameIssues, ← isPlainNameLine_iff]
  cases isPlainNameLine s.table <;> cases isReservedWord s.table <;> simp [Validation.isValid]

/-- A field name is an error unless it has the form of a name. -/
lemma isValid_fieldNameIssues {s : Schema} {c : Column} :
    Validation.isValid (s.fieldNameIssues c) = true ↔ HasNameForm c.name := by
  rw [fieldNameIssues, ← isPlainNameLine_iff]
  cases isPlainNameLine c.name <;> cases isReservedWord c.name <;> simp [Validation.isValid]

/-- A reference is an error when the last table of its name in the batch has no column of its
name. -/
lemma isValid_referenceIssues {s : Schema} {batch : List Schema} {c : Column} {r : Reference} :
    Validation.isValid (s.referenceIssues batch c r) = true ↔
      ∀ target, (batch.reverse.find? fun t => t.table == r.table) = some target →
        r.column ∈ target.columnNames := by
  rw [referenceIssues]
  cases batch.reverse.find? fun t => t.table == r.table with
  | none => simp [Validation.isValid]
  | some target =>
    by_cases hcolumn : r.column ∈ target.columnNames <;>
      simp [hcolumn, Validation.isValid]

/-- A column that is not decoded is no error. -/
lemma isValid_decodeIssues (s : Schema) (c : Column) :
    Validation.isValid (s.decodeIssues c) = true := by
  rw [decodeIssues]
  cases c.chooseDecoder.2 <;> rfl

end Schema

/-! ## Batches -/

/-- The schemas of a batch fit together. -/
structure Coherent (batch : List Schema) : Prop where
  /-- Every schema has a table of its own. -/
  tables : (batch.map Schema.table).Nodup
  /-- The names of the tables have the form of names. -/
  tableNames : ∀ s ∈ batch, HasNameForm s.table
  /-- The names of the columns have the form of names. -/
  columnNames : ∀ s ∈ batch, ∀ c ∈ s.columns, HasNameForm c.name
  /-- A reference to a table of the batch names one of its columns. -/
  references : ∀ s ∈ batch, ∀ c ∈ s.columns, ∀ r, c.reference = some r →
    ∀ target ∈ batch, target.table = r.table → r.column ∈ target.columnNames

namespace Validation

/-- Table names are valid after those of earlier schemas when the tables are new and distinct, and
their names have the form of names. -/
lemma isValid_tableNamesAfter {earlier rest : List Schema} :
    isValid (tableNamesAfter earlier rest) = true ↔
      (∀ s ∈ rest, s.table ∉ earlier.map Schema.table) ∧ (rest.map Schema.table).Nodup ∧
        ∀ s ∈ rest, HasNameForm s.table := by
  induction rest generalizing earlier with
  | nil => simp [tableNamesAfter, isValid]
  | cons s rest ih =>
    have hnodup : ((s :: rest).map Schema.table).Nodup ↔
        s.table ∉ rest.map Schema.table ∧ (rest.map Schema.table).Nodup := by
      rw [List.map_cons, List.nodup_cons]
    have hsplit : (∀ t ∈ rest, t.table ∉ earlier.map Schema.table ++ [s].map Schema.table) ↔
        (∀ t ∈ rest, t.table ∉ earlier.map Schema.table) ∧
          s.table ∉ rest.map Schema.table := by
      simp only [List.map_cons, List.map_nil, List.mem_append, List.mem_singleton, not_or,
        List.mem_map, not_exists, not_and]
      constructor
      · exact fun h => ⟨fun t ht => (h t ht).1, fun t ht => (h t ht).2⟩
      · exact fun h t ht => ⟨h.1 t ht, h.2 t ht⟩
    rw [tableNamesAfter, isValid_append, isValid_append, Schema.isValid_sharedTableIssues,
      Schema.isValid_tableNameIssues, ih, List.map_append, hsplit, hnodup, List.forall_mem_cons,
      List.forall_mem_cons]
    tauto

/-- Among distinct tables, the last one of a name is the only one. -/
lemma find_reverse_eq_some {batch : List Schema} (htables : (batch.map Schema.table).Nodup)
    {name : String} {target : Schema} :
    (batch.reverse.find? fun t => t.table == name) = some target ↔
      target ∈ batch ∧ target.table = name := by
  have hreverse : (batch.reverse.map Schema.table).Nodup := by
    rwa [List.map_reverse, List.nodup_reverse]
  rw [find_eq_some_of_nodup hreverse, List.mem_reverse]

/-- References are valid among distinct tables when each of them into the batch names a column. -/
lemma isValid_ofReferences {batch : List Schema} (htables : (batch.map Schema.table).Nodup) :
    isValid (ofReferences batch) = true ↔
      ∀ s ∈ batch, ∀ c ∈ s.columns, ∀ r, c.reference = some r →
        ∀ target ∈ batch, target.table = r.table → r.column ∈ target.columnNames := by
  rw [ofReferences, isValid_flatMap]
  refine forall₂_congr fun s _ => ?_
  rw [isValid_flatMap]
  refine forall₂_congr fun c _ => ?_
  cases hreference : c.reference with
  | none => simp [isValid]
  | some r =>
    simp only [Option.some.injEq, forall_eq']
    rw [Schema.isValid_referenceIssues]
    simp only [find_reverse_eq_some htables, and_imp]

/-- **Validity.** The checks over a batch find no error exactly when its schemas fit together. -/
theorem isValid_ofBatch_iff {batch : List Schema} :
    isValid (ofBatch batch) = true ↔ Coherent batch := by
  have hnames : isValid (ofTableNames batch) = true ↔
      (batch.map Schema.table).Nodup ∧ ∀ s ∈ batch, HasNameForm s.table := by
    rw [ofTableNames, isValid_tableNamesAfter]
    simp
  have hfields : isValid (ofFieldNames batch) = true ↔
      ∀ s ∈ batch, ∀ c ∈ s.columns, HasNameForm c.name := by
    rw [ofFieldNames, isValid_flatMap]
    simp only [isValid_flatMap, Schema.isValid_fieldNameIssues]
  have hdecoders : isValid (ofDecoders batch) = true := by
    rw [ofDecoders, isValid_flatMap]
    intro s _
    rw [isValid_flatMap]
    exact fun c _ => s.isValid_decodeIssues c
  rw [ofBatch, isValid_append, isValid_append, isValid_append, hnames, hfields]
  constructor
  · rintro ⟨⟨⟨⟨htables, htableNames⟩, hcolumnNames⟩, hreferences⟩, -⟩
    exact ⟨htables, htableNames, hcolumnNames, (isValid_ofReferences htables).mp hreferences⟩
  · rintro ⟨htables, htableNames, hcolumnNames, hreferences⟩
    exact ⟨⟨⟨⟨htables, htableNames⟩, hcolumnNames⟩,
      (isValid_ofReferences htables).mpr hreferences⟩, hdecoders⟩

end Validation

end SqlMapping
