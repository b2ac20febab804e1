import SqlMapping.Proofs.Entity.Queries
import SqlMapping.Proofs.Validation.Coherence

/-!
# Names that are checked

The names of queries and of their parameters are checked when statements are made, those of tables
and columns when a batch is validated. All four checks accept the same texts: names (`IsName`), and
names followed by one line feed, which no check notices. `NamesChecked` says that a form is the one
that the checks look for, together with what this means for generated artifacts and for batches
without complaints, and `namesChecked_iff` that this form is the only one.
-/

namespace SqlMapping

open SqlMapping.Text

/-! ## Names -/

namespace Text

/-- A letter between `a` and `z`, in either case. -/
def IsAsciiLetter (c : Char) : Prop :=
  ('a' ≤ c ∧ c ≤ 'z') ∨ ('A' ≤ c ∧ c ≤ 'Z')

/-- A digit between `0` and `9`. -/
def IsAsciiDigit (c : Char) : Prop :=
  '0' ≤ c ∧ c ≤ '9'

/-- A text is a name: an ASCII letter or an underscore, then ASCII letters, digits and underscores,
and nothing else. -/
def IsName (s : String) : Prop :=
  ∃ first rest, s.toList = first :: rest ∧ (IsAsciiLetter first ∨ first = '_') ∧
    ∀ c ∈ rest, IsAsciiLetter c ∨ IsAsciiDigit c ∨ c = '_'

/-- The letters of plain names. -/
lemma isAlpha_iff {c : Char} : c.isAlpha = true ↔ IsAsciiLetter c := by
  have hupper : c.isUpper = true ↔ 'A' ≤ c ∧ c ≤ 'Z' := decide_eq_true_iff
  have hlower : c.isLower = true ↔ 'a' ≤ c ∧ c ≤ 'z' := by
    show (decide ('a' ≤ c) && decide (c ≤ 'z')) = true ↔ _
    rw [Bool.and_eq_true, decide_eq_true_iff, decide_eq_true_iff]
  show (c.isUpper || c.isLower) = true ↔ _
  rw [Bool.or_eq_true, hupper, hlower]
  exact or_comm

/-- The digits of plain names. -/
lemma isDigit_iff {c : Char} : c.isDigit = true ↔ IsAsciiDigit c := by
  unfold IsAsciiDigit
  show (decide ('0' ≤ c) && decide (c ≤ '9')) = true ↔ _
  rw [Bool.and_eq_true, decide_eq_true_iff, decide_eq_true_iff]

/-- The characters that stand first in a plain name. -/
lemma isPlainStart_iff {c : Char} : isPlainStart c = true ↔ IsAsciiLetter c ∨ c = '_' := by
  rw [isPlainStart, Bool.or_eq_true, isAlpha_iff, beq_iff_eq]

/-- The characters that stand in a plain name after its first place. -/
lemma isPlainPart_iff {c : Char} :
    isPlainPart c = true ↔ IsAsciiLetter c ∨ IsAsciiDigit c ∨ c = '_' := by
  show (c.isAlpha || c.isDigit || c == '_') = true ↔ _
  rw [Bool.or_eq_true, Bool.or_eq_true, isAlpha_iff, isDigit_iff, beq_iff_eq, or_assoc]

/-- A text that has the form of a name is a name, possibly with one line feed behind it. -/
lemma hasNameForm_iff {s : String} :
    HasNameForm s ↔ IsName s ∨ ∃ t, IsName t ∧ s = t ++ "\n" := by
  unfold HasNameForm IsName
  simp only [isPlainStart_iff, isPlainPart_iff]
  constructor
  · rintro ⟨first, rest, ending, htext, hfirst, hrest, rfl | rfl⟩
    · rw [List.append_nil] at htext
      exact Or.inl ⟨first, rest, htext, hfirst, hrest⟩
    · refine Or.inr ⟨String.ofList (first :: rest), ?_, String.toList_injective ?_⟩
      · exact ⟨first, rest, String.toList_ofList, hfirst, hrest⟩
      · rw [htext, String.toList_append, String.toList_ofList]
        rfl
  · rintro (⟨first, rest, htext, hfirst, hrest⟩ | ⟨t, ⟨first, rest, htext, hfirst, hrest⟩, rfl⟩)
    · exact ⟨first, rest, [], by rw [htext, List.append_nil], hfirst, hrest, Or.inl rfl⟩
    · refine ⟨first, rest, ['\n'], ?_, hfirst, hrest, Or.inr rfl⟩
      rw [String.toList_append, htext]
      rfl

/-- No name has a line feed. -/
lemma lineFeed_not_mem_of_isName {s : String} (hname : IsName s) : '\n' ∉ s.toList := by
  obtain ⟨first, rest, htext, hfirst, hrest⟩ := hname
  have hletter : ¬IsAsciiLetter '\n' := by
    unfold IsAsciiLetter
    decide
  have hdigit : ¬IsAsciiDigit '\n' := by
    unfold IsAsciiDigit
    decide
  rw [htext, List.mem_cons]
  rintro (rfl | hmem)
  · rcases hfirst with hfirst | hfirst
    · exact hletter hfirst
    · exact absurd hfirst (by decide)
  · rcases hrest _ hmem with hmem | hmem | hmem
    · exact hletter hmem
    · exact hdigit hmem
    · exact absurd hmem (by decide)

end Text

/-! ## The names of a query -/

namespace Query

/-- The first fault of parameters is the name of one of them or its repetition. -/
lemma parameterFault?_eq_some {query : String} {seen : List String} {ps : List QueryParameter}
    {fault : ElementFault} (h : parameterFault? query seen ps = some fault) :
    ∃ p ∈ ps, (¬HasNameForm p.name ∧ fault = .badParameterName query p.name) ∨
      fault = .repeatedParameter query p.name := by
  induction ps generalizing seen with
  | nil => exact absurd h (by simp [parameterFault?])
  | cons p rest ih =>
    unfold parameterFault? at h
    split_ifs at h with hform hseen
    · rw [Bool.not_eq_true', ← Bool.not_eq_true, isPlainNameLine_iff] at hform
      exact ⟨p, List.mem_cons_self, Or.inl ⟨hform, (Option.some.inj h).symm⟩⟩
    · exact ⟨p, List.mem_cons_self, Or.inr (Option.some.inj h).symm⟩
    · obtain ⟨p', hp', hfault⟩ := ih h
      exact ⟨p', List.mem_cons_of_mem _ hp', hfault⟩

/-- Parameters have no fault exactly when they have names of the accepted form, which are distinct
and not taken. -/
lemma parameterFault?_eq_none {query : String} {seen : List String} {ps : List QueryParameter} :
    parameterFault? query seen ps = none ↔
      AcceptedInTurn (fun p : QueryParameter => HasNameForm p.name) QueryParameter.name seen ps := by
  induction ps generalizing seen with
  | nil => simp [parameterFault?, AcceptedInTurn]
  | cons p rest ih =>
    rw [acceptedInTurn_cons, ← ih, ← isPlainNameLine_iff, parameterFault?]
    cases isPlainNameLine p.name <;> by_cases hseen : p.name ∈ seen <;> simp [hseen]

/-- The first of some parameters is refused for its name exactly when that does not have the
form of a name. -/
lemma parameterFault?_cons_eq_bad {query : String} {seen : List String} {p : QueryParameter}
    {rest : List QueryParameter} :
    parameterFault? query seen (p :: rest) = some (.badParameterName query p.name) ↔
      ¬HasNameForm p.name := by
  constructor
  · intro h
    obtain ⟨p', -, ⟨hform, hfault⟩ | hfault⟩ := parameterFault?_eq_some h
    · rw [ElementFault.badParameterName.injEq] at hfault
      rwa [hfault.2]
    · exact absurd hfault (by simp)
  · intro hform
    rw [← isPlainNameLine_iff, Bool.not_eq_true] at hform
    rw [parameterFault?, hform]
    rfl

/-- A query is refused for its name exactly when that does not have the form of a name. -/
lemma fault?_eq_badQueryName {q : Query} :
    q.fault? = some (.badQueryName q.name) ↔ ¬HasNameForm q.name := by
  rw [← isPlainNameLine_iff, Bool.not_eq_true, fault?]
  cases isPlainNameLine q.name with
  | false => simp
  | true =>
    simp only [Bool.not_true, Bool.false_eq_true, ↓reduceIte, reduceCtorEq, iff_false]
    split_ifs
    · simp
    · simp
    · intro h
      obtain ⟨p, -, ⟨-, hfault⟩ | hfault⟩ := parameterFault?_eq_some h
      · exact absurd hfault (by simp)
      · exact absurd hfault (by simp)

/-- The names of an accepted query and of its parameters have the form of names. -/
lemma hasNameForm_of_fault?_eq_none {q : Query} (haccepted : q.fault? = none) :
    HasNameForm q.name ∧ ∀ p ∈ q.parameters, HasNameForm p.name := by
  constructor
  · by_contra hform
    rw [fault?_eq_badQueryName.mpr hform] at haccepted
    exact absurd haccepted (by simp)
  · unfold fault? at haccepted
    dsimp only at haccepted
    split_ifs at haccepted
    exact (parameterFault?_eq_none.mp haccepted).1

/-- Making the statement of a query fails with the fault of the query. -/
lemma statement_eq_error {q : Query} {entity : String} {fault : ElementFault} :
    (q.statement entity).result =
        .error (.element (if entity = "" then none else some entity) fault) ↔
      q.fault? = some fault := by
  rw [statement_result]
  cases q.fault? with
  | none => simp
  | some actual => simp [Failure.element]

/-- Bindings go by the names of the parameters. -/
lemma map_name_bindings (position : Nat) (ps : List QueryParameter) :
    (bindings position ps).map Binding.name = ps.map QueryParameter.name := by
  induction ps generalizing position with
  | nil => rfl
  | cons p rest ih => rw [bindings, List.map_cons, List.map_cons, ih]

end Query

/-- The statements of queries stand under the names of the queries, which are accepted. -/
lemma queryStatements_eq_ok {entity : String} {taken : List String} {queries : List Query}
    {statements : List (String × Statement)}
    (h : (queryStatements entity taken queries).result = .ok statements) :
    (∀ q ∈ queries, q.fault? = none) ∧
      statements = queries.map fun q => (q.name, q.toStatement) := by
  refine ⟨(queryStatements_ok_iff.mp ⟨statements, h⟩).1, ?_⟩
  induction queries generalizing taken statements with
  | nil => exact (Except.ok.inj h).symm
  | cons q rest ih =>
    obtain ⟨-, -, others, hothers, rfl⟩ := queryStatements_cons_eq_ok.mp h
    rw [List.map_cons, ← ih hothers]

/-- Generated artifacts hold the statements of the queries, which are accepted in turn. -/
lemma Schema.queries_generate {s : Schema} {queries : List Query} {settings : Settings}
    {a : Artifacts} (h : (s.generate queries settings).result = .ok a) :
    AcceptedInTurn (fun q : Query => q.fault? = none) Query.accessor [] queries ∧
      a.queries = queries.map fun q => (q.name, q.toStatement) := by
  obtain ⟨statements, createTable, plan, hstatements, -, -, rfl⟩ := generate_eq_ok.mp h
  exact ⟨queryStatements_ok_iff.mp ⟨statements, hstatements⟩, (queryStatements_eq_ok hstatements).2⟩

/-- The names in generated artifacts: those of the queries and of what they bind. -/
def Artifacts.QueryNames (a : Artifacts) (form : String → Prop) : Prop :=
  ∀ entry ∈ a.queries, form entry.1 ∧ ∀ b ∈ entry.2.bindings, form b.name

/-- The names of the queries of generated artifacts, and of what they bind, have the form of
names. -/
lemma Schema.queryNames_generate {s : Schema} {queries : List Query} {settings : Settings}
    {a : Artifacts} (h : (s.generate queries settings).result = .ok a) :
    a.QueryNames HasNameForm := by
  obtain ⟨statements, createTable, plan, hstatements, -, -, rfl⟩ := generate_eq_ok.mp h
  obtain ⟨haccepted, hmap⟩ := queryStatements_eq_ok hstatements
  intro entry hentry
  have hmem : entry ∈ queries.map fun q => (q.name, q.toStatement) := hmap ▸ hentry
  obtain ⟨q, hq, rfl⟩ := List.mem_map.mp hmem
  obtain ⟨hname, hparameters⟩ := Query.hasNameForm_of_fault?_eq_none (haccepted q hq)
  refine ⟨hname, fun b hb => ?_⟩
  have hb' : b.name ∈ q.parameters.map QueryParameter.name := by
    rw [← Query.map_name_bindings 1]
    exact List.mem_map_of_mem hb
  obtain ⟨p, hp, hsame⟩ := List.mem_map.mp hb'
  rw [← hsame]
  exact hparameters p hp

/-! ## The names of a batch -/

/-- An issue refuses a name: its code starts with `INVALID_`. -/
def Issue.RefusesName (i : Issue) : Prop :=
  "INVALID_".toList <+: i.code.toList

instance (i : Issue) : Decidable i.RefusesName :=
  inferInstanceAs (Decidable ("INVALID_".toList <+: i.code.toList))

namespace Validation

/-- No issue of a validation refuses a name. -/
def AcceptsNames (v : Validation) : Prop :=
  ∀ i ∈ v, ¬i.RefusesName

/-- Nothing is refused where there is no issue. -/
lemma acceptsNames_nil : AcceptsNames [] :=
  fun _ hi => absurd hi List.not_mem_nil

/-- A single issue accepts the names when it does not refuse one. -/
lemma acceptsNames_singleton {i : Issue} : AcceptsNames [i] ↔ ¬i.RefusesName :=
  List.forall_mem_singleton

/-- Two validations accept the names together when each of them does. -/
lemma acceptsNames_append {v w : Validation} :
    AcceptsNames (v ++ w) ↔ v.AcceptsNames ∧ w.AcceptsNames :=
  List.forall_mem_append

/-- The validations of the members of a list accept the names when each of them does. -/
lemma acceptsNames_flatMap {α : Type} {xs : List α} {issues : α → Validation} :
    AcceptsNames (xs.flatMap issues) ↔ ∀ x ∈ xs, (issues x).AcceptsNames := by
  unfold AcceptsNames
  simp only [List.mem_flatMap]
  constructor
  · exact fun h x hx i hi => h i ⟨x, hx, hi⟩
  · rintro h i ⟨x, hx, hi⟩
    exact h x hx i hi

end Validation

namespace Schema

open Validation

/-- A shared table is no issue of names. -/
lemma acceptsNames_sharedTableIssues (s : Schema) (earlier : List Schema) :
    AcceptsNames (s.sharedTableIssues earlier) := by
  unfold sharedTableIssues
  cases earlier.find? fun t => t.table == s.table with
  | none => exact acceptsNames_nil
  | some owner =>
    have hcode : ¬"INVALID_".toList <+: "DUPLICATE_TABLE_NAME".toList := by decide
    exact acceptsNames_singleton.mpr hcode

/-- A table name is accepted exactly when it has the form of a name. -/
lemma acceptsNames_tableNameIssues {s : Schema} :
    AcceptsNames s.tableNameIssues ↔ HasNameForm s.table := by
  rw [← isPlainNameLine_iff, tableNameIssues]
  cases isPlainNameLine s.table with
  | false =>
    have hcode : "INVALID_".toList <+: "INVALID_TABLE_NAME".toList := by decide
    exact iff_of_false (fun h => acceptsNames_singleton.mp h hcode) Bool.false_ne_true
  | true =>
    have hcode : ¬"INVALID_".toList <+: "TABLE_NAME_SQL_RESERVED".toList := by decide
    cases isReservedWord s.table with
    | false => exact iff_of_true acceptsNames_nil rfl
    | true => exact iff_of_true (acceptsNames_singleton.mpr hcode) rfl

/-- A field name is accepted exactly when it has the form of a name. -/
lemma acceptsNames_fieldNameIssues {s : Schema} {c : Column} :
    AcceptsNames (s.fieldNameIssues c) ↔ HasNameForm c.name := by
  rw [← isPlainNameLine_iff, fieldNameIssues]
  cases isPlainNameLine c.name with
  | false =>
    have hcode : "INVALID_".toList <+: "INVALID_FIELD_NAME".toList := by decide
    exact iff_of_false (fun h => acceptsNames_singleton.mp h hcode) Bool.false_ne_true
  | true =>
    have hcode : ¬"INVALID_".toList <+: "FIELD_NAME_SQL_RESERVED".toList := by decide
    cases isReservedWord c.name with
    | false => exact iff_of_true acceptsNames_nil rfl
    | true => exact iff_of_true (acceptsNames_singleton.mpr hcode) rfl

/-- A reference is no issue of names. -/
lemma acceptsNames_referenceIssues (s : Schema) (batch : List Schema) (c : Column)
    (r : Reference) : AcceptsNames (s.referenceIssues batch c r) := by
  have hexternal : ¬"INVALID_".toList <+: "FK_TARGET_EXTERNAL".toList := by decide
  have hmissing : ¬"INVALID_".toList <+: "FK_TARGET_COLUMN_MISSING".toList := by decide
  unfold referenceIssues
  cases batch.reverse.find? fun t => t.table == r.table with
  | none => exact acceptsNames_singleton.mpr hexternal
  | some target =>
    dsimp only
    split_ifs
    · exact acceptsNames_nil
    · exact acceptsNames_singleton.mpr hmissing

/-- A column that is not decoded is no issue of names. -/
lemma acceptsNames_decodeIssues (s : Schema) (c : Column) : AcceptsNames (s.decodeIssues c) := by
  have hcode : ¬"INVALID_".toList <+: "OPAQUE_DECODE".toList := by decide
  unfold decodeIssues
  split_ifs
  · exact acceptsNames_singleton.mpr hcode
  · exact acceptsNames_nil

end Schema

namespace Validation

/-- The tables of a batch are accepted when their names have the form of names, whatever stands
before them. -/
lemma acceptsNames_tableNamesAfter {earlier rest : List Schema} :
    AcceptsNames (tableNamesAfter earlier rest) ↔ ∀ s ∈ rest, HasNameForm s.table := by
  induction rest generalizing earlier with
  | nil => simp [tableNamesAfter, acceptsNames_nil]
  | cons s rest ih =>
    have hshared := s.acceptsNames_sharedTableIssues earlier
    rw [tableNamesAfter, acceptsNames_append, acceptsNames_append, ih,
      Schema.acceptsNames_tableNameIssues, List.forall_mem_cons, and_iff_right hshared]

/-- **The names of a batch.** The checks over a batch refuse no name exactly when all its tables and
columns have names of the accepted form. -/
theorem acceptsNames_ofBatch {batch : List Schema} :
    AcceptsNames (ofBatch batch) ↔
      ∀ s ∈ batch, HasNameForm s.table ∧ ∀ c ∈ s.columns, HasNameForm c.name := by
  have htables : AcceptsNames (ofTableNames batch) ↔ ∀ s ∈ batch, HasNameForm s.table :=
    acceptsNames_tableNamesAfter
  have hfields : AcceptsNames (ofFieldNames batch) ↔
      ∀ s ∈ batch, ∀ c ∈ s.columns, HasNameForm c.name := by
    rw [ofFieldNames, acceptsNames_flatMap]
    simp only [acceptsNames_flatMap, Schema.acceptsNames_fieldNameIssues]
  have hreferences : AcceptsNames (ofReferences batch) := by
    rw [ofReferences, acceptsNames_flatMap]
    intro s _
    rw [acceptsNames_flatMap]
    intro c _
    cases c.reference with
    | none => exact acceptsNames_nil
    | some r => exact s.acceptsNames_referenceIssues batch c r
  have hdecoders : AcceptsNames (ofDecoders batch) := by
    rw [ofDecoders, acceptsNames_flatMap]
    intro s _
    rw [acceptsNames_flatMap]
    exact fun c _ => s.acceptsNames_decodeIssues c
  rw [ofBatch, acceptsNames_append, acceptsNames_append, acceptsNames_append, htables, hfields,
    and_iff_left hdecoders, and_iff_left hreferences, ← forall₂_and]

end Validation

/-! ## All names -/

/-- All names are checked for a form: each of the four checks refuses a name exactly when it does
not have the form, and so the names that are left in artifacts and batches have it. -/
structure NamesChecked (form : String → Prop) : Prop where
  /-- A query is refused for its name exactly when that does not have the form. -/
  queryName : ∀ (q : Query) (entity : String),
    (q.statement entity).result =
        .error (.element (if entity = "" then none else some entity) (.badQueryName q.name)) ↔
      ¬form q.name
  /-- A parameter is refused for its name exactly when that does not have the form, whatever the
  other parameters are. -/
  parameterName : ∀ (query : String) (seen : List String) (p : QueryParameter)
    (rest : List QueryParameter),
    Query.parameterFault? query seen (p :: rest) = some (.badParameterName query p.name) ↔
      ¬form p.name
  /-- A table is refused for its name exactly when that does not have the form. -/
  tableName : ∀ s : Schema,
    (∃ i ∈ s.tableNameIssues, i.code = "INVALID_TABLE_NAME") ↔ ¬form s.table
  /-- A column is refused for its name exactly when that does not have the form. -/
  fieldName : ∀ (s : Schema) (c : Column),
    (∃ i ∈ s.fieldNameIssues c, i.code = "INVALID_FIELD_NAME") ↔ ¬form c.name
  /-- The queries of artifacts, and what they bind, have names of the form. -/
  artifacts : ∀ (s : Schema) (queries : List Query) (settings : Settings) (a : Artifacts),
    (s.generate queries settings).result = .ok a → a.QueryNames form
  /-- No name is refused in a batch exactly when its tables and columns have names of the form. -/
  batches : ∀ batch : List Schema, (Validation.ofBatch batch).AcceptsNames ↔
    ∀ s ∈ batch, form s.table ∧ ∀ c ∈ s.columns, form c.name

/-- The checks look for the form of names. -/
lemma namesChecked_hasNameForm : NamesChecked HasNameForm where
  queryName _ _ := Query.statement_eq_error.trans Query.fault?_eq_badQueryName
  parameterName _ _ _ _ := Query.parameterFault?_cons_eq_bad
  tableName s := by
    rw [← isPlainNameLine_iff, Schema.tableNameIssues]
    cases isPlainNameLine s.table <;> cases isReservedWord s.table <;> simp
  fieldName s c := by
    rw [← isPlainNameLine_iff, Schema.fieldNameIssues]
    cases isPlainNameLine c.name <;> cases isReservedWord c.name <;> simp
  artifacts _ _ _ _ := Schema.queryNames_generate
  batches _ := Validation.acceptsNames_ofBatch

/-- All names are checked for no other form. -/
lemma NamesChecked.form_iff {form : String → Prop} (h : NamesChecked form) (s : String) :
    form s ↔ HasNameForm s := by
  have hform := h.queryName ⟨s, "", []⟩ ""
  have hline := namesChecked_hasNameForm.queryName ⟨s, "", []⟩ ""
  rw [← not_iff_not, ← hform, ← hline]

/-- **Which names are accepted.** The one form that all names are checked for is a name, or a name
with one line feed behind it. -/
theorem namesChecked_iff {form : String → Prop} :
    NamesChecked form ↔ ∀ s, form s ↔ IsName s ∨ ∃ t, IsName t ∧ s = t ++ "\n" := by
  simp only [← hasNameForm_iff]
  constructor
  · exact fun h => h.form_iff
  · intro h
    have hsame : form = HasNameForm := funext fun s => propext (h s)
    rw [hsame]
    exact namesChecked_hasNameForm

/-- A schema whose table has a line feed behind its name. -/
def lineBehind : Schema :=
  { entity := "User"
    table := "users\n"
    columns := [{ name := "id", hostType := "int", type := .int, isKey := true }]
    hasKey := rfl }

/-- The checks are not for names alone: they have no issue with a table whose name ends in a line
feed. -/
theorem not_namesChecked_isName :
    Validation.ofBatch [lineBehind] = [] ∧ ¬IsName lineBehind.table ∧ ¬NamesChecked IsName := by
  have hissues : Validation.ofBatch [lineBehind] = [] := by decide +kernel
  have hname : ¬IsName lineBehind.table := fun h =>
    lineFeed_not_mem_of_isName h (by decide)
  refine ⟨hissues, hname, fun hchecked => hname ?_⟩
  have haccepted := (hchecked.batches [lineBehind]).mp (hissues ▸ Validation.acceptsNames_nil)
  exact (haccepted lineBehind List.mem_cons_self).1

end SqlMapping
