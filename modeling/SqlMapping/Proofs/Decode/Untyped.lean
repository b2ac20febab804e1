import SqlMapping.Proofs.Column.TypeText
import SqlMapping.Proofs.Entity.DigitLimit
import SqlMapping.Proofs.Sql.Number
import SqlMapping.Validation.Check

/-!
# Untyped columns

A column is untyped when its host type is not a recognised one and its column type has no decoder
(`Column.IsUntyped`). Three parts of the program find that out on their own, from the text of the SQL
type with the size in it: the decode plan, the validation of a batch, and the generation of an entity
that is asked to refuse such columns. The plan and the validation always report the untyped columns
and no others, in their order (`FlagsUntyped`).

Generation refuses the first untyped column, and if there is none it comes to what it comes to
otherwise (`RefusesUntyped`). But the statement that creates the table is written first. If one of
the defaults has too many digits for that, generation breaks off before it has looked at a decoder
(`refusesUntyped_iff`).
-/

namespace SqlMapping

open SqlMapping.Number SqlMapping.Shape SqlMapping.Text

/-! ## Decoders of columns -/

/-- The text of an integer is plain. -/
lemma isPlain_of_mem_intText {n : Int} {c : Char} (h : c ∈ (intText n).toList) :
    isPlain c = true := by
  rw [Sql.toList_intText, List.mem_append] at h
  rcases h with h | h
  · split_ifs at h
    · obtain rfl := List.mem_singleton.mp h
      decide
    · exact absurd h List.not_mem_nil
  · exact isPlain_of_mem_toDigits h

namespace Column

/-- Without its size, the SQL type of a column is the name of its column type. -/
lemma stripSize_sqlType (c : Column) : ColumnType.stripSize c.sqlType = c.type.name := by
  have hname := fun d => ColumnType.isPlain_of_mem_name (t := c.type) (c := d)
  rw [ColumnType.stripSize, sqlType]
  cases c.size with
  | none =>
    dsimp only
    rw [stripSizeList_of_isPlain hname, String.ofList_toList]
  | some n =>
    have hlist : (c.type.name ++ "(" ++ intText n ++ ")").toList =
        c.type.name.toList ++ '(' :: ((intText n).toList ++ [')']) := by
      simp [String.toList_append]
    dsimp only
    rw [hlist, stripSizeList_append hname fun d => isPlain_of_mem_intText, String.ofList_toList]

/-- The decoder that the SQL type of a column names is that of its column type, whatever the size. -/
lemma decoderOfText_sqlType (c : Column) :
    ColumnType.decoderOfText? c.sqlType = c.type.decoder? := by
  rw [ColumnType.decoderOfText?, stripSize_sqlType, ColumnType.parse_name, Option.bind_some]

/-- Neither the host type of a column nor its column type tells how to decode it. -/
def IsUntyped (c : Column) : Prop :=
  c.recognisedHostType? = none ∧ c.type.decoder? = none

instance (c : Column) : Decidable c.IsUntyped :=
  inferInstanceAs (Decidable (_ ∧ _))

/-- An untyped column has the decoder that changes nothing. -/
lemma chooseDecoder_of_isUntyped {c : Column} (h : c.IsUntyped) :
    c.chooseDecoder = (.object, true) := by
  rw [chooseDecoder, h.1]
  dsimp only
  rw [decoderOfText_sqlType, h.2]

/-- Any other column has a typed decoder. -/
lemma chooseDecoder_of_not_isUntyped {c : Column} (h : ¬c.IsUntyped) :
    ∃ d, c.chooseDecoder = (d, false) ∧ d ≠ .object := by
  rw [chooseDecoder]
  cases hhost : c.recognisedHostType? with
  | some host => exact ⟨host.decoder, rfl, by cases host <;> simp [HostType.decoder]⟩
  | none =>
    dsimp only
    rw [decoderOfText_sqlType]
    cases htype : c.type.decoder? with
    | none => exact absurd ⟨hhost, htype⟩ h
    | some d =>
      refine ⟨d, rfl, ?_⟩
      rintro rfl
      revert htype
      cases c.type <;> simp [ColumnType.decoder?]

/-- The step of a column is flagged exactly when the column is untyped. -/
lemma isUntyped_decodeStep {c : Column} {position : Nat} :
    (c.decodeStep position).isUntyped = true ↔ c.IsUntyped := by
  rw [decodeStep]
  by_cases h : c.IsUntyped
  · simp [chooseDecoder_of_isUntyped h, h]
  · obtain ⟨d, hd, -⟩ := chooseDecoder_of_not_isUntyped h
    simp [hd, h]

/-- The step of a column changes nothing exactly when the column is untyped. -/
lemma decoder_decodeStep_eq_object {c : Column} {position : Nat} :
    (c.decodeStep position).decoder = .object ↔ c.IsUntyped := by
  rw [decoder_decodeStep]
  by_cases h : c.IsUntyped
  · simp [chooseDecoder_of_isUntyped h, h]
  · obtain ⟨d, hd, hne⟩ := chooseDecoder_of_not_isUntyped h
    simp [hd, hne, h]

/-- A column with a size that can be written passes the check of its decoder unless it is untyped and
refused for that. -/
lemma checkDecoder_result {c : Column} (entity : String) (rejectsUntyped : Bool)
    (hwritable : c.isWritable = true) :
    (c.checkDecoder entity rejectsUntyped).result =
      if rejectsUntyped = true ∧ c.IsUntyped then
        .error (.mapping ⟨if entity = "" then none else some entity, .untypedDecode c.name c.sqlType⟩)
      else .ok () := by
  rw [checkDecoder, hwritable]
  by_cases h : c.IsUntyped
  · cases rejectsUntyped <;> simp [chooseDecoder_of_isUntyped h, h, Logged.write]
  · obtain ⟨d, hd, -⟩ := chooseDecoder_of_not_isUntyped h
    simp [hd, h]

end Column

/-! ## Plans -/

/-- The failure of an untyped column that is refused; the entity may be the empty text when there is
none. -/
def Column.untypedFailure (c : Column) (entity : String) : Failure :=
  .mapping ⟨if entity = "" then none else some entity, .untypedDecode c.name c.sqlType⟩

/-- The plan of columns with sizes that can be written has one step for each, unless the first
untyped one is refused. -/
lemma planDecode_result (entity : String) (rejectsUntyped : Bool) (position : Nat)
    {columns : List Column} (hwritable : ∀ c ∈ columns, c.isWritable = true) :
    (planDecode entity rejectsUntyped position columns).result =
      match columns.find? fun c => rejectsUntyped && decide c.IsUntyped with
      | some c => .error (c.untypedFailure entity)
      | none => .ok (decodeSteps position columns) := by
  induction columns generalizing position with
  | nil => rfl
  | cons c rest ih =>
    have hcheck := Column.checkDecoder_result entity rejectsUntyped
      (hwritable c List.mem_cons_self)
    rw [planDecode, Run.result_bind, hcheck]
    by_cases hrefused : rejectsUntyped = true ∧ c.IsUntyped
    · rw [if_pos hrefused, List.find?_cons_of_pos (by simpa using hrefused)]
      rfl
    · rw [if_neg hrefused, List.find?_cons_of_neg (by simpa using hrefused)]
      show ((planDecode entity rejectsUntyped (position + 1) rest) >>= fun others => _ :
        Step _).result = _
      rw [Run.result_bind, ih (position + 1) fun d hd => hwritable d (List.mem_cons_of_mem _ hd)]
      cases rest.find? fun c => rejectsUntyped && decide c.IsUntyped <;> rfl

/-! ## Reports -/

namespace Schema

/-- The untyped columns of a schema, in their order. -/
def untypedColumns (s : Schema) : List Column :=
  s.columns.filter fun c => decide c.IsUntyped

/-- An issue warns that a column of a schema is untyped. -/
structure WarnsOf (s : Schema) (issue : Issue) (c : Column) : Prop where
  /-- It is a warning. -/
  level : issue.level = .warning
  /-- It has the code of untyped columns. -/
  code : issue.code = "OPAQUE_DECODE"
  /-- It names the entity and the field. -/
  context : issue.context = [("entity", .text s.entity), ("field", .text c.name)]

/-- The issues of columns that are not decoded warn of the untyped ones, in their order. -/
lemma warnsOf_decodeIssues (s : Schema) (columns : List Column) :
    List.Forall₂ s.WarnsOf (columns.flatMap s.decodeIssues)
      (columns.filter fun c => decide c.IsUntyped) := by
  induction columns with
  | nil => exact .nil
  | cons c rest ih =>
    rw [List.flatMap_cons, decodeIssues]
    by_cases h : c.IsUntyped
    · rw [Column.chooseDecoder_of_isUntyped h, List.filter_cons_of_pos (by simpa using h)]
      exact .cons ⟨rfl, rfl, rfl⟩ ih
    · obtain ⟨d, hd, -⟩ := Column.chooseDecoder_of_not_isUntyped h
      rw [hd, List.filter_cons_of_neg (by simpa using h)]
      exact ih

end Schema

/-- A step of a plan says rightly whether its column is untyped. -/
structure Column.FlaggedBy (c : Column) (step : DecodeStep) : Prop where
  /-- It is the step of the column. -/
  column : step.column = c.name
  /-- It is flagged when the column is untyped. -/
  flagged : step.isUntyped = true ↔ c.IsUntyped
  /-- It changes nothing when the column is untyped. -/
  unchanged : step.decoder = .object ↔ c.IsUntyped

/-- The reports on a schema tell its untyped columns from the others. -/
structure FlagsUntyped (s : Schema) : Prop where
  /-- There is a decode plan, each step of which is flagged when its column is untyped. -/
  planned : ∃ plan, (planDecode s.entity false 0 s.columns).result = .ok plan ∧
    List.Forall₂ Column.FlaggedBy s.columns plan
  /-- In the validation of any batch with the schema, the issues of its columns that are not decoded
  warn of its untyped columns. -/
  warned : ∃ issues, List.Forall₂ s.WarnsOf issues s.untypedColumns ∧ ∀ before after,
    Validation.ofDecoders (before ++ s :: after) =
      Validation.ofDecoders before ++ issues ++ Validation.ofDecoders after

/-- The steps of columns say rightly which of them are untyped. -/
lemma flaggedBy_decodeSteps (position : Nat) (columns : List Column) :
    List.Forall₂ Column.FlaggedBy columns (decodeSteps position columns) := by
  induction columns generalizing position with
  | nil => exact .nil
  | cons c rest ih =>
    exact .cons ⟨c.column_decodeStep position, Column.isUntyped_decodeStep,
      Column.decoder_decodeStep_eq_object⟩ (ih (position + 1))

/-- A schema with sizes that can be written has its untyped columns reported. -/
lemma flagsUntyped_of_isWritable {s : Schema} (hwritable : ∀ c ∈ s.columns, c.isWritable = true) :
    FlagsUntyped s := by
  constructor
  · refine ⟨decodeSteps 0 s.columns, ?_, flaggedBy_decodeSteps 0 s.columns⟩
    rw [planDecode_result s.entity false 0 hwritable]
    simp only [Bool.false_and, List.find?_eq_none.mpr fun _ _ => Bool.false_ne_true]
  · refine ⟨s.columns.flatMap s.decodeIssues, s.warnsOf_decodeIssues s.columns, ?_⟩
    intro before after
    simp [Validation.ofDecoders]

/-! ## Generation -/

/-- Generation that is asked to refuse untyped columns refuses the first one, and without any it comes
to the same artifacts as otherwise. -/
structure RefusesUntyped (s : Schema) (queries : List Query) (settings : Settings) : Prop where
  /-- The first untyped column is the reason of the failure. -/
  refused : ∀ c rest, s.untypedColumns = c :: rest →
    (s.generate queries { settings with rejectsUntyped := true }).result =
      .error (.mapping ⟨some s.entity, .untypedDecode c.name c.sqlType⟩)
  /-- Typed columns are not refused. -/
  kept : s.untypedColumns = [] → ∃ a,
    (s.generate queries { settings with rejectsUntyped := true }).result = .ok a ∧
      (s.generate queries { settings with rejectsUntyped := false }).result = .ok a

/-- With statements for the queries and a text that creates the table, generation comes to what the
plan comes to. -/
lemma Schema.generate_of_texts {s : Schema} {queries : List Query}
    {statements : List (String × Statement)} {createTable : String} (settings : Settings)
    (hqueries : (queryStatements s.entity [] queries).result = .ok statements)
    (hcreate : s.createTable = .ok createTable) :
    (s.generate queries settings).result =
      (planDecode s.entity settings.rejectsUntyped 0 s.columns).result.map
        (s.artifacts statements createTable) := by
  rw [generate_result, hqueries, hcreate]
  cases (planDecode s.entity settings.rejectsUntyped 0 s.columns).result <;> rfl

/-- Without defaults that are too long, generation refuses untyped columns. -/
lemma refusesUntyped_of_createTable {s : Schema} {queries : List Query} (settings : Settings)
    {createTable : String} (hentity : s.entity ≠ "")
    (hwritable : ∀ c ∈ s.columns, c.isWritable = true)
    (haccepted : AcceptedInTurn (fun q : Query => q.fault? = none) Query.accessor [] queries)
    (hcreate : s.createTable = .ok createTable) : RefusesUntyped s queries settings := by
  obtain ⟨statements, hqueries⟩ :
      ∃ statements, (queryStatements s.entity [] queries).result = .ok statements :=
    queryStatements_ok_iff.mpr haccepted
  have hgenerate := fun chosen => s.generate_of_texts chosen hqueries hcreate
  have hfirst : s.untypedColumns.head? = s.columns.find? fun c => decide c.IsUntyped :=
    List.head?_filter
  constructor
  · intro c rest hrest
    rw [hrest, List.head?_cons] at hfirst
    rw [hgenerate, planDecode_result s.entity true 0 hwritable]
    simp only [Bool.true_and, ← hfirst, Column.untypedFailure, if_neg hentity]
    rfl
  · intro hnone
    rw [hnone, List.head?_nil] at hfirst
    refine ⟨s.artifacts statements createTable (decodeSteps 0 s.columns), ?_, ?_⟩
    · rw [hgenerate, planDecode_result s.entity true 0 hwritable]
      simp only [Bool.true_and, ← hfirst]
      rfl
    · rw [hgenerate, planDecode_result s.entity false 0 hwritable]
      simp only [Bool.false_and, List.find?_eq_none.mpr fun _ _ => Bool.false_ne_true]
      rfl

/-- **Untyped columns.** Take a resolved schema and queries that are accepted. The decode plan and
the validation report its untyped columns and no others. Generation that is asked to do so refuses
the first of them, and without any gives what it gives otherwise, exactly when no default of the
schema is an integer with too many digits to be written. -/
theorem refusesUntyped_iff {entity : String} {table : Option String} {fields : List FieldInput}
    {chosen : Settings} {s : Schema}
    (hresolve : (Schema.resolve entity table fields chosen).result = .ok s) {queries : List Query}
    (haccepted : AcceptedInTurn (fun q : Query => q.fault? = none) Query.accessor [] queries)
    (settings : Settings) :
    FlagsUntyped s ∧
      (RefusesUntyped s queries settings ↔ ∀ c ∈ s.columns, ¬c.default.IsOverlong) := by
  have hwritable := Schema.isWritable_of_resolve hresolve
  obtain ⟨hblank, -, -, -, rfl, -⟩ := Schema.resolve_eq_ok.mp hresolve
  have hentity : s.entity ≠ "" := by
    intro hempty
    rw [hempty] at hblank
    exact absurd hblank (by decide)
  refine ⟨flagsUntyped_of_isWritable hwritable, ?_, ?_⟩
  · intro h c hc hoverlong
    have hlost (given : Settings) : (s.generate queries given).result = .error .overlong :=
      (Schema.generate_eq_escape hwritable).mpr ⟨rfl, haccepted, c, hc, hoverlong⟩
    cases huntyped : s.untypedColumns with
    | nil =>
      obtain ⟨a, ha, -⟩ := h.kept huntyped
      exact absurd ((hlost _).symm.trans ha) (by simp)
    | cons first rest =>
      exact absurd ((hlost _).symm.trans (h.refused first rest huntyped)) (by simp)
  · intro h
    cases htext : s.createTable with
    | error e =>
      obtain ⟨c, hc, hoverlong⟩ := Schema.createTable_eq_overlong.mp
        (htext.trans (congrArg Except.error (Subsingleton.elim e .overlong)))
      exact absurd hoverlong (h c hc)
    | ok createTable =>
      exact refusesUntyped_of_createTable settings hentity hwritable haccepted htext

/-- Fields that are typed by their column type, by nothing, by their host type and by nothing. -/
def documentFields : List FieldInput :=
  [.declared { name := "id", hostType := "uuid", columnType := some .bigInt, isKey := true },
   .declared { name := "payload", hostType := "bytes", columnType := some .varBinary,
               size := some 16 },
   .declared { name := "shown", hostType := " Bool ", columnType := some .bit },
   .declared { name := "seen", hostType := "", columnType := some .date }]

/-- The schema of these fields. -/
def document : Schema :=
  { entity := "Document"
    table := "document"
    columns :=
      [{ name := "id", hostType := "uuid", type := .bigInt, isKey := true },
       { name := "payload", hostType := "bytes", type := .varBinary, size := some 16 },
       { name := "shown", hostType := " Bool ", type := .bit, size := some 1 },
       { name := "seen", hostType := "", type := .date }]
    hasKey := rfl }

/-- Untyped columns among typed ones are reported, and the first one is refused. -/
theorem refusesUntyped_document :
    (Schema.resolve "Document" none documentFields {}).result = .ok document ∧
      AcceptedInTurn (fun q : Query => q.fault? = none) Query.accessor []
        [{ name := "recent", sql := "SELECT id FROM document" }] ∧
      document.untypedColumns.map Column.name = ["payload", "seen"] ∧ FlagsUntyped document ∧
        RefusesUntyped document [{ name := "recent", sql := "SELECT id FROM document" }] {} := by
  have hresolve : (Schema.resolve "Document" none documentFields {}).result = .ok document := rfl
  have haccepted : AcceptedInTurn (fun q : Query => q.fault? = none) Query.accessor []
      [{ name := "recent", sql := "SELECT id FROM document" }] := by
    have hfault : ({ name := "recent", sql := "SELECT id FROM document" } : Query).fault? = none := by
      decide
    exact ⟨by simpa using hfault, List.nodup_singleton _, by simp⟩
  have hreports := refusesUntyped_iff hresolve haccepted {}
  exact ⟨hresolve, haccepted, by decide, hreports.1,
    hreports.2.mpr (by simp [document, DefaultValue.IsOverlong])⟩

/-- A schema whose only column is untyped and has an integer default. -/
def numbered (n : Nat) : Schema :=
  { entity := "Doc"
    table := "doc"
    columns := [{ name := "payload", type := .blob, isKey := true,
                  default := .integer .int (Int.ofNat n) }]
    hasKey := rfl }

/-- The fields that resolve to this schema. -/
def numberedFields (n : Nat) : List FieldInput :=
  [.declared { name := "payload", columnType := some .blob, isKey := true,
               default := some (.integer .int (Int.ofNat n)) }]

lemma numbered_eq_overlong {n : Nat} (h : digitCeiling ≤ n) :
    ((numbered n).generate [] { rejectsUntyped := true }).result = .error .overlong :=
  (Schema.generate_eq_escape (by simp [numbered, Column.isWritable])).mpr
    ⟨rfl, by simp [AcceptedInTurn], _, List.mem_singleton_self _, h⟩

lemma untypedColumns_numbered (n : Nat) : (numbered n).untypedColumns = (numbered n).columns := by
  have huntyped : ∀ c ∈ (numbered n).columns, c.IsUntyped := by
    intro c hc
    obtain rfl := List.mem_singleton.mp hc
    exact ⟨(by decide : HostType.parse? "object" = none), rfl⟩
  simpa [Schema.untypedColumns] using huntyped

lemma not_refusesUntyped_of_le {n : Nat} (h : digitCeiling ≤ n) :
    ¬RefusesUntyped (numbered n) [] {} := fun hrefuses =>
  absurd ((numbered_eq_overlong h).symm.trans
    (hrefuses.refused _ [] (untypedColumns_numbered n))) (by simp)

lemma resolve_numberedFields (n : Nat) :
    (Schema.resolve "Doc" none (numberedFields n) {}).result = .ok (numbered n) :=
  rfl

/-- A default with more than 4300 digits breaks generation off before the untyped column is
refused. -/
theorem not_refusesUntyped_numbered :
    (Schema.resolve "Doc" none (numberedFields (Nat.pow 16 3600)) {}).result =
        .ok (numbered (Nat.pow 16 3600)) ∧
      (numbered (Nat.pow 16 3600)).untypedColumns = (numbered (Nat.pow 16 3600)).columns ∧
      ((numbered (Nat.pow 16 3600)).generate [] { rejectsUntyped := true }).result =
        .error .overlong ∧
      ¬RefusesUntyped (numbered (Nat.pow 16 3600)) [] {} := by
  have hceiling : digitCeiling ≤ Nat.pow 16 3600 := by decide +kernel
  exact ⟨resolve_numberedFields _, untypedColumns_numbered _, numbered_eq_overlong hceiling,
    not_refusesUntyped_of_le hceiling⟩

end SqlMapping
