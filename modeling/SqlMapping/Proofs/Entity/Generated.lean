import SqlMapping.Entity.Artifacts
import SqlMapping.Proofs.Entity.Resolved

/-!
# What generation establishes

The result of generation without its log entries. The statements of the queries come first, then the
text that creates the table, then the decode plan; the plan has one step for each column, at the
position of that column. The parts of a built entity go by the same names.
-/

namespace SqlMapping

open SqlMapping.Number

/-! ## Decode plans -/

/-- The decode steps of columns, the first one at the given position. -/
def decodeSteps (position : Nat) (columns : List Column) : List DecodeStep :=
  (columns.zipIdx position).map fun (c, place) => c.decodeStep place

/-- The column of the step of a column. -/
@[simp] lemma Column.column_decodeStep (c : Column) (position : Nat) :
    (c.decodeStep position).column = c.name := by
  rw [Column.decodeStep]

/-- The decoder of the step of a column. -/
@[simp] lemma Column.decoder_decodeStep (c : Column) (position : Nat) :
    (c.decodeStep position).decoder = c.chooseDecoder.1 := by
  rw [Column.decodeStep]

/-- The position of the step of a column. -/
@[simp] lemma Column.position_decodeStep (c : Column) (position : Nat) :
    (c.decodeStep position).position = position := by
  rw [Column.decodeStep]

/-- The columns of a plan are the planned columns, in their order. -/
lemma map_column_decodeSteps (position : Nat) (columns : List Column) :
    (decodeSteps position columns).map DecodeStep.column = columns.map Column.name := by
  have hcolumn : (DecodeStep.column ∘ fun (c, place) => c.decodeStep place) =
      Column.name ∘ (Prod.fst : Column × Nat → Column) := by
    funext ⟨c, place⟩
    exact Column.column_decodeStep c place
  rw [decodeSteps, List.map_map, hcolumn, ← List.map_map, List.zipIdx_map_fst]

/-- Every column has a step in the plan. -/
lemma exists_decodeStep {columns : List Column} {c : Column} (hc : c ∈ columns) :
    ∃ position, c.decodeStep position ∈ decodeSteps 0 columns := by
  obtain ⟨position, hposition⟩ := List.mem_iff_getElem?.mp hc
  exact ⟨position, List.mem_map.mpr
    ⟨(c, position), List.mem_zipIdx_iff_getElem?.mpr hposition, rfl⟩⟩

/-- A plan has one step for each column. -/
lemma eq_decodeSteps_of_planDecode {entity : String} {rejectsUntyped : Bool} {position : Nat}
    {columns : List Column} {plan : List DecodeStep}
    (h : (planDecode entity rejectsUntyped position columns).result = .ok plan) :
    plan = decodeSteps position columns := by
  induction columns generalizing position plan with
  | nil => exact (Except.ok.inj h).symm
  | cons c rest ih =>
    rw [planDecode, Run.result_bind] at h
    obtain ⟨-, -, h⟩ := bind_eq_ok.mp h
    rw [Run.result_bind] at h
    obtain ⟨others, hothers, h⟩ := bind_eq_ok.mp h
    rw [← Except.ok.inj h, ih hothers]
    rfl

/-- Columns with sizes that can be written are planned, or refused as untyped. -/
lemma planDecode_ne_escape {entity : String} {rejectsUntyped : Bool} {position : Nat}
    {columns : List Column} (hcolumns : ∀ c ∈ columns, c.isWritable = true) (reason : Escape) :
    (planDecode entity rejectsUntyped position columns).result ≠ .error (.escape reason) := by
  induction columns generalizing position with
  | nil => exact fun h => absurd h (by simp [planDecode])
  | cons c rest ih =>
    have hc : c.isWritable = true := hcolumns c List.mem_cons_self
    have hcheck : (c.checkDecoder entity rejectsUntyped).result ≠ .error (.escape reason) := by
      rw [Column.checkDecoder, hc]
      cases c.chooseDecoder.2 <;> cases rejectsUntyped <;> simp [Logged.write]
    rw [planDecode, Run.result_bind]
    intro h
    rcases bind_eq_error.mp h with h | ⟨-, -, h⟩
    · exact hcheck h
    · rw [Run.result_bind] at h
      rcases bind_eq_error.mp h with h | ⟨others, -, h⟩
      · exact ih (fun d hd => hcolumns d (List.mem_cons_of_mem _ hd)) h
      · exact absurd h (by simp)

/-! ## Artifacts -/

/-- Log entries fail no step. -/
lemma result_forM_entries (entries : List LogEntry) :
    (entries.forM fun entry => (⟨.ok (), [entry]⟩ : Step Unit)).result = .ok () := by
  induction entries with
  | nil => rfl
  | cons entry entries ih =>
    show ((⟨.ok (), [entry]⟩ : Step Unit) >>= fun _ => entries.forM _).result = _
    rw [Run.result_bind]
    exact ih

/-- The artifacts of a schema with the parts that are generated. -/
def Schema.artifacts (s : Schema) (queries : List (String × Statement)) (createTable : String)
    (plan : List DecodeStep) : Artifacts :=
  { entity := s.entity
    table := s.table
    key := s.primaryKey.name
    createTable
    statement := s.statement
    queries
    decodePlan := plan }

/-- The result of generation, from the queries to the decode plan. -/
lemma Schema.generate_result (s : Schema) (queries : List Query) (settings : Settings) :
    (s.generate queries settings).result =
      ((queryStatements s.entity [] queries).result >>= fun statements =>
        (Step.ofWritten s.createTable).result >>= fun createTable =>
          (planDecode s.entity settings.rejectsUntyped 0 s.columns).result >>= fun plan =>
            .ok (s.artifacts statements createTable plan)) := by
  rw [Schema.generate, Run.result_bind]
  congr 1
  funext statements
  rw [Run.result_bind]
  congr 1
  funext createTable
  rw [Run.result_bind, result_forM_entries]
  exact Run.result_bind _ _

/-- What is generated for a schema are its artifacts with the parts that are generated in turn. -/
lemma Schema.generate_eq_ok {s : Schema} {queries : List Query} {settings : Settings}
    {a : Artifacts} :
    (s.generate queries settings).result = .ok a ↔
      ∃ statements createTable plan,
        (queryStatements s.entity [] queries).result = .ok statements ∧
        (Step.ofWritten s.createTable).result = .ok createTable ∧
        (planDecode s.entity settings.rejectsUntyped 0 s.columns).result = .ok plan ∧
        s.artifacts statements createTable plan = a := by
  rw [generate_result]
  simp only [bind_eq_ok, Except.ok.injEq]
  constructor
  · rintro ⟨statements, hstatements, createTable, hcreate, plan, hplan, ha⟩
    exact ⟨statements, createTable, plan, hstatements, hcreate, hplan, ha⟩
  · rintro ⟨statements, createTable, plan, hstatements, hcreate, hplan, ha⟩
    exact ⟨statements, hstatements, createTable, hcreate, plan, hplan, ha⟩

/-- What is generated for a schema: the statements of its operations, the text that creates its
table, and one decode step for each column. -/
theorem Schema.generate_spec {s : Schema} {queries : List Query} {settings : Settings}
    {a : Artifacts} (h : (s.generate queries settings).result = .ok a) :
    a.key = s.primaryKey.name ∧ a.statement = s.statement ∧
      s.createTable = .ok a.createTable ∧ a.decodePlan = decodeSteps 0 s.columns := by
  obtain ⟨statements, createTable, plan, -, hcreate, hplan, rfl⟩ := generate_eq_ok.mp h
  refine ⟨rfl, rfl, ?_, eq_decodeSteps_of_planDecode hplan⟩
  cases htext : s.createTable with
  | ok text =>
    rw [htext] at hcreate
    exact congrArg Except.ok (Except.ok.inj hcreate)
  | error e =>
    rw [htext] at hcreate
    exact absurd hcreate (by simp [Step.ofWritten])

/-- What is generated for a schema goes by the names of its entity and its table. -/
lemma Schema.generate_names {s : Schema} {queries : List Query} {settings : Settings}
    {a : Artifacts} (h : (s.generate queries settings).result = .ok a) :
    a.entity = s.entity ∧ a.table = s.table := by
  obtain ⟨statements, createTable, plan, -, -, -, rfl⟩ := generate_eq_ok.mp h
  exact ⟨rfl, rfl⟩

/-- A declared entity is built exactly when it is resolved and its artifacts are generated. -/
lemma EntityDeclaration.build_eq_ok {d : EntityDeclaration} {settings : Settings}
    {entity : BuiltEntity} :
    (d.build settings).result = .ok entity ↔
      (d.resolve settings).result = .ok entity.schema ∧
        (entity.schema.generate d.queries settings).result = .ok entity.artifacts := by
  rw [EntityDeclaration.build, Run.result_bind, bind_eq_ok]
  constructor
  · rintro ⟨s, hs, h⟩
    rw [Run.result_bind] at h
    obtain ⟨a, ha, h⟩ := bind_eq_ok.mp h
    obtain rfl := Except.ok.inj h
    exact ⟨hs, ha⟩
  · rintro ⟨hs, ha⟩
    refine ⟨entity.schema, hs, ?_⟩
    rw [Run.result_bind]
    exact bind_eq_ok.mpr ⟨entity.artifacts, ha, rfl⟩

/-- The parts of a built entity agree: the artifacts go by the names of the schema, which are those
that are declared, and their decode plan has the columns of the schema. -/
theorem EntityDeclaration.build_spec {d : EntityDeclaration} {settings : Settings}
    {entity : BuiltEntity} (h : (d.build settings).result = .ok entity) :
    entity.schema.entity = d.name ∧ entity.artifacts.entity = entity.schema.entity ∧
      entity.artifacts.table = entity.schema.table ∧
      entity.artifacts.decodePlan.map DecodeStep.column = entity.schema.columnNames := by
  obtain ⟨hresolve, hgenerate⟩ := EntityDeclaration.build_eq_ok.mp h
  obtain ⟨-, -, -, -, hname, -⟩ := Schema.resolve_eq_ok.mp hresolve
  obtain ⟨hentity, htable⟩ := Schema.generate_names hgenerate
  obtain ⟨-, -, -, hplan⟩ := Schema.generate_spec hgenerate
  refine ⟨hname, hentity, htable, ?_⟩
  rw [hplan, map_column_decodeSteps, Schema.columnNames]

end SqlMapping
