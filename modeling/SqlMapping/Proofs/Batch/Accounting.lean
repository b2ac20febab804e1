import SqlMapping.Proofs.Batch.Contribution
import SqlMapping.Proofs.Entity.Generated

/-!
# Every declaration is accounted for once

A batch that attempts all of its declarations reports as many units and failures as it has
declarations, each of which contributes one of them. The units stand under distinct names, in the
order in which these are first built (`AccountsOnce`). How many workers share a batch changes nothing
in the report of a run that goes on after failures.
-/

namespace SqlMapping

/-- An entity that is built goes by the name that its declaration gives. -/
lemma DeclarationInput.build_eq_ok {d : DeclarationInput} {index : Nat} {settings : Settings}
    {entity : BuiltEntity} :
    (d.build index settings).result = .ok entity ↔
      ∃ declared, d.declaration index = .ok declared ∧
        (declared.build settings).result = .ok entity := by
  have hread : (Run.ofExcept (d.declaration index) : Step EntityDeclaration).result =
      d.declaration index := rfl
  rw [DeclarationInput.build, Run.result_bind, hread, bind_eq_ok]

namespace Batch

variable {settings : Settings} {declarations : List DeclarationInput} {report : BatchReport}

/-- The parts of an entity that is built agree with each other and with the declaration. -/
lemma Builds.spec {index : Nat} {entity : BuiltEntity}
    (h : Builds settings declarations index entity) :
    (∃ d declared, declarations[index]? = some d ∧ d.declaration index = .ok declared ∧
      entity.schema.entity = declared.name) ∧
      entity.artifacts.entity = entity.schema.entity ∧
      entity.artifacts.table = entity.schema.table ∧
      entity.artifacts.decodePlan.map DecodeStep.column = entity.schema.columnNames := by
  obtain ⟨d, hd, hbuild⟩ := h
  obtain ⟨declared, hdeclared, hbuild⟩ := DeclarationInput.build_eq_ok.mp hbuild
  obtain ⟨hname, hparts⟩ := EntityDeclaration.build_spec hbuild
  exact ⟨⟨d, declared, hd, hdeclared, hname⟩, hparts⟩

namespace Collects

variable {contributions : List Outcome}

/-- What one of the declarations contributes is in the report. -/
lemma mem_failures (h : Collects settings declarations contributions report) {index : Nat}
    (hlt : index < contributions.length) {failure : EntityFailure}
    (hcontributes : Contributes settings declarations index (.failed failure)) :
    failure ∈ report.failures := by
  have hplace := h.contributes index _ (List.getElem?_eq_getElem hlt)
  rw [h.failures, List.mem_filterMap]
  refine ⟨contributions[index], List.getElem_mem hlt, ?_⟩
  rw [hplace.unique hcontributes]
  rfl

end Collects

/-! ## The account -/

/-- A report accounts once for each declaration of its batch. -/
structure AccountsOnce (settings : Settings) (declarations : List DeclarationInput)
    (report : BatchReport) : Prop where
  /-- There are as many units and failures as declarations. -/
  total : report.artifacts.length + report.failures.length = declarations.length
  /-- Each declaration contributes one unit or one failure. -/
  once : ∀ index < declarations.length,
    ∃! outcome, Contributes settings declarations index outcome
  /-- The units and the failures are those that are contributed, in the order of the
  declarations. -/
  inOrder : ∃ contributions : List Outcome, contributions.length = declarations.length ∧
    Collects settings declarations contributions report
  /-- Units and schemas stand under the same names, which are distinct. -/
  keys : report.artifacts.map Artifacts.entity = report.schemas.map Schema.entity ∧
    (report.schemas.map Schema.entity).Nodup
  /-- The unit of a name, and its schema, are those of the first declaration that builds it. -/
  first : ∀ index entity, Contributes settings declarations index (.built entity) →
    (report.built.find? fun unit => unit.schema.entity == entity.schema.entity) = some entity
  /-- A later declaration that builds an entity of that name is an invalid element. -/
  repeated : ∀ index entity, Builds settings declarations index entity →
    IsTaken settings declarations index entity.schema.entity →
      ∃ failure ∈ report.failures, Contributes settings declarations index (.failed failure) ∧
        failure.entity = entity.schema.entity ∧ failure.code = .invalidElement
  /-- The name of a unit is the one that its declaration gives. -/
  named : ∀ index entity, Builds settings declarations index entity →
    ∃ d declared, declarations[index]? = some d ∧ d.declaration index = .ok declared ∧
      entity.schema.entity = declared.name
  /-- The name, the table and the decode plan of a unit are those of its schema. -/
  units : ∀ entity ∈ report.built, entity.artifacts.entity = entity.schema.entity ∧
    entity.artifacts.table = entity.schema.table ∧
    entity.artifacts.decodePlan.map DecodeStep.column = entity.schema.columnNames

/-- A report that holds what every declaration contributes accounts for each of them once. -/
lemma Collects.accountsOnce {contributions : List Outcome}
    (h : Collects settings declarations contributions report)
    (hlength : contributions.length = declarations.length) :
    AccountsOnce settings declarations report where
  total := by
    rw [BatchReport.artifacts, List.length_map, h.built, h.failures, ← hlength]
    exact Outcome.length_entities_add_length_failures contributions
  once := by
    intro index hlt
    rw [← hlength] at hlt
    exact ⟨contributions[index], h.contributes index _ (List.getElem?_eq_getElem hlt),
      fun other hother => hother.unique (h.contributes index _ (List.getElem?_eq_getElem hlt))⟩
  inOrder := ⟨contributions, hlength, h⟩
  keys := by
    refine ⟨?_, ?_⟩
    · rw [BatchReport.artifacts, BatchReport.schemas, List.map_map, List.map_map]
      refine List.map_congr_left fun entity hentity => ?_
      obtain ⟨index, -, hcontributes⟩ := h.mem_built_iff.mp hentity
      exact (contributes_built_iff.mp hcontributes).1.spec.2.1
    · rw [BatchReport.schemas, List.map_map]
      exact h.nodup_names
  first := by
    intro index entity hcontributes
    have hlt := (contributes_built_iff.mp hcontributes).1.lt_length
    rw [← hlength] at hlt
    exact (find_eq_some_of_nodup h.nodup_names).mpr
      ⟨h.mem_built_iff.mpr ⟨index, hlt, hcontributes⟩, rfl⟩
  repeated := by
    intro index entity hbuilds htaken
    have hlt := hbuilds.lt_length
    have hcontributes := Contributes.repeated hbuilds htaken
    exact ⟨_, h.mem_failures (hlength ▸ hlt) hcontributes, hcontributes, rfl, rfl⟩
  named := fun index entity hbuilds => hbuilds.spec.1
  units := by
    intro entity hentity
    obtain ⟨index, -, hcontributes⟩ := h.mem_built_iff.mp hentity
    exact (contributes_built_iff.mp hcontributes).1.spec.2

/-! ## Workers -/

/-- Recording outcomes does not depend on the settings of a report. -/
lemma foldl_record_settings (other : Settings) (outcomes : List Outcome) (r : BatchReport) :
    outcomes.foldl record { r with settings := other } =
      { outcomes.foldl record r with settings := other } := by
  induction outcomes generalizing r with
  | nil => rfl
  | cons outcome rest ih =>
    have hrecord : record { r with settings := other } outcome =
        { record r outcome with settings := other } := by
      cases outcome with
      | failed failure => rfl
      | built entity =>
        rw [record, record]
        split_ifs <;> rfl
    rw [List.foldl_cons, List.foldl_cons, hrecord, ih]

/-- A run that goes on after failures attempts every declaration, however many workers it has. -/
lemma attempted_of_continues (h : settings.continuesOnError = true) :
    attempted settings declarations = declarations.zipIdx :=
  attempted_eq_zipIdx fun _ _ => Or.inr (Or.inl h)

/-- The number of workers of a run that goes on after failures changes nothing in its report but the
settings. -/
lemma generate_workers (h : settings.continuesOnError = true) (workers : Nat) :
    (generate { settings with workers } declarations).result =
      (generate settings declarations).result.map fun report =>
        { report with settings := { settings with workers } } := by
  have houtcomes : outcomesOf { settings with workers } declarations.zipIdx =
      outcomesOf settings declarations.zipIdx := rfl
  have hattempted : attempted { settings with workers } declarations = declarations.zipIdx :=
    attempted_of_continues h
  rw [generate_result, generate_result, attempted_of_continues h, hattempted, houtcomes]
  cases outcomesOf settings declarations.zipIdx with
  | error e => rfl
  | ok outcomes =>
    exact congrArg Except.ok
      (foldl_record_settings { settings with workers } outcomes ⟨[], [], settings⟩)

/-- **Every declaration is accounted for once.** A run that goes on after failures, or that several
workers share, accounts once for each declaration; and the report of a run that goes on after
failures is the same for every number of workers. -/
theorem generate_accountsOnce
    (hattempts : settings.continuesOnError = true ∨
      1 < settings.workers ∧ 2 ≤ declarations.length)
    (h : (generate settings declarations).result = .ok report) :
    AccountsOnce settings declarations report ∧
      (settings.continuesOnError = true → ∀ workers,
        (generate { settings with workers } declarations).result =
          .ok { report with settings := { settings with workers } }) := by
  constructor
  · obtain ⟨contributions, hlength, hcollects⟩ := collects_of_generate h
    refine hcollects.accountsOnce (hlength.trans ?_)
    have hall : attempted settings declarations = declarations.zipIdx := by
      refine attempted_eq_zipIdx fun index _ => ?_
      rcases hattempts with hcontinues | ⟨hworkers, hseveral⟩
      · exact Or.inr (Or.inl hcontinues)
      · exact Or.inl (by simpa [isShared] using ⟨hworkers, hseveral⟩)
    rw [hall, List.length_zipIdx]
  · intro hcontinues workers
    rw [generate_workers hcontinues, h]
    rfl

/-- The account of a batch with a repeated name, shared by two workers, which goes on after
failures. -/
theorem accountsOnce_repeatedCard :
    ∃ report, (generate { workers := 2 } repeatedCard).result = .ok report ∧
      AccountsOnce { workers := 2 } repeatedCard report ∧
      ∀ workers, (generate { workers } repeatedCard).result =
        .ok { report with settings := { workers } } := by
  obtain ⟨report, hreport⟩ := isOk_iff.mp
    (by decide +kernel : (generate { workers := 2 } repeatedCard).result.isOk = true)
  obtain ⟨honce, hworkers⟩ := generate_accountsOnce (Or.inl rfl) hreport
  exact ⟨report, hreport, honce, hworkers rfl⟩

end Batch

end SqlMapping
