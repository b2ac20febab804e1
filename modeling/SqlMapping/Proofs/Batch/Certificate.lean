import SqlMapping.Proofs.Batch.Contribution
import SqlMapping.Proofs.Validation.Coherence

/-!
# What a successful batch certifies

A batch is successful exactly when each of its declarations builds an entity, the entities have
distinct names, and their schemas fit together. Its report then holds one entity for each
declaration, in the order of the declarations (`Certifies`).
-/

namespace SqlMapping.Batch

variable {settings : Settings} {declarations : List DeclarationInput} {report : BatchReport}

/-- Entities certify a batch: they are what its declarations build, in their order, under distinct
names, and their schemas fit together. -/
structure Certifies (settings : Settings) (declarations : List DeclarationInput)
    (entities : List BuiltEntity) : Prop where
  /-- There is one entity for each declaration. -/
  length : entities.length = declarations.length
  /-- Each declaration builds the entity at its place. -/
  builds : ∀ index entity, entities[index]? = some entity →
    Builds settings declarations index entity
  /-- The entities have distinct names. -/
  names : (entities.map fun entity => entity.schema.entity).Nodup
  /-- The schemas fit together. -/
  coherent : Coherent (entities.map BuiltEntity.schema)

/-- A report is successful when it has no failures and its schemas fit together. -/
lemma isSuccess_iff : report.isSuccess = true ↔ report.failures = [] ∧ Coherent report.schemas := by
  rw [BatchReport.isSuccess, Bool.and_eq_true, List.isEmpty_iff, BatchReport.validation,
    Validation.isValid_ofBatch_iff]

/-- Without failures, every contribution is an entity. -/
lemma eq_map_built_of_failures_eq_nil {contributions : List Outcome}
    (h : contributions.filterMap Outcome.failure? = []) :
    contributions = (contributions.filterMap Outcome.entity?).map .built := by
  induction contributions with
  | nil => rfl
  | cons outcome rest ih =>
    cases outcome with
    | failed failure =>
      rw [List.filterMap_cons] at h
      exact absurd h (by simp [Outcome.failure?])
    | built entity =>
      have hrest : rest.filterMap Outcome.failure? = [] := by simpa [Outcome.failure?] using h
      simpa [Outcome.entity?] using ih hrest

/-- The entities of a report without failures are what the declarations build. -/
lemma Collects.certifies {contributions : List Outcome}
    (h : Collects settings declarations contributions report)
    (hlength : contributions.length = (attempted settings declarations).length)
    (hfailures : report.failures = []) (hcoherent : Coherent report.schemas) :
    Certifies settings declarations report.built := by
  rw [h.failures] at hfailures
  have hbuilt := eq_map_built_of_failures_eq_nil hfailures
  rw [← h.built] at hbuilt
  have hsame : report.built.length = contributions.length := by rw [hbuilt, List.length_map]
  have hbuilds : ∀ index entity, report.built[index]? = some entity →
      Builds settings declarations index entity := by
    intro index entity hindex
    have hplace : contributions[index]? = some (.built entity) := by
      rw [hbuilt, List.getElem?_map, hindex]
      rfl
    exact (contributes_built_iff.mp (h.contributes index _ hplace)).1
  have hall : attempted settings declarations = declarations.zipIdx := by
    refine attempted_eq_zipIdx fun index hlt => Or.inr (Or.inr ?_)
    rw [← hlength, ← hsame] at hlt
    exact ⟨report.built[index], hbuilds index _ (List.getElem?_eq_getElem hlt)⟩
  refine ⟨?_, hbuilds, h.nodup_names, hcoherent⟩
  rw [hsame, hlength, hall, List.length_zipIdx]

/-- The report on a batch holds the entities that certify it, and no failure. -/
lemma Collects.eq_of_certifies {contributions : List Outcome}
    (h : Collects settings declarations contributions report)
    (hlength : contributions.length = (attempted settings declarations).length)
    {entities : List BuiltEntity} (hcertifies : Certifies settings declarations entities) :
    contributions = entities.map .built := by
  have hbuilds : ∀ index (hlt : index < entities.length),
      Builds settings declarations index entities[index] := fun index hlt =>
    hcertifies.builds index _ (List.getElem?_eq_getElem hlt)
  have hnew : ∀ index (hlt : index < entities.length),
      ¬IsTaken settings declarations index entities[index].schema.entity := by
    rintro index hlt ⟨earlier, hearlier, other, hother, hname⟩
    have hlt' : earlier < entities.length := Nat.lt_trans hearlier hlt
    rw [hother.unique (hbuilds earlier hlt')] at hname
    have hdiffer := List.pairwise_iff_getElem.mp hcertifies.names earlier index
      (by simpa using hlt') (by simpa using hlt) hearlier
    exact hdiffer (by simpa using hname)
  have hall : attempted settings declarations = declarations.zipIdx := by
    refine attempted_eq_zipIdx fun index hlt => Or.inr (Or.inr ?_)
    have hle := (attempted_isPrefix settings declarations).length_le
    rw [List.length_zipIdx, ← hcertifies.length] at hle
    exact ⟨_, hbuilds index (Nat.lt_of_lt_of_le hlt hle)⟩
  have hsame : contributions.length = entities.length := by
    rw [hlength, hall, List.length_zipIdx, hcertifies.length]
  refine List.ext_getElem (by rw [hsame, List.length_map]) fun index hlt hlt' => ?_
  rw [List.length_map] at hlt'
  rw [List.getElem_map]
  exact (h.contributes index _ (List.getElem?_eq_getElem hlt)).unique
    (.built (hbuilds index hlt') (hnew index hlt'))

/-- **Success is a certificate.** A batch is successful exactly when there are entities that certify
it, and these are the entities of its report then. -/
theorem generate_isSuccess_iff (h : (generate settings declarations).result = .ok report) :
    (report.isSuccess = true ↔ ∃ entities, Certifies settings declarations entities) ∧
      (report.isSuccess = true → Certifies settings declarations report.built) := by
  obtain ⟨contributions, hlength, hcollects⟩ := collects_of_generate h
  have hcertifies : report.isSuccess = true → Certifies settings declarations report.built := by
    intro hsuccess
    obtain ⟨hfailures, hcoherent⟩ := isSuccess_iff.mp hsuccess
    exact hcollects.certifies hlength hfailures hcoherent
  refine ⟨⟨fun hsuccess => ⟨report.built, hcertifies hsuccess⟩, ?_⟩, hcertifies⟩
  rintro ⟨entities, hentities⟩
  have hcontributions := hcollects.eq_of_certifies hlength hentities
  have hbuilt : report.built = entities := by
    rw [hcollects.built, hcontributions, List.filterMap_map]
    exact List.filterMap_some
  have hfailures : report.failures = [] := by
    rw [hcollects.failures, hcontributions, List.filterMap_map]
    exact List.filterMap_eq_nil_iff.mpr fun entity _ => rfl
  refine isSuccess_iff.mpr ⟨hfailures, ?_⟩
  rw [BatchReport.schemas, hbuilt]
  exact hentities.coherent

/-- Declarations of two tables, one of which refers to the other. -/
def referring : List DeclarationInput :=
  [.declared { name := "Post", table := "posts", fields :=
    [{ name := "id", columnType := some .int, isKey := true },
     { name := "author", columnType := some .int,
       reference := some { table := "users", column := "id" } }] },
   .declared { name := "User", table := "users", fields :=
    [{ name := "id", columnType := some .int, isKey := true }] }]

/-- A successful batch with a reference between its tables. -/
theorem certifies_referring :
    ∃ report, (generate {} referring).result = .ok report ∧ report.isSuccess = true ∧
      Certifies {} referring report.built := by
  obtain ⟨report, hreport⟩ := isOk_iff.mp
    (by decide +kernel : (generate {} referring).result.isOk = true)
  have hsuccess : report.isSuccess = true := by
    have hverdict : (generate {} referring).result.toOption.map BatchReport.isSuccess =
        some true := by decide +kernel
    rw [hreport] at hverdict
    exact Option.some.inj hverdict
  exact ⟨report, hreport, hsuccess, (generate_isSuccess_iff hreport).2 hsuccess⟩

end SqlMapping.Batch
