import SqlMapping.Proofs.Batch.Accounting
import SqlMapping.Proofs.Entity.Acceptance

/-!
# The declarations of a batch are independent

A declaration that states its name as a text comes to the same wherever it stands: its number shows
in the wording of a failure and nowhere else (`DeclarationInput.build_cases`). In a batch that goes
on after failures only one thing of the others matters to it, namely whether an earlier one has
built an entity of its name. Apart from that, two batches that both have the declaration agree on it
(`generate_agreeOn`), whatever else they hold and in whatever order.
-/

namespace SqlMapping

open SqlMapping.Shape

/-! ## Declarations at different places -/

/-- The name of a declaration that is read is the text under its key. -/
lemma EntityDeclaration.name_of_read {room : Nat} {entries : Entries} {e : EntityDeclaration}
    {name : String} (h : EntityDeclaration.read room (.mapping entries) = .valid e)
    (hname : Value.get? "name" entries = some (.text name)) : e.name = name := by
  rw [EntityDeclaration.read, readRecord_eq_valid] at h
  obtain ⟨hfields, -⟩ := h
  -- the name is the first of four fields
  simp only [Checked.seq_eq_valid, Checked.functor_map_eq_valid] at hfields
  obtain ⟨_, ⟨_, ⟨_, ⟨read, hrequired, rfl⟩, _, -, rfl⟩, _, -, rfl⟩, _, -, rfl⟩ := hfields
  rw [required, findField_singleton hname] at hrequired
  obtain ⟨text, htext, hread⟩ := Checked.andThen_eq_valid.mp (Checked.within_eq_valid.mp hrequired)
  obtain rfl := Checked.valid.inj htext
  rw [ifWhole] at hread
  split_ifs at hread
  · exact absurd hread (by simp [Checked.flaw])
  · exact (Checked.valid.inj hread).symm
  · exact absurd hread (by simp [Checked.flaw])

namespace DeclarationInput

/-- The name that a declaration states, if it states one as a text. -/
def statedName? : DeclarationInput → Option String
  | .declared d => some d.name
  | .raw _ (.mapping entries) =>
    match Value.get? "name" entries with
    | some (.text name) => some name
    | _ => none
  | .raw _ _ => none

variable {d : DeclarationInput} {name : String}

/-- Data that states a name is a mapping with that text under its key. -/
lemma exists_mapping_of_statedName {room : Nat} {v : Value}
    (h : (raw room v).statedName? = some name) :
    ∃ entries, v = .mapping entries ∧ Value.get? "name" entries = some (.text name) := by
  cases v with
  | mapping entries =>
    refine ⟨entries, rfl, ?_⟩
    rw [statedName?] at h
    split at h
    · next stated hstated =>
      obtain rfl := Option.some.inj h
      exact hstated
    · exact absurd h (by simp)
  | _ => exact absurd h (by simp [statedName?])

/-- A declaration that states a name goes by it at every place. -/
lemma name_of_statedName (h : d.statedName? = some name) (index : Nat) : d.name index = name := by
  cases d with
  | declared e => exact Option.some.inj h
  | raw room v =>
    obtain ⟨entries, rfl, hname⟩ := exists_mapping_of_statedName h
    rw [DeclarationInput.name, nameOf, hname]

/-- A declaration that states a name is read as the same declaration of that name at every place, or
is an invalid element at every place, or its reading is given up. -/
lemma declaration_cases (h : d.statedName? = some name) :
    (∃ e : EntityDeclaration, e.name = name ∧ ∀ index, d.declaration index = .ok e) ∨
      (∀ index, ∃ e : MappingError, d.declaration index = .error (.mapping e) ∧
        e.code = .invalidElement) ∨
      ∀ index, d.declaration index = .error (.escape .tooDeep) := by
  by_cases hgiven : d.IsGivenUp
  · exact Or.inr (Or.inr fun _ => declaration_eq_escape.mpr ⟨rfl, hgiven⟩)
  cases d with
  | declared e => exact Or.inl ⟨e, Option.some.inj h, fun _ => rfl⟩
  | raw room v =>
    obtain ⟨entries, rfl, hname⟩ := exists_mapping_of_statedName h
    rw [IsGivenUp] at hgiven
    cases hread : EntityDeclaration.read room (.mapping entries) with
    | valid e =>
      refine Or.inl ⟨e, EntityDeclaration.name_of_read hread hname, fun index => ?_⟩
      rw [declaration, hread, Checked.toExcept]
      rfl
    | invalid problems =>
      rw [hread] at hgiven
      refine Or.inr (Or.inl fun index => ⟨⟨some (nameOf index (.mapping entries)),
        .element (.malformedEntity index ⟨EntityDeclaration.recordName, problems⟩)⟩, ?_, rfl⟩)
      rw [declaration, hread, Checked.toExcept]
      exact congrArg Except.error (if_neg hgiven)

/-- The result of a build: that of the declaration that is read. -/
lemma build_result (d : DeclarationInput) (index : Nat) (settings : Settings) :
    (d.build index settings).result =
      d.declaration index >>= fun e => (e.build settings).result := by
  rw [DeclarationInput.build, Run.result_bind]
  rfl

/-- **The place of a declaration shows in wordings only.** A declaration that states a name builds
the same entity of that name at every place, or fails with the same code at every place, or breaks
off the run at every place and for the same reason. -/
theorem build_cases (h : d.statedName? = some name) (settings : Settings) :
    (∃ entity : BuiltEntity, entity.schema.entity = name ∧
      ∀ index, (d.build index settings).result = .ok entity) ∨
    (∃ code, ∀ index, ∃ e : MappingError,
      (d.build index settings).result = .error (.mapping e) ∧ e.code = code) ∨
    ∃ reason, ∀ index, (d.build index settings).result = .error (.escape reason) := by
  rcases declaration_cases h with ⟨e, hname, hread⟩ | hunread | hgiven
  · have hbuild : ∀ index, (d.build index settings).result = (e.build settings).result := by
      intro index
      rw [build_result, hread index]
      rfl
    cases hresult : (e.build settings).result with
    | ok entity =>
      refine Or.inl ⟨entity, ?_, fun index => (hbuild index).trans hresult⟩
      exact (EntityDeclaration.build_spec hresult).1.trans hname
    | error failure =>
      cases failure with
      | mapping error =>
        exact Or.inr (Or.inl ⟨error.code, fun index => ⟨error, (hbuild index).trans hresult, rfl⟩⟩)
      | escape reason =>
        exact Or.inr (Or.inr ⟨reason, fun index => (hbuild index).trans hresult⟩)
  · refine Or.inr (Or.inl ⟨.invalidElement, fun index => ?_⟩)
    obtain ⟨error, herror, hcode⟩ := hunread index
    refine ⟨error, ?_, hcode⟩
    rw [build_result, herror]
    rfl
  · refine Or.inr (Or.inr ⟨.tooDeep, fun index => ?_⟩)
    rw [build_result, hgiven index]
    rfl

end DeclarationInput

/-! ## Batches -/

namespace Batch

variable {settings : Settings} {declarations others : List DeclarationInput}
  {report other : BatchReport} {d : DeclarationInput} {name : String} {index place : Nat}

/-- What a report says about the declaration at a place of its batch: the declaration contributes an
entity, which is the one that the report has under its name, or it contributes a failure, which is
in the report. -/
def Says (settings : Settings) (declarations : List DeclarationInput) (report : BatchReport)
    (index : Nat) (outcome : Outcome) : Prop :=
  Contributes settings declarations index outcome ∧
    match outcome with
    | .built entity =>
      (report.built.find? fun unit => unit.schema.entity == entity.schema.entity) = some entity
    | .failed failure => failure ∈ report.failures

/-- Two reports agree on a declaration of a name, which stands at one place in the first batch and
at another one in the second batch. -/
inductive AgreeOn (settings : Settings) (declarations others : List DeclarationInput)
    (report other : BatchReport) (index place : Nat) (name : String) : Prop
  /-- The declaration yields the same entity of its name, schema and artifacts, in both. -/
  | built (entity : BuiltEntity) (hname : entity.schema.entity = name)
      (hfirst : Says settings declarations report index (.built entity))
      (hsecond : Says settings others other place (.built entity))
  /-- The declaration fails in both, under its name and with the same code. -/
  | failed (first second : EntityFailure) (hname : first.entity = name ∧ second.entity = name)
      (hcode : first.code = second.code)
      (hfirst : Says settings declarations report index (.failed first))
      (hsecond : Says settings others other place (.failed second))

/-- The report on a batch that goes on after failures says what a declaration contributes. -/
lemma says_of_contributes {outcome : Outcome} (hcontinues : settings.continuesOnError = true)
    (h : (generate settings declarations).result = .ok report) (hlt : index < declarations.length)
    (hcontributes : Contributes settings declarations index outcome) :
    Says settings declarations report index outcome := by
  obtain ⟨contributions, hlength, hcollects⟩ := collects_of_generate h
  rw [attempted_of_continues hcontinues, List.length_zipIdx] at hlength
  refine ⟨hcontributes, ?_⟩
  cases outcome with
  | built entity => exact (hcollects.accountsOnce hlength).first index entity hcontributes
  | failed failure => exact hcollects.mem_failures (hlength ▸ hlt) hcontributes

/-- A batch with a report has no declaration that breaks off the run, if it goes on after failures. -/
lemma build_ne_escape (hcontinues : settings.continuesOnError = true)
    (h : (generate settings declarations).result = .ok report)
    (hd : declarations[index]? = some d) (reason : Escape) :
    (d.build index settings).result ≠ .error (.escape reason) := by
  intro hbuild
  rw [generate_result, attempted_of_continues hcontinues] at h
  obtain ⟨outcomes, houtcomes, -⟩ := map_eq_ok.mp h
  have hmem : (d, index) ∈ declarations.zipIdx := List.mem_zipIdx_iff_getElem?.mpr hd
  obtain ⟨outcome, -, houtcome⟩ := exists_of_mapM_eq_ok houtcomes hmem
  exact absurd ((DeclarationInput.outcome_of_escape hbuild).symm.trans houtcome) (by simp)

/-- **Declarations are independent.** Take two batches under settings that ask to go on after
failures, which both have a declaration that states a name, each at some place before which no
declaration builds an entity of that name. If both come to a report, the reports agree on the
declaration: it yields the same entity in both, or it fails in both under its name and with the same
code. -/
theorem generate_agreeOn (hcontinues : settings.continuesOnError = true)
    (hname : d.statedName? = some name)
    (hd : declarations[index]? = some d) (hd' : others[place]? = some d)
    (hnew : ¬IsTaken settings declarations index name) (hnew' : ¬IsTaken settings others place name)
    (h : (generate settings declarations).result = .ok report)
    (h' : (generate settings others).result = .ok other) :
    AgreeOn settings declarations others report other index place name := by
  have hlt := (List.getElem?_eq_some_iff.mp hd).1
  have hlt' := (List.getElem?_eq_some_iff.mp hd').1
  rcases DeclarationInput.build_cases hname settings with
    ⟨entity, hentity, hbuild⟩ | ⟨code, hfails⟩ | ⟨reason, hescapes⟩
  · subst hentity
    exact .built entity rfl
      (says_of_contributes hcontinues h hlt (.built ⟨d, hd, hbuild index⟩ hnew))
      (says_of_contributes hcontinues h' hlt' (.built ⟨d, hd', hbuild place⟩ hnew'))
  · obtain ⟨e, hfails₁, hcode⟩ := hfails index
    obtain ⟨e', hfails₂, hcode'⟩ := hfails place
    exact .failed _ _
      ⟨DeclarationInput.name_of_statedName hname index,
        DeclarationInput.name_of_statedName hname place⟩
      (hcode.trans hcode'.symm)
      (says_of_contributes hcontinues h hlt (.failed hd hfails₁))
      (says_of_contributes hcontinues h' hlt' (.failed hd' hfails₂))
  · exact absurd (hescapes index) (build_ne_escape hcontinues h hd reason)

/-- A declaration of the letter after others, one of which is no mapping, and before them. -/
theorem agreeOn_letter :
    ∃ report other,
      (generate {} repeatedCard).result = .ok report ∧
      (generate {} [sized "Letter" 10, sized "Card" 70000]).result = .ok other ∧
      AgreeOn {} repeatedCard [sized "Letter" 10, sized "Card" 70000] report other 3 0
        "Letter" := by
  obtain ⟨report, hreport⟩ := isOk_iff.mp
    (by decide +kernel : (generate {} repeatedCard).result.isOk = true)
  obtain ⟨other, hother⟩ := isOk_iff.mp
    (by decide +kernel :
      (generate {} [sized "Letter" 10, sized "Card" 70000]).result.isOk = true)
  refine ⟨report, other, hreport, hother,
    generate_agreeOn (d := sized "Letter" 10) rfl rfl rfl rfl ?_ ?_ hreport hother⟩
  · rintro ⟨earlier, hlt, entity, hbuilds, hname⟩
    obtain ⟨⟨d, declared, hd, hdeclared, hsame⟩, -⟩ := hbuilds.spec
    rw [hname] at hsame
    have hcases : earlier = 0 ∨ earlier = 1 ∨ earlier = 2 := by omega
    rcases hcases with rfl | rfl | rfl
    · obtain rfl := Option.some.inj hd
      obtain rfl := Except.ok.inj hdeclared
      exact absurd hsame (by decide)
    · obtain rfl := Option.some.inj hd
      exact absurd hdeclared (by simp [DeclarationInput.declaration])
    · obtain rfl := Option.some.inj hd
      obtain rfl := Except.ok.inj hdeclared
      exact absurd hsame (by decide)
  · rintro ⟨earlier, hlt, -⟩
    exact absurd hlt (Nat.not_lt_zero earlier)

end Batch

end SqlMapping
