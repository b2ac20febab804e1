import Mathlib.Algebra.Group.Nat.Defs
import SqlMapping.Batch.Generate
import SqlMapping.Proofs.Entity.Escape

/-!
# Failures stay with their declarations

A batch attempts all of its declarations, or all up to the first failure (`attempted`). This module
says when a batch comes to a report on everything that it attempts: exactly when no declaration that
it attempts breaks off the run (`DeclarationInput.Escapes`), be it that its reading is given up, that
it makes the run write a number beyond the digit limit, or that it is mappable but for its names.
Every other failure of a declaration is in the report, under the name of the declaration, and so is
every entity that is built, unless its name is taken, which is a failure too.
-/

namespace SqlMapping

open SqlMapping.Number SqlMapping.Shape

namespace DeclarationInput

/-- The reading of the declaration is given up: a default that is refused is nested too deeply to be
shown. -/
def IsGivenUp : DeclarationInput → Prop
  | .raw room (.mapping entries) => (EntityDeclaration.read room (.mapping entries)).isGivenUp = true
  | _ => False

/-- **Declarations of a batch that break off the run**, and the reason: the reading is given up, or
the declaration that is read breaks off the run. -/
inductive Escapes (d : DeclarationInput) (index : Nat) (settings : Settings) : Escape → Prop
  /-- The reading is given up. -/
  | tooDeep (h : d.IsGivenUp) : Escapes d index settings .tooDeep
  /-- The declaration that is read breaks off the run. -/
  | declared {e : EntityDeclaration} {reason : Escape} (hread : d.declaration index = .ok e)
      (h : e.Escapes settings reason) : Escapes d index settings reason

/-- A declaration breaks off the run, when it is read, exactly when its reading is given up. -/
lemma declaration_eq_escape {d : DeclarationInput} {index : Nat} {reason : Escape} :
    d.declaration index = .error (.escape reason) ↔ reason = .tooDeep ∧ d.IsGivenUp := by
  cases d with
  | declared e => simp [declaration, IsGivenUp]
  | raw room v =>
    cases v with
    | mapping entries =>
      rw [declaration, IsGivenUp]
      cases hread : EntityDeclaration.read room (.mapping entries) with
      | valid e => simp [Checked.toExcept, Except.mapError, Checked.isGivenUp]
      | invalid problems =>
        have hgiven : ShapeError.isGivenUp ⟨EntityDeclaration.recordName, problems⟩ =
            (Checked.invalid problems : Checked EntityDeclaration).isGivenUp := rfl
        rw [Checked.toExcept, Except.mapError, Except.error.injEq, Failure.ofReport, hgiven]
        split_ifs with h
        · simp [h, eq_comm]
        · simp [h, Failure.element]
    | _ => simp [declaration, IsGivenUp, Failure.element]

/-- A declaration of a batch breaks off the run exactly with the reasons for which it does. -/
lemma build_eq_escape {d : DeclarationInput} {index : Nat} {settings : Settings}
    {reason : Escape} :
    (d.build index settings).result = .error (.escape reason) ↔ d.Escapes index settings reason := by
  have hread : (Run.ofExcept (d.declaration index) : Step EntityDeclaration).result =
      d.declaration index := rfl
  rw [build, Run.result_bind, hread, bind_eq_error, declaration_eq_escape]
  simp only [EntityDeclaration.build_eq_escape]
  constructor
  · rintro (⟨rfl, h⟩ | ⟨e, hread, h⟩)
    · exact .tooDeep h
    · exact .declared hread h
  · rintro (h | ⟨hread, h⟩)
    · exact Or.inl ⟨rfl, h⟩
    · exact Or.inr ⟨_, hread, h⟩

/-- A declaration that builds an entity. -/
lemma outcome_of_built {d : DeclarationInput} {index : Nat} {settings : Settings}
    {entity : BuiltEntity} (h : (d.build index settings).result = .ok entity) :
    (d.outcome index settings).result = .ok (.built entity) := by
  simp [outcome, h]

/-- A declaration that fails for a reason of its own. -/
lemma outcome_of_failed {d : DeclarationInput} {index : Nat} {settings : Settings}
    {e : MappingError} (h : (d.build index settings).result = .error (.mapping e)) :
    (d.outcome index settings).result = .ok (.failed (e.toFailure (d.name index))) := by
  simp [outcome, h]

/-- A declaration that breaks off the run. -/
lemma outcome_of_escape {d : DeclarationInput} {index : Nat} {settings : Settings}
    {reason : Escape} (h : (d.build index settings).result = .error (.escape reason)) :
    (d.outcome index settings).result = .error reason := by
  simp [outcome, h]

/-- The outcome of a declaration is missing exactly when it breaks off the run. -/
lemma outcome_eq_error {d : DeclarationInput} {index : Nat} {settings : Settings}
    {reason : Escape} :
    (d.outcome index settings).result = .error reason ↔ d.Escapes index settings reason := by
  rw [← build_eq_escape]
  cases hbuild : (d.build index settings).result with
  | ok entity => simp [outcome_of_built hbuild]
  | error failure =>
    cases failure with
    | mapping e => simp [outcome_of_failed hbuild]
    | escape other => simp [outcome_of_escape hbuild]

end DeclarationInput

namespace Batch

/-! ## Attempts -/

/-- The declarations that one worker attempts, with their numbers: all of them, or those up to the
first one that builds no entity. -/
def attemptedInTurn (settings : Settings) :
    Nat → List DeclarationInput → List (DeclarationInput × Nat)
  | _, [] => []
  | index, d :: rest =>
    (d, index) ::
      if settings.continuesOnError || (d.build index settings).result.isOk then
        attemptedInTurn settings (index + 1) rest
      else []

/-- The declarations that a batch attempts, with their numbers. -/
def attempted (settings : Settings) (declarations : List DeclarationInput) :
    List (DeclarationInput × Nat) :=
  if isShared settings declarations then declarations.zipIdx
  else attemptedInTurn settings 0 declarations

/-- The outcomes of attempts. -/
def outcomesOf (settings : Settings) (attempts : List (DeclarationInput × Nat)) :
    Except Escape (List Outcome) :=
  attempts.mapM fun (d, index) => (d.outcome index settings).result

/-- The outcomes of attempts, from the first one on. -/
lemma outcomesOf_cons (settings : Settings) (d : DeclarationInput) (index : Nat)
    (rest : List (DeclarationInput × Nat)) :
    outcomesOf settings ((d, index) :: rest) =
      (d.outcome index settings).result >>= fun outcome =>
        (outcomesOf settings rest).map (outcome :: ·) := by
  rw [outcomesOf, List.mapM_cons]
  rfl

/-- The outcomes of one worker, from the first declaration on. -/
lemma outcomesInTurn_cons (settings : Settings) (index : Nat) (d : DeclarationInput)
    (rest : List DeclarationInput) :
    (outcomesInTurn settings index (d :: rest)).result =
      (d.outcome index settings).result >>= fun outcome =>
        if outcome.isFailed && !settings.continuesOnError then .ok [outcome]
        else (outcomesInTurn settings (index + 1) rest).result.map (outcome :: ·) := by
  rw [outcomesInTurn, Run.result_bind]
  congr 1
  funext outcome
  by_cases hstop : (outcome.isFailed && !settings.continuesOnError) = true
  · rw [if_pos hstop, if_pos hstop, Run.result_bind]
    rfl
  · rw [if_neg hstop, if_neg hstop, Run.result_bind]
    cases (outcomesInTurn settings (index + 1) rest).result <;> rfl

/-- One worker has the outcomes of the declarations that it attempts. -/
lemma outcomesInTurn_result (settings : Settings) (index : Nat)
    (declarations : List DeclarationInput) :
    (outcomesInTurn settings index declarations).result =
      outcomesOf settings (attemptedInTurn settings index declarations) := by
  induction declarations generalizing index with
  | nil => rfl
  | cons d rest ih =>
    rw [outcomesInTurn_cons, attemptedInTurn, outcomesOf_cons]
    cases hbuild : (d.build index settings).result with
    | ok entity =>
      have hgoes : (settings.continuesOnError || (Except.ok entity : Except Failure _).isOk) =
          true := Bool.or_true _
      rw [DeclarationInput.outcome_of_built hbuild, if_pos hgoes, ← ih]
      rfl
    | error failure =>
      cases failure with
      | mapping e =>
        -- a failure is the last outcome unless the settings ask to go on
        rw [DeclarationInput.outcome_of_failed hbuild]
        by_cases hcontinues : settings.continuesOnError = true
        · have hgoes : (settings.continuesOnError ||
              (Except.error (.mapping e) : Except Failure BuiltEntity).isOk) = true := by
            rw [hcontinues, Bool.true_or]
          have hstops : ¬(Outcome.isFailed (.failed (e.toFailure (d.name index))) &&
              !settings.continuesOnError) = true := by
            simp [hcontinues]
          rw [if_pos hgoes, ← ih]
          exact if_neg hstops
        · have hgoes : ¬(settings.continuesOnError ||
              (Except.error (.mapping e) : Except Failure BuiltEntity).isOk) = true := by
            simp [hcontinues, Except.isOk, Except.toBool]
          have hstops : (Outcome.isFailed (.failed (e.toFailure (d.name index))) &&
              !settings.continuesOnError) = true := by
            simp [hcontinues, Outcome.isFailed]
          rw [if_neg hgoes]
          exact if_pos hstops
      | escape reason =>
        rw [DeclarationInput.outcome_of_escape hbuild]
        rfl

/-- Runs that do not depend on each other have the results of their members. -/
lemma together_result {ω ε α : Type} (runs : List (Run ω ε α)) :
    (together runs).result = runs.mapM Run.result := by
  induction runs with
  | nil => rfl
  | cons run rest ih =>
    rw [List.mapM_cons, ← ih]
    rfl

/-- A batch has the outcomes of the declarations that it attempts. -/
theorem outcomes_result (settings : Settings) (declarations : List DeclarationInput) :
    (outcomes settings declarations).result =
      outcomesOf settings (attempted settings declarations) := by
  have htogether : (outcomesTogether settings declarations).result =
      outcomesOf settings declarations.zipIdx := by
    rw [outcomesTogether, together_result, List.mapM_map]
    rfl
  rw [outcomes, attempted]
  by_cases hshared : isShared settings declarations = true
  · rw [if_pos hshared, if_pos hshared, ← htogether]
    split_ifs
    · rw [Run.result_bind]
      rfl
    · rfl
  · rw [if_neg hshared, if_neg hshared, outcomesInTurn_result]

/-! ## Reports -/

/-- A report keeps its failures and its entities when an outcome is recorded. -/
lemma subset_record (r : BatchReport) (outcome : Outcome) :
    r.failures ⊆ (record r outcome).failures ∧ r.built ⊆ (record r outcome).built := by
  cases outcome with
  | failed failure => exact ⟨List.subset_append_left _ _, List.Subset.refl _⟩
  | built entity =>
    rw [record]
    split_ifs
    · exact ⟨List.subset_append_left _ _, List.Subset.refl _⟩
    · exact ⟨List.Subset.refl _, List.subset_append_left _ _⟩

/-- An outcome is in a report: a failure as it is, and an entity that is built unless its name is
taken, which is a failure. -/
def IsRecorded (r : BatchReport) : Outcome → Prop
  | .failed failure => failure ∈ r.failures
  | .built entity => entity ∈ r.built ∨ repeatedFailure entity.schema.entity ∈ r.failures

/-- An outcome that is recorded is in the report. -/
lemma isRecorded_record (r : BatchReport) (outcome : Outcome) :
    IsRecorded (record r outcome) outcome := by
  cases outcome with
  | failed failure => exact List.mem_append_right _ (List.mem_singleton_self _)
  | built entity =>
    rw [record, IsRecorded]
    split_ifs
    · exact Or.inr (List.mem_append_right _ (List.mem_singleton_self _))
    · exact Or.inl (List.mem_append_right _ (List.mem_singleton_self _))

/-- What is in a report stays there when another outcome is recorded. -/
lemma IsRecorded.record {r : BatchReport} {outcome : Outcome} (h : IsRecorded r outcome)
    (other : Outcome) : IsRecorded (record r other) outcome := by
  obtain ⟨hfailures, hbuilt⟩ := subset_record r other
  cases outcome with
  | failed failure => exact hfailures h
  | built entity => exact h.imp (fun hmem => hbuilt hmem) (fun hmem => hfailures hmem)

/-- The report on outcomes has all of them. -/
theorem isRecorded_reportOn {settings : Settings} {outcomes : List Outcome} {outcome : Outcome}
    (h : outcome ∈ outcomes) : IsRecorded (reportOn settings outcomes) outcome := by
  have hkept : ∀ (outcomes : List Outcome) (r : BatchReport), IsRecorded r outcome →
      IsRecorded (outcomes.foldl Batch.record r) outcome := by
    intro outcomes
    induction outcomes with
    | nil => exact fun r hr => hr
    | cons first rest ih => exact fun r hr => ih _ (hr.record first)
  have hall : ∀ (outcomes : List Outcome) (r : BatchReport), outcome ∈ outcomes →
      IsRecorded (outcomes.foldl Batch.record r) outcome := by
    intro outcomes
    induction outcomes with
    | nil => exact fun r hmem => absurd hmem List.not_mem_nil
    | cons first rest ih =>
      intro r hmem
      rcases List.mem_cons.mp hmem with rfl | hmem
      · exact hkept rest _ (isRecorded_record r outcome)
      · exact ih _ hmem
  exact hall outcomes _ h

/-- The report accounts for a declaration that is attempted. -/
def Accounts (settings : Settings) (r : BatchReport) (d : DeclarationInput) (index : Nat) : Prop :=
  match (d.build index settings).result with
  | .ok entity => entity ∈ r.built ∨ repeatedFailure entity.schema.entity ∈ r.failures
  | .error (.mapping e) => e.toFailure (d.name index) ∈ r.failures
  | .error (.escape _) => False

/-- A report that has the outcome of a declaration accounts for it. -/
lemma accounts_of_isRecorded {settings : Settings} {r : BatchReport} {d : DeclarationInput}
    {index : Nat} {outcome : Outcome} (h : (d.outcome index settings).result = .ok outcome)
    (hr : IsRecorded r outcome) : Accounts settings r d index := by
  rw [Accounts]
  cases hbuild : (d.build index settings).result with
  | ok entity =>
    rw [DeclarationInput.outcome_of_built hbuild] at h
    obtain rfl := Except.ok.inj h
    exact hr
  | error failure =>
    cases failure with
    | mapping e =>
      rw [DeclarationInput.outcome_of_failed hbuild] at h
      obtain rfl := Except.ok.inj h
      exact hr
    | escape reason =>
      rw [DeclarationInput.outcome_of_escape hbuild] at h
      exact absurd h (by simp)

/-- The result of a batch is the report on its outcomes. -/
lemma generate_result (settings : Settings) (declarations : List DeclarationInput) :
    (generate settings declarations).result =
      (outcomesOf settings (attempted settings declarations)).map (reportOn settings) := by
  rw [generate, Run.result_bind, outcomes_result]
  cases outcomesOf settings (attempted settings declarations) <;> rfl

/-- A batch has no report exactly when one of the declarations that it attempts breaks off the run. -/
lemma exists_generate_eq_error_iff {settings : Settings} {declarations : List DeclarationInput} :
    (∃ reason, (generate settings declarations).result = .error reason) ↔
      ∃ d index, (d, index) ∈ attempted settings declarations ∧
        ∃ reason, d.Escapes index settings reason := by
  simp only [generate_result, map_eq_error, outcomesOf, exists_mapM_eq_error_iff, Prod.exists,
    DeclarationInput.outcome_eq_error]

/-- The reason for which a batch has no report is that of the first declaration that breaks off the
run. -/
theorem generate_eq_error_iff {settings : Settings} {declarations : List DeclarationInput}
    {reason : Escape} :
    (generate settings declarations).result = .error reason ↔
      ∃ before d index after, attempted settings declarations = before ++ (d, index) :: after ∧
        (∀ d' index', (d', index') ∈ before → ∀ other, ¬d'.Escapes index' settings other) ∧
          d.Escapes index settings reason := by
  have hgoes : ∀ (d : DeclarationInput) index, (∃ outcome,
      (d.outcome index settings).result = .ok outcome) ↔
        ∀ other, ¬d.Escapes index settings other := by
    intro d index
    simp only [← DeclarationInput.outcome_eq_error]
    cases (d.outcome index settings).result <;> simp
  rw [generate_result, map_eq_error, outcomesOf, mapM_eq_error_iff]
  simp only [Prod.exists, Prod.forall, hgoes, DeclarationInput.outcome_eq_error]

/-- **When failures stay with their declarations.** A batch comes to a report that accounts for
every declaration it attempts exactly when none of these breaks off the run. -/
theorem generate_accounts_iff (settings : Settings) (declarations : List DeclarationInput) :
    (∃ report, (generate settings declarations).result = .ok report ∧
      ∀ d index, (d, index) ∈ attempted settings declarations →
        Accounts settings report d index) ↔
      ∀ d index, (d, index) ∈ attempted settings declarations →
        ∀ reason, ¬d.Escapes index settings reason := by
  rw [generate_result]
  constructor
  · rintro ⟨report, -, haccounts⟩ d index hmem reason hescapes
    have haccount := haccounts d index hmem
    rw [Accounts, DeclarationInput.build_eq_escape.mpr hescapes] at haccount
    exact haccount
  · intro hstays
    cases houtcomes : outcomesOf settings (attempted settings declarations) with
    | error reason =>
      obtain ⟨⟨d, index⟩, hmem, reason, houtcome⟩ := exists_mapM_eq_error_iff.mp ⟨_, houtcomes⟩
      exact absurd (DeclarationInput.outcome_eq_error.mp houtcome) (hstays d index hmem reason)
    | ok outcomes =>
      refine ⟨_, rfl, fun d index hmem => ?_⟩
      obtain ⟨outcome, hin, houtcome⟩ := exists_of_mapM_eq_ok houtcomes hmem
      exact accounts_of_isRecorded houtcome (isRecorded_reportOn hin)

/-- Data that declares an entity with one field, its key, of a size. -/
def sized (name : String) (size : Nat) : DeclarationInput :=
  .raw 100 (.mapping
    [(.text "name", .text name),
     (.text "fields", .list [.mapping
       [(.text "name", .text "code"), (.text "type", .text "VARCHAR"),
        (.text "size", .int (Int.ofNat size)), (.text "primary_key", .bool true)]])])

/-- One declaration that asks for a size with too many digits takes the batch down, and with it the
entity that the other declaration builds. -/
theorem generate_sized_lost :
    ((sized "Card" 10).build 1 {}).result.isOk = true ∧
      ¬∃ report, (generate {} [sized "Letter" (16 ^ 3600), sized "Card" 10]).result =
        .ok report := by
  refine ⟨by decide +kernel, ?_⟩
  have hread : ∀ size, (sized "Letter" size).declaration 0 =
      .ok { name := "Letter", fields :=
        [{ name := "code", columnType := some .varChar, size := some size, isKey := true }] } := by
    intro size
    rfl
  have hescapes : (sized "Letter" (16 ^ 3600)).Escapes 0 {} .overlong := by
    refine .declared (hread _) (.overlong (Or.inl ⟨by decide, [], _, [], rfl, ?_, ?_⟩))
    · simp [AcceptedInTurn]
    · refine ⟨⟨.varChar, rfl, rfl⟩, 16 ^ 3600, rfl, ?_⟩
      decide +kernel
  have hlost : ((sized "Letter" (16 ^ 3600)).outcome 0 {}).result = .error .overlong :=
    DeclarationInput.outcome_eq_error.mpr hescapes
  rintro ⟨report, hreport⟩
  rw [generate_result] at hreport
  obtain ⟨outcomes, houtcomes, -⟩ := map_eq_ok.mp hreport
  rw [attempted, if_neg (by decide), attemptedInTurn, outcomesOf_cons, hlost] at houtcomes
  exact absurd houtcomes (by simp [Bind.bind, Except.bind])

end Batch

end SqlMapping
