import SqlMapping.Batch.Report

/-!
# Generating a batch

The declarations of a batch are built one by one; a failure belongs to its declaration alone. A
single worker stops at the first failure if it is asked to; several workers attempt every
declaration. A name that an earlier declaration has built already makes a declaration fail.
-/

namespace SqlMapping

open SqlMapping.Number

namespace Batch

/-- The outcomes of declarations, the first one having the given number, up to the first failure if
the settings ask for that. -/
def outcomesInTurn (settings : Settings) :
    Nat → List DeclarationInput → Logged Escape (List Outcome)
  | _, [] => pure []
  | index, d :: rest => do
    let outcome ← d.outcome index settings
    if outcome.isFailed && !settings.continuesOnError then
      Logged.write .error .generation "Stopping after first failure (continue_on_error=False)."
      return [outcome]
    let others ← outcomesInTurn settings (index + 1) rest
    return outcome :: others

/-- Runs that do not depend on each other: all of them write their log entries, and the first
failure counts. -/
def together {ω ε α : Type} : List (Run ω ε α) → Run ω ε (List α)
  | [] => ⟨.ok [], []⟩
  | run :: rest =>
    let others := together rest
    { result := do
        let a ← run.result
        let as ← others.result
        return a :: as
      trace := run.trace ++ others.trace }

/-- The outcomes of all declarations. -/
def outcomesTogether (settings : Settings) (declarations : List DeclarationInput) :
    Logged Escape (List Outcome) :=
  together (declarations.zipIdx.map fun (d, index) => d.outcome index settings)

/-- Whether several workers share the declarations. -/
def isShared (settings : Settings) (declarations : List DeclarationInput) : Bool :=
  settings.workers > 1 && declarations.length > 1

/-- The warning that several workers do not stop at the first failure. -/
def attemptsAllWarning (settings : Settings) : String :=
  "continue_on_error=False is ignored with parallel_workers=" ++ natText settings.workers ++
    ": every entity is attempted."

/-- The outcomes of the declarations of a batch. -/
def outcomes (settings : Settings) (declarations : List DeclarationInput) :
    Logged Escape (List Outcome) :=
  if isShared settings declarations then do
    if !settings.continuesOnError then
      Logged.write .warning .generation (attemptsAllWarning settings)
    outcomesTogether settings declarations
  else outcomesInTurn settings 0 declarations

/-- The failure of a declaration whose name is taken. -/
def repeatedFailure (name : String) : EntityFailure :=
  { entity := name
    code := .invalidElement
    message := s!"Entity '{name}' is declared more than once." }

/-- The report with one more outcome. -/
def record (r : BatchReport) : Outcome → BatchReport
  | .failed failure => { r with failures := r.failures ++ [failure] }
  | .built entity =>
    if r.built.any fun other => other.schema.entity == entity.schema.entity then
      { r with failures := r.failures ++ [repeatedFailure entity.schema.entity] }
    else { r with built := r.built ++ [entity] }

/-- The report on outcomes. -/
def reportOn (settings : Settings) (outcomes : List Outcome) : BatchReport :=
  outcomes.foldl record ⟨[], [], settings⟩

/-- Generates a batch. -/
def generate (settings : Settings) (declarations : List DeclarationInput) :
    Logged Escape BatchReport := do
  let outcomes ← outcomes settings declarations
  let report := reportOn settings outcomes
  Logged.write .info .validation report.validation.summary
  return report

end Batch

end SqlMapping
