import SqlMapping.Batch.Outcome
import SqlMapping.Validation.Check

/-!
# Reports on batches
-/

namespace SqlMapping

open SqlMapping.Number SqlMapping.Text

/-- The time that the parts of a batch took, in milliseconds. -/
structure Elapsed where
  /-- The time for building the entities. -/
  building : Nat := 0
  /-- The time for validating them. -/
  validating : Nat := 0
  /-- The time in all. -/
  total : Nat := 0

/-- Milliseconds as seconds with three places. -/
def secondsText (milliseconds : Nat) : String :=
  let digits := natText (milliseconds % 1000)
  natText (milliseconds / 1000) ++ "." ++
    String.ofList (List.replicate (3 - digits.length) '0') ++ digits

/-- A text filled up with spaces on the left to at least `width` characters. -/
def padLeft (width : Nat) (s : String) : String :=
  spaces (width - s.length) ++ s

/-- The outcome of a batch. -/
structure BatchReport where
  /-- The entities that are built, in the order of their declarations. -/
  built : List BuiltEntity
  /-- The failures, in the order of their declarations. -/
  failures : List EntityFailure
  /-- The settings of the run. -/
  settings : Settings

/-- How one part of a batch has gone. -/
structure BatchPart where
  /-- The name of the part. -/
  name : String
  /-- Whether it has gone well. -/
  isSuccess : Bool
  /-- The time it took, in milliseconds. -/
  elapsed : Nat
  /-- What it has come to. -/
  detail : String

namespace BatchReport

/-- The schemas of the entities that are built. -/
def schemas (r : BatchReport) : List Schema :=
  r.built.map BuiltEntity.schema

/-- The artifacts of the entities that are built. -/
def artifacts (r : BatchReport) : List Artifacts :=
  r.built.map BuiltEntity.artifacts

/-- The issues of the batch. -/
def validation (r : BatchReport) : Validation :=
  Validation.ofBatch r.schemas

/-- Whether every declaration has built an entity and no check has found an error. -/
def isSuccess (r : BatchReport) : Bool :=
  r.failures.isEmpty && r.validation.isValid

/-- How the parts of the batch have gone. -/
def parts (r : BatchReport) (elapsed : Elapsed) : List BatchPart :=
  [⟨"Resolve & Synthesize", r.failures.isEmpty, elapsed.building,
      natText r.built.length ++ " ok, " ++ natText r.failures.length ++ " failed"⟩,
    ⟨"Validate", r.validation.isValid, elapsed.validating, r.validation.summary⟩]

/-- A line of sixty equal characters. -/
def rule (c : Char) : String :=
  String.ofList (List.replicate 60 c)

/-- The line of one part. -/
def partLine (p : BatchPart) : String :=
  let mark := if p.isSuccess then "✓" else "✗"
  s!"    {mark} " ++ padRight 24 p.name ++ " " ++ padLeft 7 (secondsText p.elapsed) ++ "s  " ++
    p.detail

/-- The lines on the failures. -/
def failureLines (r : BatchReport) : List String :=
  if r.failures.isEmpty then []
  else
    rule '-' :: ("  Failures (" ++ natText r.failures.length ++ "):") ::
      r.failures.map fun f => s!"    ✗ {f.entity} [{f.code.name}] {f.message}"

/-- The lines on the issues. -/
def validationLines (r : BatchReport) : List String :=
  if r.validation.isEmpty then [] else [rule '-', r.validation.report false]

/-- The summary of a batch. -/
def summary (r : BatchReport) (elapsed : Elapsed) : String :=
  let status := if r.isSuccess then "SUCCESS" else "FAILED"
  joinLines <|
    [rule '=', "  EntityMap - Generation Report", rule '=',
      "  Status:             " ++ status,
      "  Entities generated: " ++ natText r.built.length,
      "  Entities failed:    " ++ natText r.failures.length,
      "  Total time:         " ++ secondsText elapsed.total ++ "s",
      rule '-', "  Pipeline Steps:"] ++
    (r.parts elapsed).map partLine ++ r.failureLines ++ r.validationLines ++ [rule '=']

/-- The log entry that closes a batch. -/
def closingEntry (r : BatchReport) (elapsed : Elapsed) : LogEntry :=
  if r.isSuccess then
    ⟨.info, .generation,
      "Generated " ++ natText r.built.length ++ " entit(ies) in " ++ secondsText elapsed.total ++
        "s."⟩
  else
    ⟨.error, .generation,
      "Generation finished with " ++ natText r.failures.length ++ " failed entit(ies) and " ++
        natText r.validation.errors.length ++ " validation error(s)."⟩

end BatchReport

end SqlMapping
