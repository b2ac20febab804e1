import SqlMapping.Text.Layout
import SqlMapping.Value

/-!
# Issues

A validation is a list of issues. It is valid when none of them is an error.
-/

namespace SqlMapping

open SqlMapping.Number SqlMapping.Text

/-- How serious an issue is. -/
inductive IssueLevel where
  | error | warning | info
deriving DecidableEq

namespace IssueLevel

/-- The name of a level. -/
def name : IssueLevel → String
  | .error => "error"
  | .warning => "warning"
  | .info => "info"

/-- The name of a level in capitals. -/
def heading : IssueLevel → String
  | .error => "ERROR"
  | .warning => "WARNING"
  | .info => "INFO"

/-- The mark of a level in reports. -/
def mark : IssueLevel → String
  | .error => "✗"
  | .warning => "⚠"
  | .info => "ℹ"

end IssueLevel

/-- An issue. -/
structure Issue where
  /-- How serious it is. -/
  level : IssueLevel
  /-- Its stable code. -/
  code : String
  /-- Its wording. -/
  message : String
  /-- Named values that say where it lies. -/
  context : List (String × Value) := []

namespace Issue

/-- The short text of an issue. -/
def label (i : Issue) : String :=
  s!"[{i.level.heading}] {i.code}: {i.message}"

/-- The lines of an issue in a report. -/
def reportLines (i : Issue) : List String :=
  s!"  {i.level.mark} [{i.code}] {i.message}" ::
    i.context.map fun (key, v) =>
      let shown := v.display.toOption.getD ""
      s!"       {key}: {shown}"

end Issue

/-- The issues found by a validation, in their order. -/
abbrev Validation := List Issue

namespace Validation

/-- The errors. -/
def errors (v : Validation) : List Issue :=
  v.filter fun i => i.level == .error

/-- The warnings. -/
def warnings (v : Validation) : List Issue :=
  v.filter fun i => i.level == .warning

/-- Whether there is no error. -/
def isValid (v : Validation) : Bool :=
  !v.any fun i => i.level == .error

/-- The counts of a validation. -/
def summary (v : Validation) : String :=
  "Validation: " ++ natText v.errors.length ++ " error(s), " ++ natText v.warnings.length ++
    " warning(s), " ++ natText v.length ++ " total item(s)."

/-- The short text of a validation. -/
def label (v : Validation) : String :=
  s!"<ValidationResult {v.summary}>"

/-- The report on a validation; the issues that only inform are left out unless asked for. -/
def report (v : Validation) (withInfo : Bool) : String :=
  joinLines (v.summary :: "" ::
    (v.filter fun i => withInfo || i.level != .info).flatMap Issue.reportLines)

end Validation

end SqlMapping
