import SqlMapping.Entity.Artifacts

/-!
# The script that creates all tables
-/

namespace SqlMapping.Render

open SqlMapping.Text

/-- The lines on one entity: a comment with its name, the statement, and an empty line. -/
def scriptLines (a : Artifacts) : List String :=
  [s!"-- {a.entity}", s!"{a.createTable};", ""]

/-- The script with the statements that create the tables, in the order of the entities. -/
def script (units : List Artifacts) : String :=
  joinLines ("-- Generated by EntityMap" :: "" :: units.flatMap scriptLines)

end SqlMapping.Render
