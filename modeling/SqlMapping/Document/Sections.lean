import SqlMapping.Settings

/-!
# The sections of a document

A document is a mapping with a list of entity declarations and, if it asks for something, settings.
-/

namespace SqlMapping.Document

open SqlMapping.Shape

/-- What is wrong with the sections of a document. -/
inductive SectionFault where
  /-- There is no list of entities, or it is empty. -/
  | noEntities
  /-- The settings cannot be read. -/
  | badSettings (report : ShapeError)
deriving DecidableEq

/-- The wording of a fault. -/
def SectionFault.message : SectionFault → String
  | .noEntities =>
    "Cannot find entity declarations in input. Expected a non-empty top-level 'entities' list."
  | .badSettings report => s!"Config validation failed: {report.summary}"

/-- The sections of a document. -/
structure Sections where
  /-- The declarations as untyped data. -/
  entities : List Value
  /-- The settings. -/
  settings : Settings
  /-- Whether the document gives the settings itself. -/
  givesSettings : Bool

/-- The settings section of a document: an empty value counts as none. -/
def settingsSection? (document : Entries) : Option Value :=
  (Value.get? "config" document).bind fun v => if v.isTruthy then some v else none

/-- The settings of a document. -/
def readSettings (document : Entries) : Except SectionFault Settings :=
  match (Settings.read ((settingsSection? document).getD (.mapping []))).toExcept
      Settings.recordName with
  | .ok settings => .ok settings
  | .error report => .error (.badSettings report)

/-- The entity section of a document. -/
def readEntities (document : Entries) : Except SectionFault (List Value) :=
  match Value.get? "entities" document with
  | some (.list items) => if items.isEmpty then .error .noEntities else .ok items
  | _ => .error .noEntities

/-- The sections of a document. -/
def readSections (document : Entries) : Except SectionFault Sections := do
  let entities ← readEntities document
  let settings ← readSettings document
  return ⟨entities, settings, (settingsSection? document).isSome⟩

end SqlMapping.Document
