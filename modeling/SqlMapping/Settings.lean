import SqlMapping.Shape.Record
import SqlMapping.Text.Letter

/-!
# Settings of a generation
-/

namespace SqlMapping

open SqlMapping.Shape SqlMapping.Text

/-- A plain name: an ASCII letter or an underscore, then ASCII letters, digits and underscores. -/
abbrev PlainName := { s : String // isPlainName s = true }

/-- What a generation is asked to tolerate, and how it runs. -/
structure Settings where
  /-- Whether several flagged keys are refused; otherwise the first one is the key. -/
  rejectsSeveralKeys : Bool := true
  /-- Whether a column without a typed decoder is refused. -/
  rejectsUntyped : Bool := false
  /-- Whether the other entities are still generated after one has failed. -/
  continuesOnError : Bool := true
  /-- The number of workers. -/
  workers : Nat := 1
  /-- What follows the name of an entity in the name of its class. -/
  classSuffix : PlainName := ⟨"DatabaseModel", by decide⟩

namespace Settings

/-- The name of the record in reports. -/
def recordName : String := "GenerationConfig"

/-- The rule of plain names as reports show it. -/
def plainNamePattern : String := "^[A-Za-z_][A-Za-z0-9_]*$"

/-- Reads a plain name. -/
def readPlainName (v : Value) : Checked PlainName :=
  (readText v).andThen fun s =>
    ifWhole s
      (if h : isPlainName s = true then .valid ⟨s, h⟩
        else .flaw (.patternMismatch plainNamePattern))

/-- Reads a number of workers. -/
def readWorkers : Value → Checked Nat :=
  readNatBetween 1 64

/-- Reads settings. -/
def read : Value → Checked Settings :=
  readRecord recordName
    [["reject_duplicate_primary_keys"], ["fail_on_opaque_decode"], ["continue_on_error"],
      ["parallel_workers"], ["model_suffix"]]
    fun entries => Settings.mk
      <$> optional ["reject_duplicate_primary_keys"] true readBool entries
      <*> optional ["fail_on_opaque_decode"] false readBool entries
      <*> optional ["continue_on_error"] true readBool entries
      <*> optional ["parallel_workers"] 1 readWorkers entries
      <*> optional ["model_suffix"] ⟨"DatabaseModel", by decide⟩ readPlainName entries

end Settings

end SqlMapping
