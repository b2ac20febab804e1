import SqlMapping.Column.Decoder
import SqlMapping.Shape.Record

/-!
# Decode steps

A step of a decode plan says which decoder reads a column of a result row.
-/

namespace SqlMapping

open SqlMapping.Shape

/-- How one column of a result row is read. -/
structure DecodeStep where
  /-- The position of the column in the row. -/
  position : Nat
  /-- The name of the column. -/
  column : String
  /-- The type of the field in the host program. -/
  hostType : String := "object"
  /-- The SQL type of the column. -/
  sqlType : String
  /-- The decoder. -/
  decoder : Decoder
  /-- Whether no typed decoder covers the column. -/
  isUntyped : Bool := false
deriving DecidableEq

/-- Reads a decode step. -/
def DecodeStep.read : Value → Checked DecodeStep :=
  readRecord "DecodeStep"
    [["position"], ["column"], ["host_type"], ["sql_type"], ["decode_function"], ["opaque"]]
    fun entries => DecodeStep.mk
      <$> required ["position"] readNat entries
      <*> required ["column"] readNonEmptyText entries
      <*> optional ["host_type"] "object" readText entries
      <*> required ["sql_type"] readText entries
      <*> required ["decode_function"] (readOneOf Decoder.all Decoder.name) entries
      <*> optional ["opaque"] false readBool entries

end SqlMapping
