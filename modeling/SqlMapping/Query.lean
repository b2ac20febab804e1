import SqlMapping.Shape.Record

/-!
# Queries

A query is an SQL text that a caller supplies, with its parameters in binding order.
-/

namespace SqlMapping

open SqlMapping.Shape

/-- A parameter of a query. -/
structure QueryParameter where
  /-- The name. -/
  name : String
  /-- The type of the argument in the host program. -/
  hostType : String := "object"
deriving DecidableEq

/-- A query. -/
structure Query where
  /-- The name. -/
  name : String
  /-- The SQL text. -/
  sql : String
  /-- The parameters in binding order. -/
  parameters : List QueryParameter := []
deriving DecidableEq

/-- Reads a parameter of a query. -/
def QueryParameter.read : Value → Checked QueryParameter :=
  readRecord "QueryParam" [["name"], ["host_type"]] fun entries => QueryParameter.mk
    <$> required ["name"] readNonEmptyText entries
    <*> optional ["host_type"] "object" readText entries

/-- The name of the query record in reports. -/
def Query.recordName : String := "QuerySpec"

/-- Reads a query. -/
def Query.read : Value → Checked Query :=
  readRecord recordName [["name"], ["sql"], ["params"]] fun entries => Query.mk
    <$> required ["name"] readText entries
    <*> required ["sql"] readText entries
    <*> optional ["params"] [] (readTuple QueryParameter.read) entries

end SqlMapping
