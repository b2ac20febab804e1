import SqlMapping.Shape.Record

/-!
# Statements

A statement is an SQL text with a placeholder for each bound value, and the plan that says where
the value of each placeholder comes from.
-/

namespace SqlMapping

open SqlMapping.Shape

/-- The operations that every entity has. -/
inductive Operation where
  | insert | selectById | selectSelf | update | deleteById | deleteSelf
deriving DecidableEq

namespace Operation

/-- Every operation. -/
def all : List Operation :=
  [.insert, .selectById, .selectSelf, .update, .deleteById, .deleteSelf]

/-- The name of an operation. -/
def name : Operation → String
  | .insert => "insert"
  | .selectById => "select_by_id"
  | .selectSelf => "select_self"
  | .update => "update"
  | .deleteById => "delete_by_id"
  | .deleteSelf => "delete_self"

end Operation

/-- Where the value of a placeholder comes from. -/
inductive BindSource where
  /-- A field of the entity instance. -/
  | field
  /-- The key that the caller gives. -/
  | id
  /-- The key of the current subject. -/
  | subject
  /-- A positional argument of a query. -/
  | argument
deriving DecidableEq

namespace BindSource

/-- Every source. -/
def all : List BindSource :=
  [.field, .id, .subject, .argument]

/-- The name of a source. -/
def name : BindSource → String
  | .field => "field"
  | .id => "id"
  | .subject => "subject"
  | .argument => "argument"

end BindSource

/-- A placeholder and the value that fills it. -/
structure Binding where
  /-- The number of the placeholder, counted from 1. -/
  position : Nat
  /-- The field, key or parameter that is bound. -/
  name : String
  /-- Where the value comes from. -/
  source : BindSource
  /-- The type of the value in the host program. -/
  hostType : String := "object"
deriving DecidableEq

/-- An SQL text with its binding plan. -/
structure Statement where
  /-- What the statement is for. -/
  operation : String
  /-- The SQL text. -/
  sql : String
  /-- The bindings in the order of the placeholders. -/
  bindings : List Binding := []
deriving DecidableEq

/-- The number of values that a statement takes. -/
def Statement.parameterCount (s : Statement) : Nat :=
  s.bindings.length

/-- Reads the number of a placeholder, which is at least 1. -/
def Binding.readPosition (v : Value) : Checked Nat :=
  (readIntFrom 1 v).map Int.toNat

/-- Reads a binding. -/
def Binding.read : Value → Checked Binding :=
  readRecord "BindParameter" [["position"], ["name"], ["source"], ["host_type"]]
    fun entries => Binding.mk
      <$> required ["position"] readPosition entries
      <*> required ["name"] readNonEmptyText entries
      <*> required ["source"] (readOneOf BindSource.all BindSource.name) entries
      <*> optional ["host_type"] "object" readText entries

/-- Reads a statement. -/
def Statement.read : Value → Checked Statement :=
  readRecord "StatementTemplate" [["operation"], ["sql"], ["bind_order"]]
    fun entries => Statement.mk
      <$> required ["operation"] readNonEmptyText entries
      <*> required ["sql"] readText entries
      <*> optional ["bind_order"] [] (readTuple Binding.read) entries

end SqlMapping
