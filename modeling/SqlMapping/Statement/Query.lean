import SqlMapping.Log
import SqlMapping.Query
import SqlMapping.Statement.Basic
import SqlMapping.Text.Identifier

/-!
# Statements of queries

The text of a query is taken as it is. Its name has to be an identifier that becomes the name of an
accessor of its own, and its parameters have to be distinct identifiers.
-/

namespace SqlMapping

open SqlMapping.Number SqlMapping.Text

namespace Query

/-- The name of the accessor of a query. -/
def accessorName (name : String) : String :=
  safeIdentifier (snakeCase name)

/-- The accessors that every entity has. -/
def takenAccessors : List String :=
  Operation.all.map Operation.name ++ ["create_table", "current_subject"]

/-- What stands before the name of a query in the operation of its statement. -/
def operationMark : String := "query:"

/-- The first fault of the parameters, of which those named in `seen` are already accepted. -/
def parameterFault? (query : String) : List String → List QueryParameter → Option ElementFault
  | _, [] => none
  | seen, p :: rest =>
    if !isPlainNameLine p.name then some (.badParameterName query p.name)
    else if seen.contains p.name then some (.repeatedParameter query p.name)
    else parameterFault? query (p.name :: seen) rest

/-- The first fault of a query. -/
def fault? (q : Query) : Option ElementFault :=
  let accessor := accessorName q.name
  if !isPlainNameLine q.name then some (.badQueryName q.name)
  else if takenAccessors.contains accessor || accessor.toList.head? == some '_' then
    some (.takenAccessor q.name accessor)
  else if isBlankText q.sql then some (.emptyQuery q.name)
  else parameterFault? q.name [] q.parameters

/-- The bindings of parameters, the first one having the given number. -/
def bindings : Nat → List QueryParameter → List Binding
  | _, [] => []
  | position, p :: rest => ⟨position, p.name, .argument, p.hostType⟩ :: bindings (position + 1) rest

/-- The number of question marks of a text. -/
def questionMarks (s : String) : Nat :=
  s.toList.count '?'

/-- The statement of an accepted query. -/
def toStatement (q : Query) : Statement :=
  ⟨operationMark ++ q.name, q.sql, bindings 1 q.parameters⟩

/-- The statement of a query of an entity; the entity may be the empty text when there is none. -/
def statement (q : Query) (entity : String) : Step Statement := do
  if let some fault := q.fault? then
    Step.refuse (if entity = "" then none else some entity) fault
  let marks := questionMarks q.sql
  if marks != q.parameters.length then
    Logged.write .warning .statements
      (s!"Query '{q.name}' has " ++ natText marks ++ " '?' placeholder(s) but " ++
        natText q.parameters.length ++ " parameter(s).")
  return q.toStatement

end Query

end SqlMapping
