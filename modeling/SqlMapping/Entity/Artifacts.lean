import SqlMapping.Decode.Plan
import SqlMapping.Entity.Resolve
import SqlMapping.Statement.Create
import SqlMapping.Statement.Standard
import SqlMapping.Statement.Query

/-!
# Artifacts

Everything that is generated for one entity: the statement that creates its table, the statements
of its operations and queries, and the plan that decodes its rows.
-/

namespace SqlMapping

open SqlMapping.Number SqlMapping.Text

/-- Everything generated for one entity. -/
structure Artifacts where
  /-- The name of the entity. -/
  entity : String
  /-- The name of its table. -/
  table : String
  /-- The name of its key. -/
  key : String
  /-- The statement that creates the table. -/
  createTable : String
  /-- The statements of the operations. -/
  statement : Operation → Statement
  /-- The statements of the queries by name, in their order. -/
  queries : List (String × Statement)
  /-- The decode plan of a row. -/
  decodePlan : List DecodeStep

namespace Artifacts

/-- The statement of a query. -/
def query? (a : Artifacts) (name : String) : Option Statement :=
  a.queries.lookup name

/-- What is said when there is no query of a name. -/
def noQueryMessage (a : Artifacts) (name : String) : String :=
  let known := (a.queries.map Prod.fst).mergeSort fun s t => decide (s ≤ t)
  s!"Entity '{a.entity}' has no query named '{name}'. Available: [" ++
    commaList (known.map quote) ++ "]"

/-- The short text of the artifacts. -/
def label (a : Artifacts) : String :=
  s!"<GeneratedUnit {a.entity} (" ++ natText Operation.all.length ++ " statements, " ++
    natText a.queries.length ++ " queries)>"

end Artifacts

/-- The statements of queries by name. The names in `accepted` are taken, and so are the accessors
of these names. -/
def queryStatements (entity : String) : List String → List Query → Step (List (String × Statement))
  | _, [] => pure []
  | accepted, q :: rest => do
    if accepted.contains q.name then Step.refuse (some entity) (.repeatedQuery q.name)
    let accessor := Query.accessorName q.name
    if let some first := accepted.find? fun name => Query.accessorName name == accessor then
      Step.refuse (some entity) (.sharedAccessor first q.name accessor)
    let statement ← q.statement entity
    let others ← queryStatements entity (q.name :: accepted) rest
    return (q.name, statement) :: others

/-- The artifacts of a schema with queries. -/
def Schema.generate (s : Schema) (queries : List Query) (settings : Settings) :
    Step Artifacts := do
  let queryStatements ← queryStatements s.entity [] queries
  let createTable ← Step.ofWritten s.createTable
  s.statementWarnings.forM fun entry => (⟨.ok (), [entry]⟩ : Step Unit)
  let decodePlan ← planDecode s.entity settings.rejectsUntyped 0 s.columns
  return {
    entity := s.entity
    table := s.table
    key := s.primaryKey.name
    createTable
    statement := s.statement
    queries := queryStatements
    decodePlan }

/-- An entity that is built: its schema and its artifacts. -/
structure BuiltEntity where
  /-- The schema. -/
  schema : Schema
  /-- The artifacts. -/
  artifacts : Artifacts

/-- Builds a declared entity. -/
def EntityDeclaration.build (d : EntityDeclaration) (settings : Settings) : Step BuiltEntity := do
  let schema ← d.resolve settings
  let artifacts ← schema.generate d.queries settings
  return ⟨schema, artifacts⟩

end SqlMapping
