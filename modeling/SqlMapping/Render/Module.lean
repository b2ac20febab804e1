import SqlMapping.Entity.Artifacts

/-!
# Rendered modules

The module of an entity holds its statements as constants and a class with one method for each
operation and each query. The values that a method binds stand in a tuple, in the order of the
placeholders.
-/

namespace SqlMapping.Render

open SqlMapping.Number SqlMapping.Text

/-- One level of indentation. -/
def indent : String := "    "

/-- The name of the class of an entity. -/
def className (entity : String) (settings : Settings) : String :=
  let base := pascalCase entity
  (if base = "" then "Entity" else base) ++ settings.classSuffix.val

/-- The name of the file that holds the module of an entity. -/
def fileName (entity : String) : String :=
  let base := snakeCase entity
  (if base = "" then "entity" else base) ++ "_database_model.py"

/-- The name of the constant that holds the text of a query. -/
def constantName (query : String) : String :=
  "QUERY_" ++ String.ofList ((snakeCase query).toList.map Char.toUpper) ++ "_SQL"

/-- The names that every query method uses itself. -/
def takenArguments : List String := ["self", "block", "connection", "result"]

/-- A candidate with as many copies of a suffix as it takes to differ from all names, but at most
the given number of them. -/
def freeName (names : List String) (suffix : String) : Nat → String → String
  | 0, candidate => candidate
  | fuel + 1, candidate =>
    if names.contains candidate then freeName names suffix fuel (candidate ++ suffix)
    else candidate

/-- The name of the argument of a binding, different from the given ones. As many suffixes as there
are names are always enough. -/
def argumentName (names : List String) (b : Binding) : String :=
  let base := safeIdentifier b.name
  let candidate := if takenArguments.contains base then base ++ "_" else base
  freeName names ("_" ++ natText b.position) names.length candidate

/-- The names of the arguments of bindings, after those given. -/
def argumentNamesAfter : List String → List Binding → List String
  | _, [] => []
  | names, b :: rest =>
    let name := argumentName names b
    name :: argumentNamesAfter (names ++ [name]) rest

/-- The names of the arguments of a query method, in the order of the placeholders. -/
def argumentNames (s : Statement) : List String :=
  argumentNamesAfter [] s.bindings

/-- The expression of the value that is bound. -/
def valueExpression (key : String) (b : Binding) : String :=
  match b.source with
  | .field => "read_value(obj, " ++ quote b.name ++ ")"
  | .id => "id_"
  | .subject => "read_value(self.current_subject, " ++ quote key ++ ")"
  | .argument => b.name

/-- A tuple of expressions. -/
def tupleText : List String → String
  | [] => "()"
  | [e] => "(" ++ e ++ ",)"
  | es => "(" ++ commaList es ++ ")"

/-- The tuple of the values that an operation binds. -/
def boundTuple (a : Artifacts) (op : Operation) : String :=
  tupleText ((a.statement op).bindings.map (valueExpression a.key))

/-- The definition of a text constant. -/
def constantLine (name text : String) : String :=
  name ++ ": str = " ++ quote text

/-- The definitions of the constants. -/
def constantLines (a : Artifacts) : List String :=
  [constantLine "TABLE_NAME" a.table, "", constantLine "CREATE_TABLE_SQL" a.createTable,
    constantLine "INSERT_SQL" (a.statement .insert).sql,
    constantLine "SELECT_BY_ID_SQL" (a.statement .selectById).sql,
    constantLine "UPDATE_SQL" (a.statement .update).sql,
    constantLine "DELETE_BY_ID_SQL" (a.statement .deleteById).sql] ++
  a.queries.map fun (name, s) => constantLine (constantName name) s.sql

/-- The method that makes an instance of a row. -/
def decodeMethod (a : Artifacts) : List String :=
  "def _decode(self, row: Any) -> Any:" ::
    indentLines
      ("return self._entity_type(" ::
        a.decodePlan.map (fun step =>
          indent ++ step.decoder.name ++ "(row[" ++ natText step.position ++ "]),  # " ++
            step.column) ++
        [")"]) 1 4

/-- The line that opens the scope of a connection. -/
def connectionLine : String :=
  indent ++ "with self._provider.acquire_connection() as connection:"

/-- The methods of the operations. -/
def operationMethods (a : Artifacts) : List String :=
  let deep := indent ++ indent
  let ownKey := "read_value(self.current_subject, " ++ quote a.key ++ ")"
  ["def create_table(self, block: Optional[Callable[[bool], Any]] = None) -> bool:",
    indent ++ "\"\"\"Create the table unless it exists; returns whether it already existed.\"\"\"",
    connectionLine,
    deep ++ "exists: bool = connection.table_exists(TABLE_NAME)",
    deep ++ "if not exists:",
    deep ++ indent ++ "connection.execute(CREATE_TABLE_SQL)",
    indent ++ "if block is not None:",
    deep ++ "block(exists)",
    indent ++ "return exists",
    "",
    "def insert(self, obj: Any) -> Any:",
    indent ++ "\"\"\"Insert *obj* without its primary key; " ++
      "returns the new row id if the driver reports one.\"\"\"",
    connectionLine,
    deep ++ "result = connection.execute(INSERT_SQL, " ++ boundTuple a .insert ++ ")",
    deep ++ "return getattr(result, 'lastrowid', None)",
    "",
    "def select_by_id(self, id_: Any) -> Any:",
    connectionLine,
    deep ++ "row = connection.execute(SELECT_BY_ID_SQL, " ++ boundTuple a .selectById ++
      ").fetchone()",
    deep ++ "return None if row is None else self._decode(row)",
    "",
    "def select_self(self) -> Any:",
    indent ++ "return self.select_by_id(" ++ ownKey ++ ")",
    "",
    "def update(self, obj: Any) -> int:",
    connectionLine,
    deep ++ "return connection.execute(UPDATE_SQL, " ++ boundTuple a .update ++ ").rowcount",
    "",
    "def delete_by_id(self, id_: Any, block: Callable[[int], Any]) -> None:",
    connectionLine,
    deep ++ "affected: int = connection.execute(DELETE_BY_ID_SQL, " ++ boundTuple a .deleteById ++
      ").rowcount",
    indent ++ "block(affected)",
    "",
    "def delete_self(self, block: Callable[[int], Any]) -> None:",
    indent ++ "self.delete_by_id(" ++ ownKey ++ ", block)"]

/-- The method of a query. -/
def queryMethod (name : String) (s : Statement) : List String :=
  let arguments := argumentNames s
  let parameters := "self" :: arguments.map (fun a => a ++ ": Any") ++
    ["block: Callable[[Any], Any]"]
  ["def " ++ Query.accessorName name ++ "(" ++ commaList parameters ++ ") -> Any:",
    connectionLine,
    indent ++ indent ++ "return block(connection.execute(" ++ constantName name ++ ", " ++
      tupleText arguments ++ "))"]

/-- The method that sets up an instance of the class. -/
def initMethod : List String :=
  ["def __init__(",
    indent ++ "self,",
    indent ++ "provider: ConnectionProvider,",
    indent ++ "entity_type: Callable[..., Any],",
    indent ++ "current_subject: Any = None,",
    ") -> None:",
    indent ++ "self._provider: ConnectionProvider = provider",
    indent ++ "self._entity_type: Callable[..., Any] = entity_type",
    indent ++ "self.current_subject: Any = current_subject",
    ""]

/-- The names of the decoders that a plan uses, in order and without repetition. -/
def decoderNames (plan : List DecodeStep) : List String :=
  (Decoder.all.filter fun d => plan.any fun step => step.decoder == d).map Decoder.name
    |>.mergeSort fun s t => decide (s ≤ t)

/-- The lines before the constants: what the module is for, and what it imports. -/
def headerLines (a : Artifacts) : List String :=
  ["\"\"\"",
    s!"Data access for entity {a.entity} (table {a.table}).",
    "Auto-generated by EntityMap.",
    "\"\"\"",
    "",
    "from __future__ import annotations",
    "",
    "from typing import Any, Callable, Optional",
    "",
    "from entitymap.decoding import " ++ commaList (decoderNames a.decodePlan),
    "from entitymap.runtime import ConnectionProvider, read_value",
    ""]

/-- The lines of the class. -/
def classLines (a : Artifacts) (settings : Settings) : List String :=
  ["class " ++ className a.entity settings ++ ":",
    indent ++ "\"\"\"Accessors for the " ++ quote a.table ++ " table.\"\"\"",
    ""] ++
  indentLines initMethod 1 4 ++ indentLines (decodeMethod a) 1 4 ++ "" ::
  indentLines (operationMethods a) 1 4 ++
  a.queries.flatMap fun (name, s) => "" :: indentLines (queryMethod name s) 1 4

/-- The text of the module of an entity. -/
def moduleText (a : Artifacts) (settings : Settings) : String :=
  joinLines (headerLines a ++ constantLines a ++ ["", ""] ++ classLines a settings ++ [""])

end SqlMapping.Render
