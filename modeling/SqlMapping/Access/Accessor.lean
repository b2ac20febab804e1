import SqlMapping.Access.Database
import SqlMapping.Decode.Row
import SqlMapping.Entity.Artifacts

/-!
# Access to the rows of an entity

An operation first finds its statement and binds the values, and only then acquires a connection.
The connection is released before the caller learns how many rows are changed, or whether the table
was there; the result of a query is handed to the caller while the connection is held.
-/

namespace SqlMapping

open SqlMapping.Number SqlMapping.Text

/-- The value of a field of a mapping or of an object. -/
def Value.field (v : Value) (name : String) : Except ReadFault Value :=
  match v with
  | .mapping entries =>
    match Value.get? name entries with
    | some v => .ok v
    | none => .error (.missingKey (quote name))
  | .object attributes =>
    match attributes.lookup name with
    | some v => .ok v
    | none => .error .missingAttribute
  | _ => .error .missingAttribute

namespace Access

/-- A block of the caller. -/
abbrev Block := Value → Except Fault Value

/-- Runs a block. -/
def runBlock (block : Block) (v : Value) : Action Value :=
  ⟨block v, [.block v]⟩

/-- The values that an operation may bind. -/
structure Given where
  /-- The entity instance. -/
  instance? : Value := .null
  /-- The key. -/
  key : Value := .null
  /-- The arguments of a query. -/
  arguments : List Value := []

/-- The access to the rows of one entity. -/
structure Accessor where
  /-- The artifacts of the entity. -/
  artifacts : Artifacts
  /-- The database. -/
  database : Database
  /-- Makes an instance of the values of its fields. -/
  construct : List Value → Except Fault Value
  /-- The current subject; null when there is none. -/
  subject : Value := .null

namespace Accessor

/-- The key of the current subject. -/
def subjectKey (a : Accessor) : Except Fault Value :=
  match a.subject with
  | .null => .error (.noSubject a.artifacts.entity a.artifacts.key)
  | v => (v.field a.artifacts.key).mapError .unread

/-- The value of one binding. -/
def bindOne (a : Accessor) (given : Given) (b : Binding) : Except Fault Value :=
  match b.source with
  | .field => (given.instance?.field b.name).mapError .unread
  | .id => .ok given.key
  | .subject => a.subjectKey
  | .argument =>
    match given.arguments[b.position - 1]? with
    | some v => .ok v
    | none => .error (.unread .missingPosition)

/-- The values of the placeholders of a statement, in their order. -/
def bindValues (a : Accessor) (s : Statement) (given : Given) : Except Fault (List Value) :=
  s.bindings.mapM (a.bindOne given)

/-- Finds the values of an operation, then executes its statement on one connection and reads the
reply with `body`. -/
def onConnection {α : Type} (a : Accessor) (op : Operation) (given : Given)
    (body : Reply → Action α) : Action α := do
  let statement := a.artifacts.statement op
  let values ← Run.ofExcept (a.bindValues statement given)
  withConnection do
    let reply ← a.database.perform statement.sql values
    body reply

/-- Creates the table unless it exists, and returns whether it existed already. -/
def createTable (a : Accessor) (block : Option Block) : Action Value := do
  let existed ← withConnection do
    let existed ← a.database.askTable a.artifacts.table
    if !existed then
      let _ ← a.database.perform a.artifacts.createTable []
      logInfo s!"Created table '{a.artifacts.table}'."
    return existed
  if let some block := block then
    let _ ← runBlock block (.bool existed)
  return .bool existed

/-- Inserts an instance without its key, and returns the key of the new row if it is known. -/
def insert (a : Accessor) (instance? : Value) : Action Value :=
  a.onConnection .insert { instance? } fun reply => pure (reply.lastRowKey.getD .null)

/-- The instance of a row. -/
def decode (a : Accessor) (row : Value) : Except Fault Value := do
  let values ← (decodeRow a.artifacts.decodePlan row).mapError .unread
  a.construct values

/-- Selects the instance of a key, or null. -/
def select (a : Accessor) (op : Operation) (given : Given) : Action Value :=
  a.onConnection op given fun reply => do
    match ← Run.ofExcept reply.row with
    | none => return .null
    | some row => Run.ofExcept (a.decode row)

/-- Selects the instance of a given key. -/
def selectById (a : Accessor) (key : Value) : Action Value :=
  a.select .selectById { key }

/-- Selects the instance of the key of the current subject. -/
def selectSelf (a : Accessor) : Action Value :=
  a.select .selectSelf {}

/-- Whether a number of rows is zero. -/
def isNone (count : Value) : Bool :=
  count.keyNumber? == some 0

/-- Updates every column of an instance, and returns the number of rows changed. -/
def update (a : Accessor) (instance? : Value) : Action Value := do
  let affected ← a.onConnection .update { instance? } fun reply => Run.ofExcept reply.rowCount
  if isNone affected then
    logInfo s!"Update of {a.artifacts.entity} affected no rows."
  return affected

/-- Deletes a row, and hands the number of rows deleted to a block. -/
def delete (a : Accessor) (op : Operation) (given : Given) (block : Block) : Action Value := do
  let affected ← a.onConnection op given fun reply => Run.ofExcept reply.rowCount
  let _ ← runBlock block affected
  return .null

/-- Deletes the row of a given key. -/
def deleteById (a : Accessor) (key : Value) (block : Block) : Action Value :=
  a.delete .deleteById { key } block

/-- Deletes the row of the key of the current subject. -/
def deleteSelf (a : Accessor) (block : Block) : Action Value :=
  a.delete .deleteSelf {} block

/-- The statement of a query. -/
def queryStatement (a : Accessor) (name : String) : Except Fault Statement :=
  match a.artifacts.query? name with
  | some statement => .ok statement
  | none => .error (.noQuery (a.artifacts.noQueryMessage name))

/-- Runs a query, and hands the reply to a block while the connection is held. -/
def runQuery (a : Accessor) (name : String) (arguments : List Value) (block : Block) :
    Action Value := do
  let statement ← Run.ofExcept (a.queryStatement name)
  if arguments.length != statement.parameterCount then
    throw (Fault.argumentCount name statement.parameterCount arguments.length)
  let values ← Run.ofExcept (a.bindValues statement { arguments })
  withConnection do
    let reply ← a.database.perform statement.sql values
    runBlock block reply.rows

end Accessor

end Access

end SqlMapping
