import SqlMapping.Access.Accessor
import SqlMapping.Proofs.Result

/-!
# The parts of a call

A call of an accessor prepares its statement (`Accessor.prepare`), uses one connection
(`Accessor.use`), and closes (`Accessor.close`): every operation is the run of these three parts
(`run_eq`). The result of a call needs no events: it is what the answers of the database, the
constructor of the entity and the blocks come to one after the other, up to the first fault
(`result_run`).
-/

namespace SqlMapping

namespace Access

/-! ## Calls -/

/-- A call of an accessor. -/
inductive Call where
  /-- Creates the table unless it exists. -/
  | createTable (block : Option Block)
  /-- Inserts an instance. -/
  | insert (instance? : Value)
  /-- Selects the instance of a key. -/
  | selectById (key : Value)
  /-- Selects the instance of the key of the current subject. -/
  | selectSelf
  /-- Updates an instance. -/
  | update (instance? : Value)
  /-- Deletes the row of a key. -/
  | deleteById (key : Value) (block : Block)
  /-- Deletes the row of the key of the current subject. -/
  | deleteSelf (block : Block)
  /-- Runs a query. -/
  | runQuery (name : String) (arguments : List Value) (block : Block)

namespace Call

/-- The block that waits for the release of the connection. -/
def waiting? : Call → Option Block
  | .createTable block => block
  | .deleteById _ block | .deleteSelf block => some block
  | _ => none

/-- The block that runs while the connection is held. -/
def held? : Call → Option Block
  | .runQuery _ _ block => some block
  | _ => none

/-- Whether the number of rows changed is what is read from the reply. -/
def countsRows : Call → Bool
  | .update _ | .deleteById _ _ | .deleteSelf _ => true
  | _ => false

/-- What the caller gets for what is read while the connection is held. -/
def finish : Call → Value → Except Fault Value
  | .createTable (some block), v => do
    let _ ← block v
    return v
  | .deleteById _ block, v | .deleteSelf block, v => do
    let _ ← block v
    return .null
  | _, v => .ok v

end Call

namespace Accessor

/-- The run of a call. -/
def run (a : Accessor) : Call → Action Value
  | .createTable block => a.createTable block
  | .insert instance? => a.insert instance?
  | .selectById key => a.selectById key
  | .selectSelf => a.selectSelf
  | .update instance? => a.update instance?
  | .deleteById key block => a.deleteById key block
  | .deleteSelf block => a.deleteSelf block
  | .runQuery name arguments block => a.runQuery name arguments block

/-- The text and the values of the statement of an operation. -/
def prepareOperation (a : Accessor) (op : Operation) (given : Given) :
    Except Fault (String × List Value) :=
  (a.bindValues (a.artifacts.statement op) given).map ((a.artifacts.statement op).sql, ·)

/-- The text and the values of the statement of a query. -/
def prepareQuery (a : Accessor) (name : String) (arguments : List Value) :
    Except Fault (String × List Value) := do
  let statement ← a.queryStatement name
  if arguments.length != statement.parameterCount then
    throw (Fault.argumentCount name statement.parameterCount arguments.length)
  let values ← a.bindValues statement { arguments }
  return (statement.sql, values)

/-- The text and the values of the statement of a call. -/
def prepare (a : Accessor) : Call → Except Fault (String × List Value)
  | .createTable _ => .ok (a.artifacts.createTable, [])
  | .insert instance? => a.prepareOperation .insert { instance? }
  | .selectById key => a.prepareOperation .selectById { key }
  | .selectSelf => a.prepareOperation .selectSelf {}
  | .update instance? => a.prepareOperation .update { instance? }
  | .deleteById key _ => a.prepareOperation .deleteById { key }
  | .deleteSelf _ => a.prepareOperation .deleteSelf {}
  | .runQuery name arguments _ => a.prepareQuery name arguments

/-- What the database answers to a statement. -/
def reply (a : Accessor) (sql : String) (values : List Value) : Except Fault Reply := do
  let (text, bound) ← a.database.prepare sql values
  a.database.execute text bound

/-- What is read of the row of a reply. -/
def readRow (a : Accessor) (reply : Reply) : Except Fault Value := do
  match ← reply.row with
  | none => return .null
  | some row => a.decode row

/-- What is read while the connection is held. -/
def held (a : Accessor) (sql : String) (values : List Value) : Call → Except Fault Value
  | .createTable _ => do
    let existed ← a.database.tableExists a.artifacts.table
    if !existed then
      let _ ← a.reply sql values
    return .bool existed
  | .insert _ => (a.reply sql values).map fun reply => reply.lastRowKey.getD .null
  | .selectById _ | .selectSelf => a.reply sql values >>= a.readRow
  | .update _ | .deleteById _ _ | .deleteSelf _ => a.reply sql values >>= Reply.rowCount
  | .runQuery _ _ block => a.reply sql values >>= fun reply => block reply.rows

end Accessor

/-! ## The parts of a call -/

/-- What an accessor does while it holds a connection. -/
def Accessor.use (a : Accessor) (sql : String) (values : List Value) : Call → Action Value
  | .createTable _ => do
    let existed ← a.database.askTable a.artifacts.table
    if !existed then
      let _ ← a.database.perform sql values
      logInfo s!"Created table '{a.artifacts.table}'."
    return .bool existed
  | .insert _ => do
    let reply ← a.database.perform sql values
    return reply.lastRowKey.getD .null
  | .selectById _ | .selectSelf => do
    let reply ← a.database.perform sql values
    Run.ofExcept (a.readRow reply)
  | .update _ | .deleteById _ _ | .deleteSelf _ => do
    let reply ← a.database.perform sql values
    Run.ofExcept reply.rowCount
  | .runQuery _ _ block => do
    let reply ← a.database.perform sql values
    runBlock block reply.rows

/-- What an accessor does after it has released a connection. -/
def Accessor.close (a : Accessor) : Call → Value → Action Value
  | .createTable (some block), v => do
    let _ ← runBlock block v
    return v
  | .update _, v => do
    if isNone v then
      logInfo s!"Update of {a.artifacts.entity} affected no rows."
    return v
  | .deleteById _ block, v | .deleteSelf block, v => do
    let _ ← runBlock block v
    return .null
  | _, v => pure v

variable (a : Accessor) (sql : String) (values : List Value) (call : Call)

/-- An operation prepares its statement, and executes it on one connection. -/
lemma onConnection_eq (op : Operation) (given : Given) (body : Reply → Action Value) :
    a.onConnection op given body = (do
      let (sql, values) ← Run.ofExcept (a.prepareOperation op given)
      withConnection (a.database.perform sql values >>= body)) := by
  rw [Accessor.onConnection, Accessor.prepareOperation, Run.ofExcept_map_bind]

/-- A selection reads the row of the reply. -/
lemma select_eq (op : Operation) (given : Given) :
    a.select op given = a.onConnection op given fun reply => Run.ofExcept (a.readRow reply) := by
  rw [Accessor.select]
  congr 1
  funext reply
  rw [Accessor.readRow]
  cases reply.row with
  | error fault => rfl
  | ok row => cases row <;> rfl

/-- The creation of a table asks for it and executes its statement on one connection. -/
lemma createTable_eq (block : Option Block) :
    a.createTable block = (do
      let v ← withConnection (a.use a.artifacts.createTable [] (.createTable block))
      a.close (.createTable block) v) := by
  rw [Accessor.createTable, Accessor.use, Database.askTable]
  cases a.database.tableExists a.artifacts.table with
  | error fault => rfl
  | ok existed =>
    cases existed with
    | true => cases block <;> rfl
    | false =>
      rw [Database.perform]
      cases a.database.prepare a.artifacts.createTable [] with
      | error fault => rfl
      | ok sent =>
        dsimp only
        cases a.database.execute sent.1 sent.2 with
        | error fault => rfl
        | ok reply => cases block <;> rfl

/-- A query finds its statement before it acquires a connection. -/
lemma runQuery_eq (name : String) (arguments : List Value) (block : Block) :
    a.runQuery name arguments block = (do
      let (sql, values) ← Run.ofExcept (a.prepareQuery name arguments)
      withConnection (a.use sql values (.runQuery name arguments block))) := by
  rw [Accessor.runQuery, Accessor.prepareQuery, Run.ofExcept_bind, bind_assoc]
  congr 1
  funext statement
  split_ifs with hcount
  · rfl
  · rw [Run.ofExcept_bind, bind_assoc]
    rfl

/-- A call prepares its statement, uses a connection and closes. -/
lemma run_eq : a.run call = (do
    let (sql, values) ← Run.ofExcept (a.prepare call)
    let v ← withConnection (a.use sql values call)
    a.close call v) := by
  cases call with
  | createTable block => exact createTable_eq a block
  | insert instance? =>
    show a.insert instance? = _
    rw [Accessor.insert, onConnection_eq]
    simp only [Accessor.prepare, Accessor.use, Accessor.close, bind_pure]
  | selectById key =>
    show a.select .selectById { key } = _
    rw [select_eq, onConnection_eq]
    simp only [Accessor.prepare, Accessor.use, Accessor.close, bind_pure]
  | selectSelf =>
    show a.select .selectSelf {} = _
    rw [select_eq, onConnection_eq]
    simp only [Accessor.prepare, Accessor.use, Accessor.close, bind_pure]
  | update instance? =>
    show a.update instance? = _
    rw [Accessor.update, onConnection_eq, bind_assoc]
    rfl
  | deleteById key block =>
    show a.delete .deleteById { key } block = _
    rw [Accessor.delete, onConnection_eq, bind_assoc]
    rfl
  | deleteSelf block =>
    show a.delete .deleteSelf {} block = _
    rw [Accessor.delete, onConnection_eq, bind_assoc]
    rfl
  | runQuery name arguments block =>
    show a.runQuery name arguments block = _
    rw [runQuery_eq]
    simp only [Accessor.prepare, Accessor.close, bind_pure]

/-! ## Results -/

/-- The result of a statement is the reply of the database. -/
lemma result_perform : (a.database.perform sql values).result = a.reply sql values := by
  rw [Database.perform, Accessor.reply]
  cases a.database.prepare sql values <;> rfl

/-- What is read while a connection is held. -/
lemma result_use : (a.use sql values call).result = a.held sql values call := by
  cases call with
  | createTable block =>
    rw [Accessor.use, Accessor.held, Run.result_bind, Database.askTable]
    congr 1
    funext existed
    cases existed with
    | true => rfl
    | false =>
      show (a.database.perform sql values >>= fun _ => _).result = a.reply sql values >>= fun _ => _
      rw [Run.result_bind, result_perform]
      rfl
  | insert instance? =>
    rw [Accessor.use, Accessor.held, Run.result_bind, result_perform]
    cases a.reply sql values <;> rfl
  | _ =>
    rw [Accessor.use, Accessor.held, Run.result_bind, result_perform]
    rfl

/-- What the caller gets after the release. -/
lemma result_close (v : Value) : (a.close call v).result = call.finish v := by
  cases call with
  | createTable block =>
    cases block with
    | none => rfl
    | some block => exact Run.result_bind _ _
  | update instance? =>
    rw [Accessor.close]
    split_ifs <;> rfl
  | deleteById key block | deleteSelf block => exact Run.result_bind _ _
  | _ => rfl

/-- The result of a call is that of its parts. -/
lemma result_run (a : Accessor) (call : Call) : (a.run call).result = (do
    let (sql, values) ← a.prepare call
    let v ← a.held sql values call
    call.finish v) := by
  rw [run_eq, Run.result_bind]
  congr 1
  funext ⟨sql, values⟩
  have hscope : (withConnection (a.use sql values call)).result = a.held sql values call :=
    result_use a sql values call
  rw [Run.result_bind, hscope]
  congr 1
  funext v
  exact result_close a call v

/-- What is read of a reply that counts rows is their number. -/
lemma held_of_countsRows (hcounts : call.countsRows = true) :
    a.held sql values call = a.reply sql values >>= Reply.rowCount := by
  cases call with
  | update instance? | deleteById key block | deleteSelf block => rfl
  | _ => exact absurd hcounts Bool.false_ne_true

end Access

end SqlMapping
