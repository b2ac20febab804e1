import SqlMapping.Proofs.Access.Call

/-!
# Connections are held as long as they are needed

`Disciplined` says what the parts of a call have to do with the events that are recorded and with
the result of the call. Nothing happens before the statement is found and its values are bound. Then
one connection is acquired, used and released, whatever the use comes to. A block that waits for the
release does not run after a failure, and the first fault of the three parts is the fault of the
call.

Every call of every accessor is disciplined, whatever the database answers and whatever the
constructor of the entity and the blocks come to (`disciplined`).
-/

namespace SqlMapping

namespace Access

/-! ## Discipline -/

namespace Event

/-- Whether an event acquires or releases connections. -/
def isScope : Event → Bool
  | .acquire | .release _ | .dispose => true
  | _ => false

/-- Whether an event needs a connection. -/
def isUse : Event → Bool
  | .tableExists _ | .execute _ _ => true
  | _ => false

/-- The statement that is executed. -/
def statement? : Event → Option (String × BoundValues)
  | .execute sql values => some (sql, values)
  | _ => none

/-- What a block is given. -/
def block? : Event → Option Value
  | .block v => some v
  | _ => none

end Event

/-- The rows that the block of a call is given while the connection is held. -/
def Accessor.shown (a : Accessor) (sql : String) (values : List Value) (call : Call) :
    List Value :=
  if call.held?.isSome then ((a.reply sql values).toOption.map Reply.rows).toList else []

/-- What happens while a connection is held for a statement. -/
structure HeldEvents (a : Accessor) (call : Call) (sql : String) (values : List Value)
    (events : List Event) : Prop where
  /-- The connection is neither released nor another one acquired. -/
  scope : ∀ e ∈ events, e.isScope = false
  /-- At most one statement is executed. -/
  once : (events.filterMap Event.statement?).length ≤ 1
  /-- A statement that is executed is the one that is prepared, in the style of the driver. -/
  own : ∀ s ∈ events.filterMap Event.statement?, a.database.prepare sql values = .ok s
  /-- The block of a query runs once if the statement has a reply, and no other block does. -/
  blocks : events.filterMap Event.block? = a.shown sql values call

/-- What happens after the release of a connection on which something has been read. -/
structure LaterEvents (call : Call) (read : Except Fault Value) (events : List Event) :
    Prop where
  /-- No connection is needed. -/
  free : ∀ e ∈ events, e.isScope = false ∧ e.isUse = false
  /-- A block that waits for the release runs once if something has been read. -/
  blocks : events.filterMap Event.block? =
    if call.waiting?.isSome then read.toOption.toList else []

/-- The discipline of a call. -/
structure Disciplined (a : Accessor) (call : Call) : Prop where
  /-- Without a statement and its values nothing happens. -/
  unprepared : ∀ fault, a.prepare call = .error fault → a.run call = ⟨.error fault, []⟩
  /-- With a statement and its values one connection is acquired, used and released. -/
  bracketed : ∀ sql values, a.prepare call = .ok (sql, values) → ∃ inside later,
    (a.run call).trace =
      .acquire :: inside ++ .release (faultOf (a.held sql values call)) :: later ∧
    HeldEvents a call sql values inside ∧ LaterEvents call (a.held sql values call) later
  /-- The first fault is the fault of the call. -/
  result : (a.run call).result = (do
    let (sql, values) ← a.prepare call
    let v ← a.held sql values call
    call.finish v)
  /-- Any number of rows is a number of rows. -/
  counted : ∀ sql values reply count, call.countsRows = true →
    a.prepare call = .ok (sql, values) → a.reply sql values = .ok reply →
    reply.rowCount = .ok count → (a.run call).result = call.finish count

/-! ## What happens while a connection is held -/

variable {a : Accessor} {sql : String} {values : List Value} {call : Call}

/-- As long as no statement is executed, no block is given anything. -/
lemma heldEvents_nil (hshown : a.shown sql values call = []) : HeldEvents a call sql values [] :=
  ⟨by simp, Nat.zero_le 1, by simp, hshown.symm⟩

/-- A statement is executed, and a block is given what is there for it. -/
lemma heldEvents_execute {sent : String × BoundValues}
    (hprepare : a.database.prepare sql values = .ok sent) {rows : List Value}
    (hshown : a.shown sql values call = rows) :
    HeldEvents a call sql values (.execute sent.1 sent.2 :: rows.map .block) := by
  have hstatement : (Event.execute sent.1 sent.2 :: rows.map .block).filterMap Event.statement? =
      [sent] := by
    have hnone : (rows.map Event.block).filterMap Event.statement? = [] := by
      simp [Event.statement?]
    exact congrArg (List.cons sent) hnone
  have hblocks : (rows.map Event.block).filterMap Event.block? = rows := by
    simp [List.filterMap_map, Function.comp_def, Event.block?]
  constructor
  · simp [Event.isScope]
  · rw [hstatement]
    exact Nat.le_refl 1
  · rw [hstatement]
    intro s hs
    rw [List.mem_singleton.mp hs, hprepare]
  · exact hblocks.trans hshown.symm

/-- The database may be asked for a table before. -/
lemma HeldEvents.ask {events : List Event} (h : HeldEvents a call sql values events)
    (table : String) : HeldEvents a call sql values (.tableExists table :: events) :=
  ⟨List.forall_mem_cons.mpr ⟨rfl, h.scope⟩, h.once, h.own, h.blocks⟩

/-- A log entry may be written after. -/
lemma HeldEvents.log {events : List Event} (h : HeldEvents a call sql values events)
    (entry : LogEntry) : HeldEvents a call sql values (events ++ [Event.log entry]) := by
  have hstatements : (events ++ [Event.log entry]).filterMap Event.statement? =
      events.filterMap Event.statement? := by
    simp [Event.statement?]
  have hblocks : (events ++ [Event.log entry]).filterMap Event.block? =
      events.filterMap Event.block? := by
    simp [Event.block?]
  refine ⟨fun e he => ?_, ?_, ?_, ?_⟩
  · rcases List.mem_append.mp he with he | he
    · exact h.scope e he
    · rw [List.mem_singleton.mp he]
      rfl
  · rw [hstatements]
    exact h.once
  · rw [hstatements]
    exact h.own
  · rw [hblocks]
    exact h.blocks

/-- A statement is executed at most once, and a block that reads the reply runs after it. -/
lemma heldEvents_perform {read : Reply → Action Value}
    (hread : ∀ reply, (read reply).trace =
      if call.held?.isSome then [.block reply.rows] else []) :
    HeldEvents a call sql values (a.database.perform sql values >>= read).trace := by
  have hperform := result_perform a sql values
  cases hprepare : a.database.prepare sql values with
  | error fault =>
    have hreply : a.reply sql values = .error fault := by
      rw [Accessor.reply, hprepare]
      rfl
    rw [Run.trace_bind_of_error _ (hperform.trans hreply), Database.perform, hprepare]
    refine heldEvents_nil ?_
    rw [Accessor.shown, hreply]
    exact ite_self _
  | ok sent =>
    have htrace : (a.database.perform sql values).trace = [.execute sent.1 sent.2] := by
      rw [Database.perform, hprepare]
    cases hreply : a.reply sql values with
    | error fault =>
      rw [Run.trace_bind_of_error _ (hperform.trans hreply), htrace]
      have hshown : a.shown sql values call = [] := by
        rw [Accessor.shown, hreply]
        exact ite_self _
      exact heldEvents_execute hprepare hshown
    | ok reply =>
      rw [Run.trace_bind_of_ok _ (hperform.trans hreply), htrace, hread]
      have hshown : a.shown sql values call =
          if call.held?.isSome then [reply.rows] else [] := by
        rw [Accessor.shown, hreply]
        rfl
      cases hheld : call.held?.isSome with
      | false =>
        rw [hheld] at hshown
        exact heldEvents_execute hprepare hshown
      | true =>
        rw [hheld] at hshown
        exact heldEvents_execute hprepare hshown

/-- The creation of a table asks for it, and executes its statement if it is not there. -/
lemma heldEvents_createTable (block : Option Block) :
    HeldEvents a (.createTable block) sql values (a.use sql values (.createTable block)).trace := by
  have hnone : HeldEvents a (.createTable block) sql values [] := heldEvents_nil rfl
  rw [Accessor.use, Database.askTable]
  cases a.database.tableExists a.artifacts.table with
  | error fault => exact hnone.ask _
  | ok existed =>
    cases existed with
    | true => exact hnone.ask _
    | false =>
      rw [Database.perform]
      cases hprepare : a.database.prepare sql values with
      | error fault => exact hnone.ask _
      | ok sent =>
        have hsent : HeldEvents a (.createTable block) sql values [.execute sent.1 sent.2] :=
          heldEvents_execute hprepare rfl
        dsimp only
        cases a.database.execute sent.1 sent.2 with
        | error fault => exact hsent.ask _
        | ok reply => exact (hsent.log _).ask _

/-- What happens while a connection is held. -/
lemma heldEvents_use : HeldEvents a call sql values (a.use sql values call).trace := by
  cases call with
  | createTable block => exact heldEvents_createTable block
  | insert instance? => exact heldEvents_perform fun _ => rfl
  | selectById key => exact heldEvents_perform fun _ => rfl
  | selectSelf => exact heldEvents_perform fun _ => rfl
  | update instance? => exact heldEvents_perform fun _ => rfl
  | deleteById key block => exact heldEvents_perform fun _ => rfl
  | deleteSelf block => exact heldEvents_perform fun _ => rfl
  | runQuery name arguments block => exact heldEvents_perform fun _ => rfl

/-! ## What happens after the release -/

/-- Nothing happens after the release when nothing has been read. -/
lemma laterEvents_nil (fault : Fault) : LaterEvents call (.error fault) [] :=
  ⟨by simp, (ite_self _).symm⟩

/-- A block that waits for the release is given what has been read. -/
lemma laterEvents_block {block : Block} (hwaiting : call.waiting? = some block) (v : Value)
    (finish : Value → Action Value) (hfinish : ∀ w, (finish w).trace = []) :
    LaterEvents call (.ok v) (runBlock block v >>= finish).trace := by
  have htrace : (runBlock block v >>= finish).trace = [.block v] := by
    cases hblock : block v with
    | error fault => rw [Run.trace_bind_of_error _ hblock, runBlock]
    | ok w =>
      rw [Run.trace_bind_of_ok _ hblock, hfinish]
      rfl
  rw [htrace]
  refine ⟨by simp [Event.isScope, Event.isUse], ?_⟩
  rw [hwaiting]
  rfl

/-- What happens after the release. -/
lemma laterEvents_close (v : Value) : LaterEvents call (.ok v) (a.close call v).trace := by
  have hnone : call.waiting? = none → LaterEvents call (.ok v) [] := by
    intro hwaiting
    refine ⟨by simp, ?_⟩
    rw [hwaiting]
    rfl
  cases call with
  | createTable block =>
    cases block with
    | none => exact hnone rfl
    | some block => exact laterEvents_block rfl v _ fun _ => rfl
  | update instance? =>
    rw [Accessor.close]
    split_ifs
    · show LaterEvents _ _ [Event.log _]
      exact ⟨by simp [Event.isScope, Event.isUse], rfl⟩
    · exact hnone rfl
  | deleteById key block => exact laterEvents_block rfl v _ fun _ => rfl
  | deleteSelf block => exact laterEvents_block rfl v _ fun _ => rfl
  | _ => exact hnone rfl

/-! ## Every call is disciplined -/

/-- A call with a statement and its values acquires, uses and releases one connection. -/
lemma trace_run (hprepare : a.prepare call = .ok (sql, values)) :
    ∃ inside later,
      (a.run call).trace =
        .acquire :: inside ++ .release (faultOf (a.held sql values call)) :: later ∧
      HeldEvents a call sql values inside ∧ LaterEvents call (a.held sql values call) later := by
  have hscope := result_use a sql values call
  have hrun : a.run call = withConnection (a.use sql values call) >>= a.close call := by
    rw [run_eq, hprepare]
    rfl
  have htrace : (withConnection (a.use sql values call)).trace =
      .acquire :: (a.use sql values call).trace ++
        [.release (faultOf (a.held sql values call))] := by
    rw [← hscope]
    rfl
  cases hheld : a.held sql values call with
  | error fault =>
    have hfails : (withConnection (a.use sql values call)).result = .error fault :=
      hscope.trans hheld
    refine ⟨_, [], ?_, heldEvents_use, laterEvents_nil fault⟩
    rw [hrun, Run.trace_bind_of_error _ hfails, htrace, hheld]
  | ok v =>
    have hreads : (withConnection (a.use sql values call)).result = .ok v := hscope.trans hheld
    refine ⟨_, (a.close call v).trace, ?_, heldEvents_use, laterEvents_close v⟩
    rw [hrun, Run.trace_bind_of_ok _ hreads, htrace, hheld, List.append_assoc,
      List.singleton_append]

/-- **Connections are held as long as they are needed.** Every call of every accessor is
disciplined. -/
theorem disciplined (a : Accessor) (call : Call) : Disciplined a call := by
  constructor
  · intro fault hprepare
    rw [run_eq, hprepare]
    rfl
  · exact fun sql values hprepare => trace_run hprepare
  · exact result_run a call
  · intro sql values reply count hcounts hprepare hreply hcount
    have hheld : a.held sql values call = .ok count := by
      rw [held_of_countsRows a sql values call hcounts, hreply]
      exact hcount
    rw [result_run, hprepare]
    show (a.held sql values call >>= call.finish) = _
    rw [hheld]
    rfl

end Access

end SqlMapping
