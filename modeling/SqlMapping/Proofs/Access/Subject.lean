import SqlMapping.Proofs.Access.Call
import SqlMapping.Proofs.Access.RoundTrip

/-!
# The current subject

A row is selected or deleted either by a key that is given or by the key of the current subject. The
statements of the two calls are generated apart, and they bind values of different sources; but they
have the same text, and the values are the same if the subject has the key. The rest of the calls
only depends on the text and the values, so the two calls are the same run: they acquire, execute
and release the same, give the same to a block, and come to the same (`run_forSubject`).

Without a current subject, or with one that has no key, there are no values, and a call ends before
it acquires a connection.
-/

namespace SqlMapping.Access

/-- What is done with the row of a key. -/
inductive KeyedCall where
  /-- The row is selected. -/
  | select
  /-- The row is deleted, and a block is given the number of rows deleted. -/
  | delete (block : Block)

namespace KeyedCall

/-- The call with the key of the current subject. -/
def forSubject : KeyedCall → Call
  | select => .selectSelf
  | delete block => .deleteSelf block

/-- The call with a given key. -/
def forKey (key : Value) : KeyedCall → Call
  | select => .selectById key
  | delete block => .deleteById key block

/-- The text of the statement. -/
def text (s : Schema) : KeyedCall → String
  | select => s.selectText
  | delete _ => s.deleteText

end KeyedCall

variable {a : Accessor} {s : Schema} (call : KeyedCall)

/-! ## The key -/

/-- A key that can be read from the current subject is the key of the subject. -/
lemma subjectKey_of_field_eq_ok {key : Value} (h : a.subject.field a.artifacts.key = .ok key) :
    a.subjectKey = .ok key := by
  unfold Accessor.subjectKey
  split
  · next hnull =>
    rw [hnull] at h
    exact absurd h (by simp [Value.field])
  · rw [h]
    rfl

/-- A key that cannot be read from the current subject is no key. -/
lemma subjectKey_of_field_eq_error {fault : ReadFault} (hsubject : a.subject ≠ .null)
    (h : a.subject.field a.artifacts.key = .error fault) :
    a.subjectKey = .error (.unread fault) := by
  unfold Accessor.subjectKey
  split
  · next hnull => exact absurd hnull hsubject
  · rw [h]
    rfl

/-- Without a current subject there is no key. -/
lemma subjectKey_of_null (hsubject : a.subject = .null) :
    a.subjectKey = .error (.noSubject a.artifacts.entity a.artifacts.key) := by
  unfold Accessor.subjectKey
  rw [hsubject]

/-! ## The statement and its values -/

/-- A statement with one binding has one value. -/
lemma prepareOperation_of_statement {op : Operation} {given : Given} {name text : String}
    {b : Binding} (h : a.artifacts.statement op = ⟨name, text, [b]⟩) :
    a.prepareOperation op given = (a.bindOne given b).map fun v => (text, [v]) := by
  rw [Accessor.prepareOperation, Accessor.bindValues, h, List.mapM_cons, List.mapM_nil]
  cases a.bindOne given b <;> rfl

/-- The value of a call for the current subject is the key of the subject. -/
lemma prepare_forSubject (hstatement : a.artifacts.statement = s.statement) :
    a.prepare call.forSubject = a.subjectKey.map fun key => (call.text s, [key]) := by
  cases call with
  | select => exact prepareOperation_of_statement (congrFun hstatement .selectSelf)
  | delete block => exact prepareOperation_of_statement (congrFun hstatement .deleteSelf)

/-- The value of a call for a given key is this key. -/
lemma prepare_forKey (hstatement : a.artifacts.statement = s.statement) (key : Value) :
    a.prepare (call.forKey key) = .ok (call.text s, [key]) := by
  cases call with
  | select => exact prepareOperation_of_statement (congrFun hstatement .selectById)
  | delete block => exact prepareOperation_of_statement (congrFun hstatement .deleteById)

/-! ## The run -/

/-- Two calls that prepare the same, use a connection alike and close alike are the same run. -/
lemma run_congr {first second : Call} (hprepare : a.prepare first = a.prepare second)
    (huse : ∀ sql values, a.use sql values first = a.use sql values second)
    (hclose : ∀ v, a.close first v = a.close second v) : a.run first = a.run second := by
  have hrest : ∀ sent : String × List Value,
      (withConnection (a.use sent.1 sent.2 first) >>= a.close first) =
        withConnection (a.use sent.1 sent.2 second) >>= a.close second := by
    intro sent
    rw [huse, funext hclose]
  rw [run_eq, run_eq, hprepare]
  exact congrArg _ (funext hrest)

/-- A call without values ends before it acquires a connection. -/
lemma run_forSubject_of_error (hstatement : a.artifacts.statement = s.statement) {fault : Fault}
    (hkey : a.subjectKey = .error fault) : a.run call.forSubject = ⟨.error fault, []⟩ := by
  rw [run_eq, prepare_forSubject call hstatement, hkey]
  rfl

/-- **A call for the current subject is the call for its key.** Whatever is generated, whatever the
database answers, and whatever the constructor of the entity and the blocks come to: a select or a
delete of a subject that has a key executes its statement with this key as the only value, and is
the same run as the one for the key. A subject whose key cannot be read, or that is not there at
all, is a fault, and nothing happens. -/
theorem run_forSubject {queries : List Query} {settings : Settings}
    (hgenerate : (s.generate queries settings).result = .ok a.artifacts) (call : KeyedCall) :
    (∀ key, a.subject.field a.artifacts.key = .ok key →
      a.prepare call.forSubject = .ok (call.text s, [key]) ∧
      a.run call.forSubject = a.run (call.forKey key)) ∧
    (∀ fault, a.subject ≠ .null → a.subject.field a.artifacts.key = .error fault →
      a.run call.forSubject = ⟨.error (.unread fault), []⟩) ∧
    (a.subject = .null →
      a.run call.forSubject = ⟨.error (.noSubject s.entity s.primaryKey.name), []⟩) := by
  obtain ⟨hkeyName, hstatement, -, -⟩ := Schema.generate_spec hgenerate
  obtain ⟨hentity, -⟩ := Schema.generate_names hgenerate
  refine ⟨fun key hread => ?_, fun fault hsubject hread => ?_, fun hsubject => ?_⟩
  · have hprepare : a.prepare call.forSubject = .ok (call.text s, [key]) := by
      rw [prepare_forSubject call hstatement, subjectKey_of_field_eq_ok hread]
      rfl
    refine ⟨hprepare, run_congr ?_ ?_ ?_⟩
    · rw [hprepare, prepare_forKey call hstatement]
    · cases call <;> exact fun _ _ => rfl
    · cases call <;> exact fun _ => rfl
  · exact run_forSubject_of_error call hstatement (subjectKey_of_field_eq_error hsubject hread)
  · rw [← hentity, ← hkeyName]
    exact run_forSubject_of_error call hstatement (subjectKey_of_null hsubject)

/-- An accessor with a number for the key of its subject, on a connection that fails. -/
def lockedAccessor (artifacts : Artifacts) (subject : Value) : Accessor :=
  { artifacts
    database :=
      { style := some .numbered
        tableExists := fun _ => .ok true
        execute := fun _ _ => .error (.raised "locked") }
    construct := fun _ => .ok .null
    subject }

/-- A subject with a number for its key. -/
def numberedSubject : Value :=
  .mapping [(.text "id", .int 7)]

/-- The fault of a connection is that of the call for the subject and of the call for its key. -/
theorem run_forSubject_locked :
    ∃ artifacts, (keyInside.generate [] {}).result = .ok artifacts ∧
      numberedSubject.field artifacts.key = .ok (.int 7) ∧
      (lockedAccessor artifacts numberedSubject).run .selectSelf =
        (lockedAccessor artifacts numberedSubject).run (.selectById (.int 7)) ∧
      (lockedAccessor artifacts numberedSubject).run .selectSelf =
        ⟨.error (.raised "locked"),
          [.acquire,
            .execute "SELECT `ti``tle?`, `id`, `FROM` FROM `notes` WHERE `id` = :1"
              (.positional [.int 7]),
            .release (some (.raised "locked"))]⟩ ∧
      (lockedAccessor artifacts (.object [])).run .selectSelf =
        ⟨.error (.unread .missingAttribute), []⟩ ∧
      (lockedAccessor artifacts .null).run .selectSelf = ⟨.error (.noSubject "Note" "id"), []⟩ := by
  obtain ⟨artifacts, hgenerate⟩ : ∃ artifacts, (keyInside.generate [] {}).result = .ok artifacts :=
    ⟨_, rfl⟩
  obtain ⟨hkey, -, -, -⟩ := Schema.generate_spec hgenerate
  have hread : numberedSubject.field artifacts.key = .ok (.int 7) := by
    rw [hkey]
    rfl
  have hnone : (Value.object []).field artifacts.key = .error .missingAttribute := rfl
  obtain ⟨hsubject, -, -⟩ :=
    run_forSubject (a := lockedAccessor artifacts numberedSubject) hgenerate .select
  obtain ⟨-, hunread, -⟩ :=
    run_forSubject (a := lockedAccessor artifacts (.object [])) hgenerate .select
  obtain ⟨-, -, habsent⟩ :=
    run_forSubject (a := lockedAccessor artifacts .null) hgenerate .select
  obtain ⟨hprepare, hrun⟩ := hsubject _ hread
  refine ⟨artifacts, hgenerate, hread, hrun, ?_, hunread _ (by simp [lockedAccessor]) hnone,
    habsent rfl⟩
  show (lockedAccessor artifacts _).run (KeyedCall.forSubject .select) = _
  rw [run_eq, hprepare]
  rfl

end SqlMapping.Access
