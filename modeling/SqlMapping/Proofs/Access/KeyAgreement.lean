import SqlMapping.Proofs.Access.RoundTrip
import SqlMapping.Proofs.Entity.Acceptance
import SqlMapping.Proofs.Statement.TableText

/-!
# One key and one order of columns

Each artifact of an entity finds the key and the order of the columns on its own: the statement that
creates the table looks at the flag and at the name of a column, an insert at its name alone, an
update lists everything and then the key, and a decode plan counts places. This module proves that
they choose the same (`KeysAgree`), also where several fields are flagged: the first flagged field
is the key everywhere, and the other flagged fields are columns like any other.

The agreement is one with the declared fields, not with the schema that stands between these and the
artifacts. What an insert does therefore does not depend on the key of an instance.
-/

namespace SqlMapping.Access

open SqlMapping.Sql

/-! ## What agrees with a declaration -/

/-- The names of declared fields, in their order. -/
def fieldNames (declarations : List FieldDeclaration) : List String :=
  declarations.map FieldDeclaration.name

/-- The declared fields with another name than the key. -/
def fieldsBeside (key : String) (declarations : List FieldDeclaration) : List FieldDeclaration :=
  declarations.filter fun d => d.name != key

/-- The clause of a column says what is declared of the field, and has the constraint of the key
exactly when the field has its name. -/
structure ClauseOf (key : String) (d : FieldDeclaration) (c : ColumnShape) : Prop where
  /-- The column has the name of the field. -/
  name : c.name = d.name
  /-- The column is the key if the field is. -/
  isPrimary : c.isPrimary = decide (d.name = key)
  /-- The column has distinct values if the field is declared so. -/
  isUnique : c.isUnique = d.isUnique
  /-- The column always has a value if the field is declared so. -/
  isNotNull : c.isNotNull = d.isNotNull

/-- A statement creates a table with one column for each declared field. -/
structure CreatesFields (declarations : List FieldDeclaration) (key : String) (ts : List Token)
    (table : TableShape) : Prop where
  /-- The statement says what the table is. -/
  read : readTable? ts = some table
  /-- Every clause of the statement is that of a column or of a reference. -/
  length : (clauses ts).length = table.columns.length + table.references.length
  /-- The columns are the declared fields, in their order. -/
  columns : List.Forall₂ (ClauseOf key) declarations table.columns
  /-- One clause has the constraint of the key, and it is the one of the key. -/
  primary : (table.columns.filter ColumnShape.isPrimary).map ColumnShape.name = [key]

/-- A binding takes the value of a declared field. -/
structure BindsField (d : FieldDeclaration) (b : Binding) : Prop where
  /-- The binding has the name of the field. -/
  name : b.name = d.name
  /-- The value is read from the instance. -/
  source : b.source = .field
  /-- The value is of the type of the field. -/
  hostType : b.hostType = d.hostType

/-- Two instances have the same fields beside the key. -/
def AgreeBeside (key : String) (declarations : List FieldDeclaration) (x y : Value) : Prop :=
  ∀ d ∈ fieldsBeside key declarations, x.field d.name = y.field d.name

/-- The artifacts of declared fields, one of which is the key, have the order of these fields and
designate this key. -/
structure KeysAgree (declarations : List FieldDeclaration) (k : FieldDeclaration)
    (a : Artifacts) : Prop where
  /-- No other field has the name of the key. -/
  distinct : (fieldNames declarations).Nodup
  /-- The artifacts name the key. -/
  key : a.key = k.name
  /-- The table has the columns in their order, with the constraint of the key on the key alone. -/
  create : ∃ table, CreatesFields declarations k.name (tokens a.createTable) table
  /-- The plan decodes the columns in their order, each at its own position. -/
  plan : (a.decodePlan.map fun step => (step.column, step.position)) =
    (fieldNames declarations).zipIdx
  /-- A select lists the columns in their order, and looks for the key. -/
  select : ∀ op ∈ [Operation.selectById, .selectSelf], tokens (a.statement op).sql =
    selectTokens a.table (fieldNames declarations) k.name
  /-- An update sets the columns in their order, and looks for the key. -/
  update : tokens (a.statement .update).sql =
    updateTokens a.table (fieldNames declarations) k.name
  /-- A delete looks for the key. -/
  delete : ∀ op ∈ [Operation.deleteById, .deleteSelf], tokens (a.statement op).sql =
    deleteTokens a.table k.name
  /-- An insert lists the columns beside the key in their order. -/
  insert : tokens (a.statement .insert).sql =
    insertTokens a.table (fieldNames (fieldsBeside k.name declarations))
  /-- A select and a delete by a given key bind the key alone. -/
  bindsGiven : ∀ op ∈ [Operation.selectById, .deleteById], (a.statement op).bindings =
    [⟨1, k.name, .id, k.hostType⟩]
  /-- A select and a delete of the current subject bind the key alone. -/
  bindsSubject : ∀ op ∈ [Operation.selectSelf, .deleteSelf], (a.statement op).bindings =
    [⟨1, k.name, .subject, k.hostType⟩]
  /-- An update binds the fields in their order, and then the key. -/
  bindsUpdate : ∃ bindings, List.Forall₂ BindsField declarations bindings ∧
    (a.statement .update).bindings =
      bindings ++ [⟨declarations.length + 1, k.name, .field, k.hostType⟩]
  /-- An insert binds the fields beside the key in their order. -/
  bindsInsert : List.Forall₂ BindsField (fieldsBeside k.name declarations)
    (a.statement .insert).bindings
  /-- An insert does the same for two instances that have the same fields beside the key, whether or
  not they have a value for the key. -/
  inserts : ∀ accessor : Accessor, accessor.artifacts = a → ∀ x y : Value,
    AgreeBeside k.name declarations x y → accessor.insert x = accessor.insert y

/-! ## Fields and their columns -/

section Columns

variable {declarations : List FieldDeclaration} {columns : List Column}

/-- The first flagged column is that of the first flagged field. -/
lemma find_isKey_of_settlesAs
    (h : List.Forall₂ FieldDeclaration.SettlesAs declarations columns) {c : Column}
    (hc : columns.find? Column.isKey = some c) :
    ∃ d, declarations.find? FieldDeclaration.isKey = some d ∧ d.SettlesAs c := by
  induction h with
  | nil => exact absurd hc (by simp)
  | @cons d c' _ _ hfirst _ ih =>
    by_cases hkey : c'.isKey = true
    · have hflagged : d.isKey = true := hfirst.isKey ▸ hkey
      rw [List.find?_cons_of_pos hkey] at hc
      obtain rfl := Option.some.inj hc
      exact ⟨d, List.find?_cons_of_pos hflagged, hfirst⟩
    · have hplain : ¬d.isKey = true := hfirst.isKey ▸ hkey
      rw [List.find?_cons_of_neg hkey] at hc
      obtain ⟨d', hd', hsettles⟩ := ih hc
      exact ⟨d', (List.find?_cons_of_neg hplain).trans hd', hsettles⟩

/-- The bindings of columns are those of the fields. -/
lemma bindsField_fieldBindings (position : Nat)
    (h : List.Forall₂ FieldDeclaration.SettlesAs declarations columns) :
    List.Forall₂ BindsField declarations (Schema.fieldBindings position columns) := by
  induction h generalizing position with
  | nil => exact .nil
  | cons hfirst _ ih =>
    rw [Schema.fieldBindings]
    exact .cons ⟨hfirst.name, rfl, hfirst.hostType⟩ (ih (position + 1))

end Columns

section Schema

variable {s : Schema} {declarations : List FieldDeclaration} {k : FieldDeclaration}

/-- The columns beside the key are those of the fields beside it. -/
lemma settlesAs_nonKeyColumns (hkey : k.SettlesAs s.primaryKey)
    (h : List.Forall₂ FieldDeclaration.SettlesAs declarations s.columns) :
    List.Forall₂ FieldDeclaration.SettlesAs (fieldsBeside k.name declarations)
      s.nonKeyColumns := by
  unfold fieldsBeside Schema.nonKeyColumns
  refine List.rel_filter ?_ h
  intro d c hsettles
  show (d.name != k.name) = true ↔ (c.name != s.primaryKey.name) = true
  rw [hsettles.name, hkey.name]

/-- The binding of the key has the name and the type of the field. -/
lemma keyBinding_of_settlesAs (hkey : k.SettlesAs s.primaryKey) (source : BindSource)
    (position : Nat) :
    s.keyBinding source position = ⟨position, k.name, source, k.hostType⟩ := by
  unfold Schema.keyBinding
  rw [hkey.name, hkey.hostType]

end Schema

/-- The steps of a plan stand at the places of their columns. -/
lemma map_place_decodeSteps (position : Nat) (columns : List Column) :
    ((decodeSteps position columns).map fun step => (step.column, step.position)) =
      (columns.map Column.name).zipIdx position := by
  unfold decodeSteps
  rw [List.map_map, List.zipIdx_map]
  apply List.map_congr_left
  rintro ⟨c, place⟩ -
  exact Prod.ext (Column.column_decodeStep c place) (Column.position_decodeStep c place)

/-! ## The table -/

/-- In a resolved schema the clause of a field says what is declared of it. -/
lemma clauseOf_columnShape {s : Schema} (hnames : s.columnNames.Nodup)
    {declarations : List FieldDeclaration}
    (h : List.Forall₂ FieldDeclaration.SettlesAs declarations s.columns) :
    List.Forall₂ (ClauseOf s.primaryKey.name) declarations (s.columns.map (columnShape s)) := by
  -- the clause is chosen by the column, while a declaration can only be told by its name
  have hbyName : s.columns.map (columnShape s) = s.columns.map fun c =>
      { columnShape s c with isPrimary := decide (c.name = s.primaryKey.name) } := by
    apply List.map_congr_left
    intro c hc
    have hiff : c = s.primaryKey ↔ c.name = s.primaryKey.name :=
      ⟨congrArg Column.name, Schema.eq_primaryKey_of_name hnames hc⟩
    unfold columnShape
    rw [decide_eq_decide.mpr hiff]
  rw [hbyName, List.forall₂_map_right_iff]
  refine h.imp ?_
  intro d c hsettles
  have hname := hsettles.name
  refine ⟨hname, ?_, hsettles.isUnique, hsettles.isNotNull⟩
  show decide (c.name = _) = _
  rw [hname]

/-- In a resolved schema the key is the only column with the constraint of the key. -/
lemma filter_isPrimary {s : Schema} (hnames : s.columnNames.Nodup) :
    ((s.columns.map (columnShape s)).filter ColumnShape.isPrimary).map ColumnShape.name =
      [s.primaryKey.name] := by
  have hcolumns : s.columns.Nodup := List.Nodup.of_map Column.name hnames
  have hprimary : (ColumnShape.isPrimary ∘ columnShape s) = fun c => c == s.primaryKey := by
    funext c
    exact (beq_eq_decide c s.primaryKey).symm
  rw [List.filter_map, hprimary, List.filter_beq,
    List.count_eq_one_of_mem hcolumns s.primaryKey_mem]
  rfl

/-- The statement that creates the table of a resolved schema creates the declared fields. -/
lemma createsFields_of_createTable {s : Schema} {text : String} (hnames : s.columnNames.Nodup)
    {declarations : List FieldDeclaration}
    (h : List.Forall₂ FieldDeclaration.SettlesAs declarations s.columns)
    (htext : s.createTable = .ok text) :
    CreatesFields declarations s.primaryKey.name (tokens text) (tableShape s) := by
  refine ⟨readTable_createTable hnames htext, ?_, clauseOf_columnShape hnames h,
    filter_isPrimary hnames⟩
  rw [tokens_createTable htext, clauses_createTokens]
  simp [clauseTokens, tableShape]

/-! ## Inserting -/

/-- Bindings that take fields have the same values for instances that have the same fields. -/
lemma bindValues_congr (accessor : Accessor) {st : Statement} {x y : Value}
    (hfields : ∀ b ∈ st.bindings, b.source = .field ∧ x.field b.name = y.field b.name) :
    accessor.bindValues st { instance? := x } = accessor.bindValues st { instance? := y } := by
  unfold Accessor.bindValues
  apply mapM_congr
  intro b hb
  obtain ⟨hsource, hvalue⟩ := hfields b hb
  unfold Accessor.bindOne
  rw [hsource, hvalue]

/-- An insert that binds the fields beside a key does not depend on the key. -/
lemma insert_congr {accessor : Accessor} {declarations : List FieldDeclaration} {x y : Value}
    (hbinds : List.Forall₂ BindsField declarations
      (accessor.artifacts.statement .insert).bindings)
    (hagree : ∀ d ∈ declarations, x.field d.name = y.field d.name) :
    accessor.insert x = accessor.insert y := by
  have hvalues : accessor.bindValues (accessor.artifacts.statement .insert) { instance? := x } =
      accessor.bindValues (accessor.artifacts.statement .insert) { instance? := y } := by
    apply bindValues_congr
    intro b hb
    obtain ⟨d, hd, hbind⟩ := exists_of_mem_right hbinds hb
    rw [hbind.name]
    exact ⟨hbind.source, hagree d hd⟩
  unfold Accessor.insert Accessor.onConnection
  dsimp only
  rw [hvalues]

/-! ## The agreement -/

/-- **One key and one order.** Whatever fields are resolved, with any number of them flagged and
wherever the flagged ones stand, everything that is generated designates the first flagged field as
the key and has the order of the fields. -/
theorem keysAgree_of_generate {entity : String} {table : Option String} {fields : List FieldInput}
    {settings settings' : Settings} {queries : List Query} {s : Schema} {a : Artifacts}
    (hresolve : (Schema.resolve entity table fields settings).result = .ok s)
    (hgenerate : (s.generate queries settings').result = .ok a) :
    ∃ declarations k, Declares fields declarations ∧
      declarations.find? FieldDeclaration.isKey = some k ∧ KeysAgree declarations k a := by
  obtain ⟨declarations, hdeclares, -, hkeeps⟩ := mappable_of_resolve hresolve
  obtain ⟨hkey, hstatement, hcreate, hplan⟩ := Schema.generate_spec hgenerate
  obtain ⟨-, htable⟩ := Schema.generate_names hgenerate
  have hcolumns := hkeeps.columns
  have hnames := Schema.columnNames_nodup hresolve
  have hfound : s.columns.find? Column.isKey = some s.primaryKey := (Option.some_get _).symm
  obtain ⟨k, hk, hsettles⟩ := find_isKey_of_settlesAs hcolumns hfound
  have hkeyName : s.primaryKey.name = k.name := hsettles.name
  have horder : s.columnNames = fieldNames declarations := map_name_of_settlesAs hcolumns
  have hlength : s.columns.length = declarations.length := hcolumns.length_eq.symm
  have hbeside := settlesAs_nonKeyColumns hsettles hcolumns
  have hbinding := keyBinding_of_settlesAs hsettles
  have hinsert : List.Forall₂ BindsField (fieldsBeside k.name declarations)
      (a.statement .insert).bindings := by
    rw [hstatement]
    exact bindsField_fieldBindings 1 hbeside
  refine ⟨declarations, k, hdeclares, hk, ?_⟩
  constructor
  case distinct => exact horder ▸ hnames
  case key => exact hkey.trans hkeyName
  case create =>
    rw [← hkeyName]
    exact ⟨tableShape s, createsFields_of_createTable hnames hcolumns hcreate⟩
  case plan =>
    rw [hplan, map_place_decodeSteps, ← horder, Schema.columnNames]
  case select =>
    rw [hstatement, htable, ← horder, ← hkeyName]
    intro op hop
    fin_cases hop
    · exact tokens_select s
    · exact tokens_select s
  case update =>
    rw [hstatement, htable, ← horder, ← hkeyName]
    exact tokens_update s
  case delete =>
    rw [hstatement, htable, ← hkeyName]
    intro op hop
    fin_cases hop
    · exact tokens_delete s
    · exact tokens_delete s
  case insert =>
    have hlisted : s.nonKeyColumns.map Column.name =
        fieldNames (fieldsBeside k.name declarations) := map_name_of_settlesAs hbeside
    rw [hstatement, htable, ← hlisted]
    exact tokens_insert s
  case bindsGiven =>
    rw [hstatement, ← hbinding]
    intro op hop
    fin_cases hop <;> rfl
  case bindsSubject =>
    rw [hstatement, ← hbinding]
    intro op hop
    fin_cases hop <;> rfl
  case bindsUpdate =>
    refine ⟨Schema.fieldBindings 1 s.columns, bindsField_fieldBindings 1 hcolumns, ?_⟩
    rw [hstatement, ← hbinding, ← hlength]
    rfl
  case bindsInsert => exact hinsert
  case inserts =>
    rintro accessor rfl x y hagree
    exact insert_congr hinsert hagree

/-- Fields of which two are flagged, and none of these comes first. -/
def twoKeyFields : List FieldInput :=
  [.declared { name := "title", hostType := "str", columnType := some .text },
   .declared { name := "id", hostType := "int", columnType := some .int, isKey := true },
   .declared
    { name := "code", hostType := "str", columnType := some .text, isKey := true,
      isUnique := true, isNotNull := true }]

/-- The schema of these fields. -/
def twoKeys : Schema :=
  { entity := "Note"
    table := "notes"
    columns :=
      [{ name := "title", hostType := "str", type := .text },
       { name := "id", hostType := "int", type := .int, isKey := true },
       { name := "code", hostType := "str", type := .text, isKey := true, isUnique := true,
         isNotNull := true }]
    hasKey := rfl }

/-- What is generated for two flagged fields has the first one of them as the key. -/
theorem keysAgree_twoKeys :
    ∃ a declarations k,
      (Schema.resolve "Note" (some "notes") twoKeyFields
        { rejectsSeveralKeys := false }).result = .ok twoKeys ∧
      (twoKeys.generate [] {}).result = .ok a ∧ a.key = "id" ∧
      Declares twoKeyFields declarations ∧
      declarations.find? FieldDeclaration.isKey = some k ∧ KeysAgree declarations k a := by
  have hresolve : (Schema.resolve "Note" (some "notes") twoKeyFields
      { rejectsSeveralKeys := false }).result = .ok twoKeys := rfl
  obtain ⟨a, hgenerate⟩ : ∃ a, (twoKeys.generate [] {}).result = .ok a := ⟨_, rfl⟩
  obtain ⟨hkey, -⟩ := Schema.generate_spec hgenerate
  obtain ⟨declarations, k, hdeclares, hk, hagree⟩ := keysAgree_of_generate hresolve hgenerate
  exact ⟨a, declarations, k, hresolve, hgenerate, hkey, hdeclares, hk, hagree⟩

end SqlMapping.Access
