import Mathlib.Data.List.Nodup
import SqlMapping.Entity.Resolve
import SqlMapping.Proofs.Result

/-!
# What resolution establishes

The result of resolution without its log entries. A declared field gives a column exactly when its
type is known and its size within the bound; fields give columns exactly when each of them does and
their names are distinct; and an entity gives a schema exactly when its name is not blank, its
fields give columns, the number of flagged keys is one that the settings accept, and the names of
the entity and of its table are made of characters alone.
-/

namespace SqlMapping

open SqlMapping.Number SqlMapping.Text

namespace FieldDeclaration

/-- The size of a field that is declared with a column type. -/
def settledSize (d : FieldDeclaration) (type : ColumnType) : Option Nat :=
  type.sizing?.map d.effectiveSize

/-- The size of a field is within the bound of a column type. -/
def Fits (d : FieldDeclaration) (type : ColumnType) : Prop :=
  ∀ sizing, type.sizing? = some sizing → d.effectiveSize sizing ≤ sizing.max

/-- The result for a field without a column type. -/
lemma resolve_of_untyped {d : FieldDeclaration} (entity : String) (h : d.columnType = none) :
    (d.resolve entity).result = .error (.mapping ⟨some entity, .missingColumnType d.name⟩) := by
  simp [resolve, h]

/-- The result for a field of a type that takes no size. -/
lemma resolve_of_sizeless {d : FieldDeclaration} {type : ColumnType} (entity : String)
    (h : d.columnType = some type) (hsizing : type.sizing? = none) :
    (d.resolve entity).result = .ok (d.toColumn type none) := by
  simp only [resolve, h, hsizing]
  split
  · rfl
  · rfl
  · rename_i size hsize
    rw [Run.result_bind, warnIgnoredSize]
    split <;> rfl

/-- The result for a field of a type that takes a size. -/
lemma resolve_of_sized {d : FieldDeclaration} {type : ColumnType} {sizing : Sizing}
    (entity : String) (h : d.columnType = some type) (hsizing : type.sizing? = some sizing) :
    (d.resolve entity).result =
      if d.effectiveSize sizing ≤ sizing.max then
        .ok (d.toColumn type (some (d.effectiveSize sizing)))
      else .error (oversize entity d.name (d.effectiveSize sizing) sizing.max) := by
  simp only [resolve, h, hsizing]
  split <;> rfl

/-- A declared field gives a column exactly when its type is known and its size fits. -/
theorem resolve_eq_ok {d : FieldDeclaration} {entity : String} {c : Column} :
    (d.resolve entity).result = .ok c ↔
      ∃ type, d.columnType = some type ∧ d.Fits type ∧
        c = d.toColumn type (d.settledSize type) := by
  cases htype : d.columnType with
  | none => simp [resolve_of_untyped entity htype]
  | some type =>
    cases hsizing : type.sizing? with
    | none =>
      rw [resolve_of_sizeless entity htype hsizing]
      simp [Fits, settledSize, hsizing, eq_comm]
    | some sizing =>
      rw [resolve_of_sized entity htype hsizing]
      by_cases hsize : d.effectiveSize sizing ≤ sizing.max
      · simp [Fits, settledSize, hsizing, hsize, eq_comm]
      · simp [Fits, hsizing, hsize]

end FieldDeclaration

/-- The greatest size of every column type is one that can be written. -/
lemma ColumnType.max_lt_digitCeiling {type : ColumnType} {sizing : Sizing}
    (h : type.sizing? = some sizing) : sizing.max < digitCeiling := by
  have hmax : sizing.max < 10 ^ 5 := by
    cases type <;> simp [ColumnType.sizing?] at h <;> subst h <;> decide
  have hceiling : (10 : Nat) ^ 5 ≤ digitCeiling := Nat.pow_le_pow_right (by decide) (by decide)
  exact Nat.lt_of_lt_of_le hmax hceiling

/-- The column of a declared field. -/
def FieldInput.settle (entity : String) (index : Nat) (item : FieldInput) : Except Failure Column :=
  item.declaration entity index >>= fun d => (d.resolve entity).result

/-- A settled column has no size that is too long to be written. -/
lemma FieldInput.isWritable_of_settle {entity : String} {index : Nat} {item : FieldInput}
    {c : Column} (h : item.settle entity index = .ok c) : c.isWritable = true := by
  obtain ⟨d, -, hd⟩ := bind_eq_ok.mp h
  obtain ⟨type, -, hfits, rfl⟩ := FieldDeclaration.resolve_eq_ok.mp hd
  cases hsizing : type.sizing? with
  | none =>
    simp [Column.isWritable, FieldDeclaration.toColumn, FieldDeclaration.settledSize, hsizing]
  | some sizing =>
    have hsize : d.effectiveSize sizing < digitCeiling :=
      Nat.lt_of_le_of_lt (hfits sizing hsizing) (ColumnType.max_lt_digitCeiling hsizing)
    simpa [Column.isWritable, FieldDeclaration.toColumn, FieldDeclaration.settledSize, hsizing]
      using hsize

/-! ## Columns -/

/-- No field gives no column. -/
lemma resolveColumns_nil (entity : String) (seen : List String) (index : Nat) :
    (resolveColumns entity seen index []).result = .ok [] :=
  rfl

/-- The columns of fields, from the first field on. -/
lemma resolveColumns_cons (entity : String) (seen : List String) (index : Nat) (item : FieldInput)
    (rest : List FieldInput) :
    (resolveColumns entity seen index (item :: rest)).result =
      (item.settle entity index >>= fun c =>
        if c.name ∈ seen then .error (.element (some entity) (.repeatedField c.name))
        else (resolveColumns entity (c.name :: seen) (index + 1) rest).result.map (c :: ·)) := by
  have hdeclared : (Run.ofExcept (item.declaration entity index) : Step FieldDeclaration).result =
      item.declaration entity index := rfl
  rw [resolveColumns, Run.result_bind, hdeclared, FieldInput.settle]
  cases item.declaration entity index with
  | error e => rfl
  | ok d =>
    show ((d.resolve entity) >>= _).result = (d.resolve entity).result >>= _
    rw [Run.result_bind]
    congr 1
    funext c
    by_cases hc : c.name ∈ seen
    · have hcontains : seen.contains c.name = true := List.contains_iff_mem.mpr hc
      rw [if_pos hc, if_pos hcontains]
      rfl
    · have hcontains : ¬seen.contains c.name = true := mt List.contains_iff_mem.mp hc
      rw [if_neg hc, if_neg hcontains, Run.result_bind]
      cases (resolveColumns entity (c.name :: seen) (index + 1) rest).result <;> rfl

/-- Fields give columns exactly when the first field does, under a name that is not taken, and the
others do beside it. -/
lemma resolveColumns_cons_eq_ok {entity : String} {seen : List String} {index : Nat}
    {item : FieldInput} {rest : List FieldInput} {columns : List Column} :
    (resolveColumns entity seen index (item :: rest)).result = .ok columns ↔
      ∃ c others, item.settle entity index = .ok c ∧ c.name ∉ seen ∧
        (resolveColumns entity (c.name :: seen) (index + 1) rest).result = .ok others ∧
        columns = c :: others := by
  rw [resolveColumns_cons, bind_eq_ok]
  constructor
  · rintro ⟨c, hc, h⟩
    by_cases hseen : c.name ∈ seen
    · rw [if_pos hseen] at h
      exact absurd h (by simp)
    · rw [if_neg hseen] at h
      obtain ⟨others, hothers, rfl⟩ := map_eq_ok.mp h
      exact ⟨c, others, hc, hseen, hothers, rfl⟩
  · rintro ⟨c, others, hc, hseen, hothers, rfl⟩
    refine ⟨c, hc, ?_⟩
    rw [if_neg hseen]
    exact map_eq_ok.mpr ⟨others, hothers, rfl⟩

/-- Resolved columns have distinct names, none of them taken before, and sizes that can be
written. -/
theorem resolveColumns_spec {entity : String} {seen : List String} {index : Nat}
    {fields : List FieldInput} {columns : List Column}
    (h : (resolveColumns entity seen index fields).result = .ok columns) :
    (columns.map Column.name).Nodup ∧ (∀ c ∈ columns, c.name ∉ seen) ∧
      ∀ c ∈ columns, c.isWritable = true := by
  induction fields generalizing seen index columns with
  | nil =>
    rw [resolveColumns_nil] at h
    obtain rfl := Except.ok.inj h
    simp
  | cons item rest ih =>
    obtain ⟨c, others, hc, hseen, hothers, rfl⟩ := resolveColumns_cons_eq_ok.mp h
    obtain ⟨hnodup, hfresh, hwritable⟩ := ih hothers
    refine ⟨?_, ?_, ?_⟩
    · rw [List.map_cons, List.nodup_cons]
      refine ⟨fun hmem => ?_, hnodup⟩
      obtain ⟨d, hd, hname⟩ := List.mem_map.mp hmem
      exact hfresh d hd (hname ▸ List.mem_cons_self)
    · intro d hd
      rcases List.mem_cons.mp hd with rfl | hd
      · exact hseen
      · exact fun hmem => hfresh d hd (List.mem_cons_of_mem _ hmem)
    · intro d hd
      rcases List.mem_cons.mp hd with rfl | hd
      · exact FieldInput.isWritable_of_settle hc
      · exact hwritable d hd

/-! ## Keys -/

namespace Schema

/-- The key is a column of the schema. -/
lemma primaryKey_mem (s : Schema) : s.primaryKey ∈ s.columns :=
  List.mem_of_find?_eq_some (Option.some_get _).symm

/-- The key is flagged as primary key. -/
lemma isKey_primaryKey (s : Schema) : s.primaryKey.isKey = true :=
  List.find?_some (p := Column.isKey) (Option.some_get _).symm

/-- The name of the key is the name of a column. -/
lemma primaryKey_name_mem (s : Schema) : s.primaryKey.name ∈ s.columnNames :=
  List.mem_map_of_mem s.primaryKey_mem

/-- The key is the only column of its name. -/
lemma eq_primaryKey_of_name {s : Schema} (hnames : s.columnNames.Nodup) {c : Column}
    (hc : c ∈ s.columns) (hname : c.name = s.primaryKey.name) : c = s.primaryKey :=
  List.inj_on_of_nodup_map hnames hc s.primaryKey_mem hname

/-- The names of the other columns are those of all columns but the key. -/
lemma nonKeyColumns_names {s : Schema} (hnames : s.columnNames.Nodup) :
    s.nonKeyColumns.map Column.name = s.columnNames.erase s.primaryKey.name := by
  rw [hnames.erase_eq_filter, columnNames, List.filter_map]
  rfl

/-- There is one column more than there are columns beside the key. -/
lemma length_nonKeyColumns {s : Schema} (hnames : s.columnNames.Nodup) :
    s.nonKeyColumns.length + 1 = s.columns.length := by
  have hlength : (s.nonKeyColumns.map Column.name).length + 1 = s.columnNames.length := by
    rw [nonKeyColumns_names hnames, List.length_erase_of_mem s.primaryKey_name_mem]
    have hpos : 0 < s.columnNames.length := List.length_pos_of_mem s.primaryKey_name_mem
    omega
  simpa [columnNames] using hlength

/-! ## Schemas -/

/-- The settings accept a number of flagged keys. -/
def AcceptsKeys (settings : Settings) (columns : List Column) : Prop :=
  settings.rejectsSeveralKeys = true → (keyNames columns).length ≤ 1

/-- The result for an entity whose name is blank. -/
lemma resolve_of_blank {entity : String} (table : Option String) (fields : List FieldInput)
    (settings : Settings) (h : isBlankText entity = true) :
    (Schema.resolve entity table fields settings).result =
      .error (.element none .blankEntity) := by
  rw [Schema.resolve, if_pos h, Run.result_bind]
  rfl

/-- A schema takes the names of an entity and of its table: no half of a surrogate pair stands in
them. -/
def TakesNames (entity table : String) : Prop :=
  isWhole entity = true ∧ isWhole table = true

instance (entity table : String) : Decidable (TakesNames entity table) :=
  inferInstanceAs (Decidable (_ ∧ _))

/-- The failure of a schema that does not take the names of an entity and of its table. -/
def refuseNames (entity table : String) : Failure :=
  .escape (.badSchema ⟨recordName, nameProblems entity table⟩)

/-- The names of a schema have no problems exactly when it takes them. -/
lemma nameProblems_eq_nil_iff {entity table : String} :
    nameProblems entity table = [] ↔ TakesNames entity table := by
  simp [nameProblems, TakesNames]

/-- Names that a schema takes pass the check. -/
lemma checkNames_of_takesNames {entity table : String} (h : TakesNames entity table) :
    checkNames entity table = pure () := by
  rw [checkNames, nameProblems_eq_nil_iff.mpr h]
  rfl

/-- Names that a schema does not take stop the settling. -/
lemma checkNames_of_not_takesNames {entity table : String} (h : ¬TakesNames entity table) :
    checkNames entity table = throw (refuseNames entity table) := by
  have hproblems : (nameProblems entity table).isEmpty = false := by
    rw [List.isEmpty_eq_false_iff]
    exact mt nameProblems_eq_nil_iff.mp h
  rw [checkNames, hproblems]
  rfl

/-- The schema of an entity with resolved columns. -/
def settle (entity : String) (table : Option String) (settings : Settings)
    (columns : List Column) : Except Failure Schema :=
  if h : columns.any Column.isKey = true then
    if (keyNames columns).length > 1 ∧ settings.rejectsSeveralKeys = true then
      .error (.mapping ⟨some entity, .multiplePrimaryKeys (keyNames columns)⟩)
    else if TakesNames entity (tableName entity table) then
      .ok ⟨entity, tableName entity table, columns, h⟩
    else .error (refuseNames entity (tableName entity table))
  else .error (.mapping ⟨some entity, .noPrimaryKey entity⟩)

/-- The result for an entity with a name: its columns come first, then its keys are judged. -/
lemma resolve_of_named {entity : String} (table : Option String) (fields : List FieldInput)
    (settings : Settings) (h : ¬isBlankText entity = true) :
    (Schema.resolve entity table fields settings).result =
      (resolveColumns entity [] 0 fields).result >>= settle entity table settings := by
  rw [Schema.resolve, if_neg h, Run.result_bind]
  congr 1
  funext columns
  rw [settle]
  by_cases hkey : columns.any Column.isKey = true
  · have hcheck : ((do
          checkNames entity (tableName entity table)
          return (⟨entity, tableName entity table, columns, hkey⟩ : Schema)) : Step Schema).result =
        if TakesNames entity (tableName entity table) then
          .ok ⟨entity, tableName entity table, columns, hkey⟩
        else .error (refuseNames entity (tableName entity table)) := by
      split_ifs with htakes
      · rw [checkNames_of_takesNames htakes]
        rfl
      · rw [checkNames_of_not_takesNames htakes]
        rfl
    rw [dif_pos hkey, dif_pos hkey]
    by_cases hseveral : (keyNames columns).length > 1
    · by_cases hrejects : settings.rejectsSeveralKeys = true
      · rw [if_pos hseveral, if_pos hrejects, if_pos ⟨hseveral, hrejects⟩, Run.result_bind]
        rfl
      · rw [if_pos hseveral, if_neg hrejects, if_neg fun both => hrejects both.2, Run.result_bind]
        exact hcheck
    · rw [if_neg hseveral, if_neg fun both => hseveral both.1]
      exact hcheck
  · rw [dif_neg hkey, dif_neg hkey]
    rfl

/-- Resolved columns give a schema exactly when the settings accept the flagged keys and the schema
takes its names. -/
lemma settle_eq_ok {entity : String} {table : Option String} {settings : Settings}
    {columns : List Column} {s : Schema} :
    settle entity table settings columns = .ok s ↔
      AcceptsKeys settings columns ∧ TakesNames entity s.table ∧ s.entity = entity ∧
        s.table = tableName entity table ∧ s.columns = columns := by
  rw [settle]
  by_cases hkey : columns.any Column.isKey = true
  · rw [dif_pos hkey]
    by_cases hboth : (keyNames columns).length > 1 ∧ settings.rejectsSeveralKeys = true
    · rw [if_pos hboth]
      have hrefused : ¬AcceptsKeys settings columns := fun h => by
        have hle := h hboth.2
        omega
      simp [hrefused]
    · rw [if_neg hboth]
      have haccepted : AcceptsKeys settings columns := fun h => by
        by_contra hle
        exact hboth ⟨by omega, h⟩
      obtain ⟨entity', table', columns', hkey'⟩ := s
      dsimp only
      by_cases htakes : TakesNames entity (tableName entity table)
      · rw [if_pos htakes, Except.ok.injEq, Schema.mk.injEq]
        constructor
        · rintro ⟨rfl, rfl, rfl⟩
          exact ⟨haccepted, htakes, rfl, rfl, rfl⟩
        · rintro ⟨-, -, hentity, htable, hcolumns⟩
          exact ⟨hentity.symm, htable.symm, hcolumns.symm⟩
      · rw [if_neg htakes]
        refine iff_of_false (by simp) ?_
        rintro ⟨-, htable, -, rfl, -⟩
        exact htakes htable
  · rw [dif_neg hkey]
    have hcolumns : s.columns ≠ columns := fun h => hkey (h ▸ s.hasKey)
    simp [hcolumns]

/-- An entity gives a schema exactly when its name is not blank, its fields give columns, the
settings accept the flagged keys, and the schema takes its names. -/
theorem resolve_eq_ok {entity : String} {table : Option String} {fields : List FieldInput}
    {settings : Settings} {s : Schema} :
    (Schema.resolve entity table fields settings).result = .ok s ↔
      isBlankText entity = false ∧ (resolveColumns entity [] 0 fields).result = .ok s.columns ∧
        AcceptsKeys settings s.columns ∧ TakesNames entity s.table ∧ s.entity = entity ∧
        s.table = tableName entity table := by
  by_cases hblank : isBlankText entity = true
  · rw [resolve_of_blank table fields settings hblank]
    simp [hblank]
  · rw [resolve_of_named table fields settings hblank, bind_eq_ok]
    constructor
    · rintro ⟨columns, hcolumns, hsettle⟩
      obtain ⟨haccepts, htakes, hentity, htable, rfl⟩ := settle_eq_ok.mp hsettle
      exact ⟨by simpa using hblank, hcolumns, haccepts, htakes, hentity, htable⟩
    · rintro ⟨-, hcolumns, haccepts, htakes, hentity, htable⟩
      exact ⟨s.columns, hcolumns, settle_eq_ok.mpr ⟨haccepts, htakes, hentity, htable, rfl⟩⟩

/-- The columns of a resolved schema have distinct names. -/
theorem columnNames_nodup {entity : String} {table : Option String} {fields : List FieldInput}
    {settings : Settings} {s : Schema}
    (h : (Schema.resolve entity table fields settings).result = .ok s) : s.columnNames.Nodup :=
  (resolveColumns_spec (resolve_eq_ok.mp h).2.1).1

/-- The columns of a resolved schema have no size that is too long to be written. -/
theorem isWritable_of_resolve {entity : String} {table : Option String} {fields : List FieldInput}
    {settings : Settings} {s : Schema}
    (h : (Schema.resolve entity table fields settings).result = .ok s) :
    ∀ c ∈ s.columns, c.isWritable = true :=
  (resolveColumns_spec (resolve_eq_ok.mp h).2.1).2.2

end Schema

end SqlMapping
