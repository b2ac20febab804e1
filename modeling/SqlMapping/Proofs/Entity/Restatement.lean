import SqlMapping.Proofs.Entity.Acceptance

/-!
# Schemas that are stated again

A column is stated again by a mapping that gives its SQL type text as the type, its other parts as
they are, and no size on its own (`Column.RestatedBy`). The two stages meet in the declaration that
such a mapping stands for (`Column.restatement`): the mapping is read as this declaration, and the
declaration settles as the column and records nothing. So the columns of a schema that is resolved
give the same schema again (`resolve_restated`). A type that takes no size has none to be ignored,
and what may be recorded is that several fields are flagged as primary key.
-/

namespace SqlMapping

open SqlMapping.Number SqlMapping.Shape SqlMapping.Text

/-! ## Columns and their restatements -/

namespace Column

/-- A column as resolution leaves it: with names, and with a size exactly if its type takes one, a
positive one within the bound. -/
structure IsSettled (c : Column) : Prop where
  /-- The column has a name. -/
  name : IsName c.name
  /-- So have the table and the column that it refers to. -/
  reference : ∀ r, c.reference = some r → r.IsNamed
  /-- A type that takes no size has none. -/
  sizeless : c.type.sizing? = none → c.size = none
  /-- A type that takes a size has a positive one within its bound. -/
  sized : ∀ sizing, c.type.sizing? = some sizing →
    ∃ n, c.size = some (Int.ofNat n) ∧ 1 ≤ n ∧ n ≤ sizing.max

/-- The record of the reference of a column, or null. -/
def referenceRecord (c : Column) : Value :=
  (c.reference.map Reference.record).getD .null

/-- A mapping states a column again: it gives the SQL type text as the type, and no size. -/
structure RestatedBy (c : Column) (entries : Entries) : Prop where
  /-- The name is given. -/
  name : Value.get? "name" entries = some (.text c.name)
  /-- The host type is given. -/
  hostType : Value.get? "host_type" entries = some (.text c.hostType)
  /-- The SQL type text is given under a key of the column type. -/
  type : ∃ key, findField FieldDeclaration.typeKeys entries = some (key, .text c.sqlType)
  /-- No size is given on its own. -/
  unsized : FieldDeclaration.IsUnsized entries
  /-- The flag of a key is given. -/
  isKey : Value.get? "primary_key" entries = some (.bool c.isKey)
  /-- The flag of distinct values is given. -/
  isUnique : Value.get? "unique" entries = some (.bool c.isUnique)
  /-- The flag of values that are always there is given. -/
  isNotNull : Value.get? "not_null" entries = some (.bool c.isNotNull)
  /-- The default is given. -/
  default : Value.get? "default" entries = some c.default.record
  /-- The reference is given. -/
  reference : Value.get? "foreign_key" entries = some c.referenceRecord
  /-- Nothing else is given. -/
  keys : surplusKeys FieldDeclaration.fieldKeys entries = []

/-- The declaration of a column, without a size. -/
def unsizedRestatement (c : Column) : FieldDeclaration :=
  { name := c.name
    hostType := c.hostType
    columnType := some c.type
    isKey := c.isKey
    isUnique := c.isUnique
    isNotNull := c.isNotNull
    default := some c.default
    reference := c.reference }

/-- The declaration of a column. -/
def restatement (c : Column) : FieldDeclaration :=
  { c.unsizedRestatement with size := c.size.map Int.toNat }

variable {c : Column} {entries : Entries} {room : Nat}

/-- The record of a reference with names is read back, and so is null. -/
lemma read_referenceRecord (h : ∀ r, c.reference = some r → r.IsNamed) :
    nullable Reference.read c.referenceRecord = .valid c.reference := by
  rw [referenceRecord]
  cases hreference : c.reference with
  | none => rfl
  | some r =>
    have hnull : r.record ≠ .null := by simp [Reference.record]
    exact nullable_eq_valid_some (Reference.read_record (h r hreference)) hnull

/-- A mapping that states a column again shows the parts of the column once the plain name takes the
place of the type text. -/
lemma RestatedBy.readsFrom (h : c.RestatedBy entries) (hsettled : c.IsSettled) {key : String}
    {text : Value} (htype : findField FieldDeclaration.typeKeys entries = some (key, text)) :
    c.unsizedRestatement.ReadsFrom room
      (Value.insertKey (.text key) (.text c.type.name) entries) := by
  -- the key of the type is none of the other fields, which are read as they stand
  have hkey := (get?_of_findField htype).1
  have hother {field : String} (hne : field ∉ FieldDeclaration.typeKeys) : key ∉ [field] :=
    fun hmem => hne (List.mem_singleton.mp hmem ▸ hkey)
  constructor
  · rw [required_insertKey_of_notMem (hother (by decide))]
    exact required_eq_valid (findField_singleton h.name) hsettled.name.readNonEmptyText
  · rw [optional_insertKey_of_notMem (hother (by decide))]
    exact optional_eq_valid (findField_singleton h.hostType) rfl
  · exact optional_eq_valid (FieldDeclaration.findField_insert_type htype)
      (nullable_eq_valid_some (FieldDeclaration.readColumnType_name c.type) (by simp))
  · rw [optional_insertKey_of_notMem (hother (by decide)), Shape.optional, findField_cons]
    rcases h.unsized with hsize | hsize <;> rw [hsize] <;> rfl
  · rw [optional_insertKey_of_notMem (hother (by decide))]
    exact optional_eq_valid (findField_singleton h.isKey) rfl
  · rw [optional_insertKey_of_notMem (hother (by decide))]
    exact optional_eq_valid (findField_singleton h.isUnique) rfl
  · rw [optional_insertKey_of_notMem (hother (by decide))]
    exact optional_eq_valid (findField_singleton h.isNotNull) rfl
  · rw [optional_insertKey_of_notMem (hother (by decide))]
    exact optional_eq_valid (findField_singleton h.default)
      (nullable_eq_valid_some (DefaultValue.read_record room c.default)
        (by simp [DefaultValue.record]))
  · rw [optional_insertKey_of_notMem (hother (by decide))]
    exact optional_eq_valid (findField_singleton h.reference)
      (read_referenceRecord hsettled.reference)
  · have honly : ∀ keys ∈ FieldDeclaration.fieldKeys, ∀ k ∈ FieldDeclaration.typeKeys, k ∈ keys →
        keys = FieldDeclaration.typeKeys := by decide
    refine surplusKeys_insertKey h.keys ⟨_, by decide, hkey⟩ ?_ _
    intro keys hkeys hmem k w hfound
    rw [honly keys hkeys key hkey hmem, htype] at hfound
    exact (Prod.mk.inj (Option.some.inj hfound)).1.symm

/-- A mapping that states a settled column again is read as the declaration of the column. -/
theorem RestatedBy.read (h : c.RestatedBy entries) (hsettled : c.IsSettled) :
    FieldDeclaration.read room (.mapping entries) = .valid c.restatement := by
  obtain ⟨key, htype⟩ := h.type
  have hreads : c.unsizedRestatement.ReadsFrom room
      (Value.insertKey (.text key) (.text c.type.name) entries) := h.readsFrom hsettled htype
  cases hsizing : c.type.sizing? with
  | none =>
    have hsize := hsettled.sizeless hsizing
    rw [sqlType_of_sizeless hsize] at htype
    rw [FieldDeclaration.read_of_name htype, restatement, hsize]
    exact hreads
  | some sizing =>
    obtain ⟨n, hsize, -, hmax⟩ := hsettled.sized sizing hsizing
    have hn : n < digitCeiling := Nat.lt_of_le_of_lt hmax (ColumnType.max_lt_digitCeiling hsizing)
    rw [sqlType_of_sized hsize] at htype
    rw [FieldDeclaration.read_eq_valid_of_sizedName hn htype hreads, restatement, hsize]
    rfl

/-- The column of the declaration of a column is that column. -/
lemma toColumn_restatement {size : Option Nat} (h : c.size = size.map Int.ofNat) :
    c.restatement.toColumn c.type size = c := by
  rw [FieldDeclaration.toColumn, ← h]
  rfl

/-- The declaration of a settled column gives the column and records nothing. -/
theorem IsSettled.resolve_restatement (h : c.IsSettled) (entity : String) :
    c.restatement.resolve entity = pure c := by
  have htype : c.restatement.columnType = some c.type := rfl
  have hsize : c.restatement.size = c.size.map Int.toNat := rfl
  rw [FieldDeclaration.resolve, htype]
  dsimp only
  cases hsizing : c.type.sizing? with
  | none =>
    have hnone := h.sizeless hsizing
    rw [hnone] at hsize
    dsimp only
    rw [hsize]
    exact congrArg pure (toColumn_restatement hnone)
  | some sizing =>
    obtain ⟨n, hn, hpositive, hmax⟩ := h.sized sizing hsizing
    have heffective : c.restatement.effectiveSize sizing = n := by
      rw [FieldDeclaration.effectiveSize_eq, hsize, hn]
      exact if_pos hpositive
    dsimp only
    rw [heffective, if_pos hmax]
    exact congrArg pure (toColumn_restatement hn)

/-- The mapping that states a column again under the usual keys. -/
def restatingEntries (c : Column) : Entries :=
  [(.text "name", .text c.name), (.text "host_type", .text c.hostType),
    (.text "type", .text c.sqlType), (.text "primary_key", .bool c.isKey),
    (.text "unique", .bool c.isUnique), (.text "not_null", .bool c.isNotNull),
    (.text "default", c.default.record), (.text "foreign_key", c.referenceRecord)]

/-- Every column is stated again by a mapping. -/
lemma restatedBy_restatingEntries (c : Column) : c.RestatedBy c.restatingEntries :=
  ⟨rfl, rfl, ⟨"type", rfl⟩, Or.inl rfl, rfl, rfl, rfl, rfl, rfl, rfl⟩

end Column

/-- A column of a declaration with names is settled. -/
lemma FieldDeclaration.SettlesAs.isSettled {d : FieldDeclaration} {c : Column} (h : d.SettlesAs c)
    (hnamed : d.IsNamed) : c.IsSettled := by
  constructor
  · rw [h.name]
    exact hnamed.name
  · rw [h.reference]
    exact hnamed.reference
  · exact h.sizeless
  · intro sizing hsizing
    exact ⟨d.effectiveSize sizing, h.sized sizing hsizing⟩

/-! ## Fields and their schemas -/

/-- A field states a column again, as a mapping or as the declaration that is read from one. -/
def FieldInput.Restates (item : FieldInput) (c : Column) : Prop :=
  ∃ room entries, c.RestatedBy entries ∧ (item = .raw room (.mapping entries) ∨
    ∃ d, FieldDeclaration.read room (.mapping entries) = .valid d ∧ item = .declared d)

/-- A field that states a settled column again stands for the declaration of the column. -/
lemma FieldInput.Restates.declared?_eq {item : FieldInput} {c : Column} (h : item.Restates c)
    (hsettled : c.IsSettled) : item.declared? = some c.restatement := by
  obtain ⟨room, entries, hrestated, hitem⟩ := h
  have hread : FieldDeclaration.read room (.mapping entries) = .valid c.restatement :=
    hrestated.read hsettled
  rcases hitem with rfl | ⟨d, hd, rfl⟩
  · rw [declared?, hread]
  · rw [declared?, Checked.valid.inj (hd.symm.trans hread)]

/-- The fields that state the columns of a schema again under the usual keys. -/
def Schema.restatingFields (room : Nat) (s : Schema) : List FieldInput :=
  s.columns.map fun c => .raw room (.mapping c.restatingEntries)

/-- Every schema is stated again by fields. -/
lemma Schema.restates_restatingFields (room : Nat) (s : Schema) :
    List.Forall₂ FieldInput.Restates (s.restatingFields room) s.columns := by
  rw [restatingFields, List.forall₂_map_left_iff, List.forall₂_same]
  exact fun c _ => ⟨room, c.restatingEntries, c.restatedBy_restatingEntries, Or.inl rfl⟩

/-- Fields that state settled columns again give these columns and record nothing, if the columns
have distinct names that are not taken. -/
theorem resolveColumns_restated {entity : String} {seen : List String} {index : Nat}
    {fields : List FieldInput} {columns : List Column}
    (hfields : List.Forall₂ FieldInput.Restates fields columns)
    (hsettled : ∀ c ∈ columns, c.IsSettled) (hdistinct : (columns.map Column.name).Nodup)
    (hfree : ∀ c ∈ columns, c.name ∉ seen) :
    resolveColumns entity seen index fields = pure columns := by
  induction hfields generalizing seen index with
  | nil => rfl
  | @cons item c rest columns hitem _ ih =>
    rw [List.forall_mem_cons] at hsettled hfree
    rw [List.map_cons, List.nodup_cons] at hdistinct
    have hrest : ∀ c' ∈ columns, c'.name ∉ c.name :: seen := by
      intro c' hc'
      rw [List.mem_cons, not_or]
      exact ⟨fun heq => hdistinct.1 (heq ▸ List.mem_map_of_mem hc'), hfree.2 c' hc'⟩
    have hdeclaration : (Run.ofExcept (item.declaration entity index) : Step FieldDeclaration) =
        pure c.restatement := by
      rw [FieldInput.declaration_eq_ok.mpr (hitem.declared?_eq hsettled.1)]
      rfl
    rw [resolveColumns, hdeclaration, pure_bind, hsettled.1.resolve_restatement, pure_bind,
      if_neg (mt List.contains_iff_mem.mp hfree.1), ih hsettled.2 hdistinct.2 hrest, pure_bind]

/-- What is recorded about the flagged keys of columns. -/
def keyEntries (entity : String) (columns : List Column) : List LogEntry :=
  if 1 < (keyNames columns).length then
    [⟨.warning, .resolution, severalKeysWarning entity (keyNames columns)⟩]
  else []

/-- An entity whose fields give the columns of a schema and record nothing gives this schema and
records its flagged keys. -/
lemma Schema.resolve_eq_of_columns {entity : String} {table : Option String}
    {fields : List FieldInput} {settings : Settings} {s : Schema}
    (hnamed : isBlankText entity = false)
    (hcolumns : resolveColumns entity [] 0 fields = pure s.columns)
    (haccepts : AcceptsKeys settings s.columns) (htakes : TakesNames entity s.table)
    (hentity : s.entity = entity) (htable : s.table = tableName entity table) :
    Schema.resolve entity table fields settings = ⟨.ok s, keyEntries entity s.columns⟩ := by
  obtain ⟨entity', table', columns, hkey⟩ := s
  obtain rfl : entity' = entity := hentity
  obtain rfl : table' = tableName entity' table := htable
  rw [Schema.resolve, hnamed, if_neg Bool.false_ne_true, hcolumns, pure_bind, dif_pos hkey,
    keyEntries, checkNames_of_takesNames htakes]
  dsimp only
  by_cases hseveral : 1 < (keyNames columns).length
  · have hrejects : ¬settings.rejectsSeveralKeys = true := fun h =>
      absurd (haccepts h) (Nat.not_le_of_lt hseveral)
    rw [if_pos hseveral, if_neg hrejects, if_pos hseveral]
    rfl
  · rw [if_neg hseveral, if_neg hseveral]
    rfl

/-- The columns of a schema that is resolved are settled, if the declarations have names that are
not read from untyped data. -/
lemma Schema.isSettled_of_resolve {entity : String} {table : Option String}
    {fields : List FieldInput} {settings : Settings} {s : Schema}
    (hnamed : ∀ d, .declared d ∈ fields → d.IsNamed)
    (h : (Schema.resolve entity table fields settings).result = .ok s) :
    ∀ c ∈ s.columns, c.IsSettled := by
  obtain ⟨-, hresolve, -⟩ := Schema.resolve_eq_ok.mp h
  obtain ⟨⟨declarations, hdeclares, hcolumns⟩, -⟩ := resolveColumns_eq_ok_iff.mp hresolve
  intro c hc
  obtain ⟨d, hsettles, hd⟩ := exists_declaration_of_mem hdeclares hcolumns hc
  exact hsettles.isSettled (hd.elim (hnamed d) id)

/-- An entry is the warning about a size that a type does not take. -/
def LogEntry.IsIgnoredSize (entry : LogEntry) : Prop :=
  ∃ entity field type size,
    entry ∈ (FieldDeclaration.warnIgnoredSize entity field type size).trace

/-- A warning about flagged keys ends with a quoted name, and no number ends with a quote. -/
lemma severalKeysWarning_ne (entity : String) (names : List String) (front : String) (n : Nat) :
    severalKeysWarning entity names ≠ front ++ natText n ++ "." := by
  have hquote : "'.".toList = ['\''] ++ ['.'] := rfl
  have hdigits : (natText n).toList = Nat.toDigits 10 n := String.toList_ofList
  have hnumber : (front ++ natText n ++ ".").toList =
      front.toList ++ Nat.toDigits 10 n ++ ['.'] := by
    rw [String.toList_append, String.toList_append, hdigits]
    rfl
  intro h
  have hlists := congrArg String.toList h
  rw [hnumber, severalKeysWarning, String.toList_append, hquote, ← List.append_assoc] at hlists
  have hlast := congrArg List.getLast? (List.append_cancel_right hlists)
  rw [List.getLast?_concat, List.getLast?_append_of_ne_nil _ Nat.toDigits_ne_nil] at hlast
  have hdigit : ('\'').isDigit = true :=
    Nat.isDigit_of_mem_toDigits (by decide) (by decide) (List.mem_of_getLast? hlast.symm)
  exact absurd hdigit (by decide)

/-- What is recorded about flagged keys is not about a size that is ignored. -/
lemma not_isIgnoredSize_of_mem_keyEntries {entity : String} {columns : List Column}
    {entry : LogEntry} (h : entry ∈ keyEntries entity columns) : ¬entry.IsIgnoredSize := by
  rintro ⟨entity', field, type, size, hignored⟩
  rw [keyEntries] at h
  split_ifs at h
  · obtain rfl := List.mem_singleton.mp h
    rw [FieldDeclaration.warnIgnoredSize] at hignored
    split_ifs at hignored
    · have htext := congrArg LogEntry.text (List.mem_singleton.mp hignored)
      exact severalKeysWarning_ne _ _ _ _ htext
    · exact absurd hignored List.not_mem_nil
  · exact absurd h List.not_mem_nil

/-- **Schemas that are stated again.** Take an entity that is resolved, with names in the
declarations that are not read from untyped data. Fields that state the columns of its schema again,
one after the other, give the same schema, and no size is reported as ignored. -/
theorem resolve_restated {entity : String} {table : Option String} {fields : List FieldInput}
    {settings : Settings} {s : Schema} (hnamed : ∀ d, .declared d ∈ fields → d.IsNamed)
    (h : (Schema.resolve entity table fields settings).result = .ok s)
    {restating : List FieldInput}
    (hrestating : List.Forall₂ FieldInput.Restates restating s.columns) :
    (Schema.resolve entity table restating settings).result = .ok s ∧
      ∀ entry ∈ (Schema.resolve entity table restating settings).trace, ¬entry.IsIgnoredSize := by
  have hsettled := Schema.isSettled_of_resolve hnamed h
  have hdistinct := Schema.columnNames_nodup h
  obtain ⟨hname, -, haccepts, htakes, hentity, htable⟩ := Schema.resolve_eq_ok.mp h
  have hcolumns : resolveColumns entity [] 0 restating = pure s.columns :=
    resolveColumns_restated hrestating hsettled hdistinct fun _ _ => List.not_mem_nil
  rw [Schema.resolve_eq_of_columns hname hcolumns haccepts htakes hentity htable]
  exact ⟨rfl, fun _ => not_isIgnoredSize_of_mem_keyEntries⟩

/-- A field of untyped data, and one that is declared with a size, a default and a reference. -/
def parcelFields : List FieldInput :=
  [.raw 100 (.mapping [(.text "name", .text "id"), (.text "type", .text "bigint"),
    (.text "primary_key", .bool true)]),
   .declared { name := "code", columnType := some .varChar, size := some 50, isUnique := true,
               default := some (.text "none"),
               reference := some { table := "depot", column := "code" } }]

/-- The schema of the two fields. -/
def parcelSchema : Schema where
  entity := "Parcel"
  table := "parcel"
  columns :=
    [{ name := "id", type := .bigInt, isKey := true },
     { name := "code", type := .varChar, size := some 50, isUnique := true,
       default := .text "none", reference := some { table := "depot", column := "code" } }]
  hasKey := rfl

/-- The schema is stated again with the type texts `BIGINT` and `VARCHAR(50)`, and comes back. -/
theorem resolve_restated_parcel :
    parcelSchema.columns.map Column.sqlType = ["BIGINT", "VARCHAR(50)"] ∧
      (Schema.resolve "Parcel" none (parcelSchema.restatingFields 100) {}).result =
        .ok parcelSchema := by
  have hnamed : ∀ d, .declared d ∈ parcelFields → d.IsNamed := by
    intro d hd
    rcases List.mem_cons.mp hd with h | h
    · exact absurd h (by simp)
    · obtain rfl := FieldInput.declared.inj (List.mem_singleton.mp h)
      refine ⟨⟨by decide, by decide⟩, fun r hr => ?_⟩
      obtain rfl := Option.some.inj hr
      exact ⟨⟨by decide, by decide⟩, ⟨by decide, by decide⟩⟩
  have hresolve : (Schema.resolve "Parcel" none parcelFields {}).result = .ok parcelSchema := rfl
  refine ⟨by decide, ?_⟩
  exact (resolve_restated hnamed hresolve (parcelSchema.restates_restatingFields 100)).1

end SqlMapping
