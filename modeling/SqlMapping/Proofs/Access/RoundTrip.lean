import SqlMapping.Access.Accessor
import SqlMapping.Proofs.Entity.Generated
import SqlMapping.Proofs.Statement.BindingPlan

/-!
# Inserting and selecting

An insert leaves the key out, wherever it stands among the columns, while a select and the decoding
of its rows go by position over all columns. The two fit together: the values that an insert binds,
with the key beside them, come back from a select in the order of the columns, each in its own
place.

The columns of the stored row and of the selected one are read off the statements: the former are
the names of the bindings, and the latter are the names that the text lists in front of `FROM`.
-/

namespace SqlMapping.Access

open SqlMapping.Sql

/-! ## Stored and selected rows -/

/-- The columns that a select lists. -/
def selectedColumns (sql : String) : List String :=
  ((tokens sql).takeWhile (· != .word "FROM")).filterMap Token.name?

/-- A row as it is stored: the bound values by column name, and the key. -/
def storedRow (bindings : List Binding) (values : List Value) (key : String) (k : Value) :
    List (String × Value) :=
  (bindings.map Binding.name).zip values ++ [(key, k)]

/-- The values of columns of a stored row, if it has all of them. -/
def project (stored : List (String × Value)) (columns : List String) : Option (List Value) :=
  columns.mapM fun column => stored.lookup column

/-- The rows that offer values by position alone. -/
def positionalRows (items : List Value) : List Value :=
  [.list items, .tuple items, .row none items]

/-- The value of a column: a given one for the key, and that of the field for any other column. -/
def slot (key : String) (k : Value) (value : String → Value) (column : String) : Value :=
  if column = key then k else value column

/-- The columns that the select statements list are those of the schema. -/
lemma selectedColumns_selectText (s : Schema) : selectedColumns s.selectText = s.columnNames := by
  have hfrom : ∀ t ∈ .word "SELECT" :: nameTokens s.columnNames,
      (t != Token.word "FROM") = true := by
    intro t ht
    rcases List.mem_cons.mp ht with rfl | ht
    · decide
    · rw [bne_iff_ne]
      rintro rfl
      exact notMem_nameTokens (by decide) rfl _ ht
  rw [selectedColumns, tokens_select, selectTokens, List.append_assoc,
    List.takeWhile_append_of_pos hfrom]
  have hstop : ([Token.word "FROM", Token.name s.table] ++
      conditionTokens s.primaryKey.name).takeWhile (· != Token.word "FROM") = [] :=
    rfl
  rw [hstop, List.append_nil, List.filterMap_cons_none rfl, filterMap_nameTokens]

/-- The values that an insert binds are those of the fields. -/
lemma bindValues_insert {a : Accessor} {s : Schema} {given : Given} {value : String → Value}
    (h : ∀ c ∈ s.nonKeyColumns, given.instance?.field c.name = .ok (value c.name)) :
    a.bindValues s.insert given = .ok (s.insert.bindings.map fun b => value b.name) := by
  have hfields : ∀ {position : Nat} {columns : List Column},
      (∀ c ∈ columns, given.instance?.field c.name = .ok (value c.name)) →
        ∀ b ∈ Schema.fieldBindings position columns,
          a.bindOne given b = .ok (value b.name) := by
    intro position columns hcolumns
    induction columns generalizing position with
    | nil => exact fun b hb => absurd hb List.not_mem_nil
    | cons c rest ih =>
      intro b hb
      rcases List.mem_cons.mp hb with rfl | hb
      · show (given.instance?.field c.name).mapError _ = _
        rw [hcolumns c List.mem_cons_self]
        rfl
      · exact ih (fun d hd => hcolumns d (List.mem_cons_of_mem _ hd)) b hb
  exact mapM_eq_pure (hfields h)

/-- A value is found under its name among values by name. -/
lemma lookup_map_of_mem {names : List String} (value : String → Value) {name : String}
    (h : name ∈ names) : (names.map fun n => (n, value n)).lookup name = some (value name) := by
  induction names with
  | nil => exact absurd h List.not_mem_nil
  | cons first names ih =>
    rw [List.map_cons, List.lookup_cons]
    by_cases hfirst : name = first
    · rw [hfirst, beq_self_eq_true]
    · have hne : (name == first) = false := beq_eq_false_iff_ne.mpr hfirst
      rw [hne]
      exact ih ((List.mem_cons.mp h).resolve_left hfirst)

/-- The stored row of an insert holds the value of every column. -/
lemma lookup_storedRow {s : Schema} (hnames : s.columnNames.Nodup) (k : Value)
    (value : String → Value) {column : String} (hcolumn : column ∈ s.columnNames) :
    (storedRow s.insert.bindings (s.insert.bindings.map fun b => value b.name) s.primaryKey.name
      k).lookup column = some (slot s.primaryKey.name k value column) := by
  have hbound : s.insert.bindings.map Binding.name = s.columnNames.erase s.primaryKey.name := by
    rw [← Schema.nonKeyColumns_names hnames]
    exact map_name_fieldBindings 1 s.nonKeyColumns
  have hstored : storedRow s.insert.bindings (s.insert.bindings.map fun b => value b.name)
      s.primaryKey.name k = ((s.columnNames.erase s.primaryKey.name).map fun n => (n, value n)) ++
        [(s.primaryKey.name, k)] := by
    rw [storedRow, ← hbound, List.zip_map', List.map_map]
    rfl
  -- the bindings leave the key out, so it is found behind them
  rw [hstored, List.lookup_append, slot]
  by_cases hkey : column = s.primaryKey.name
  · have hmissing : ((s.columnNames.erase s.primaryKey.name).map fun n => (n, value n)).lookup
        column = none := by
      rw [List.lookup_eq_none_iff]
      intro entry hentry
      obtain ⟨name, hname, rfl⟩ := List.mem_map.mp hentry
      rw [bne_iff_ne, hkey]
      exact fun heq => hnames.not_mem_erase (heq ▸ hname)
    rw [hmissing, if_pos hkey, hkey, Option.none_or, List.lookup_cons_self]
  · have hmem : column ∈ s.columnNames.erase s.primaryKey.name :=
      (hnames.mem_erase_iff).mpr ⟨hkey, hcolumn⟩
    rw [lookup_map_of_mem value hmem, if_neg hkey]
    rfl

/-! ## Decoding by position -/

/-- In a row without names a step reads the value at its position. -/
lemma lookUp_positional {step : DecodeStep} {row : Value} {items : List Value}
    (h : row ∈ positionalRows items) : step.lookUp row = Value.itemAt items step.position := by
  simp only [positionalRows, List.mem_cons, List.not_mem_nil, or_false] at h
  rcases h with rfl | rfl | rfl <;> rfl

/-- A step decodes the value that it finds. -/
lemma run_of_lookUp {step : DecodeStep} {row v : Value} (h : step.lookUp row = .ok v) :
    step.run row = step.decoder.apply v := by
  rw [DecodeStep.run, h]
  rfl

/-- A decoder keeps null, besides the values that it maps to themselves. -/
lemma apply_of_kept {d : Decoder} {v : Value} (h : v = .null ∨ d.apply v = .ok v) :
    d.apply v = .ok v := by
  rcases h with rfl | h
  · rfl
  · exact h

/-- A row that holds a value for each column, each of which the decoder of its column keeps, is
decoded to these values. -/
lemma decodeRow_positional {columns : List Column} {value : String → Value} {row : Value}
    (hrow : row ∈ positionalRows (columns.map fun c => value c.name))
    (hkept : ∀ c ∈ columns, c.chooseDecoder.1.apply (value c.name) = .ok (value c.name)) :
    decodeRow (decodeSteps 0 columns) row = .ok (columns.map fun c => value c.name) := by
  have hstep : ∀ step ∈ decodeSteps 0 columns, step.run row = .ok (value step.column) := by
    intro step hmem
    obtain ⟨⟨c, place⟩, hplace, rfl⟩ := List.mem_map.mp hmem
    have hget : columns[place]? = some c := List.mem_zipIdx_iff_getElem?.mp hplace
    have hfound : (c.decodeStep place).lookUp row = .ok (value c.name) := by
      rw [lookUp_positional hrow, Column.position_decodeStep, Value.itemAt, List.getElem?_map, hget]
      rfl
    rw [run_of_lookUp hfound, Column.decoder_decodeStep, Column.column_decodeStep]
    exact hkept c (List.mem_of_getElem? hget)
  have hvalues : (decodeSteps 0 columns).map (fun step => value step.column) =
      columns.map fun c => value c.name := by
    rw [decodeSteps, List.map_map]
    conv_rhs => rw [← List.zipIdx_map_fst 0 columns, List.map_map]
    rfl
  rw [← hvalues]
  exact mapM_eq_pure hstep

/-! ## The round trip -/

/-- **Insert, then select.** Take a resolved schema and what is generated for it, an instance whose
fields are null or have values that the planned decoders map to themselves, and a key that its
decoder maps to itself. The values that the insert binds, stored under the names of their bindings
with the key beside them, project onto the columns of a select, and a positional row of these is
decoded to the values of the fields in the order of the columns, with the key in its own place. So
the constructor is called with every value in the place of its field. -/
theorem decode_insert_select {entity : String} {table : Option String} {fields : List FieldInput}
    {settings settings' : Settings} {queries : List Query} {s : Schema} {a : Accessor}
    {op : Operation} {instance? k : Value} {value : String → Value}
    (hresolve : (Schema.resolve entity table fields settings).result = .ok s)
    (hgenerate : (s.generate queries settings').result = .ok a.artifacts)
    (hop : op = .selectById ∨ op = .selectSelf)
    (hfields : ∀ step ∈ a.artifacts.decodePlan, step.column ≠ a.artifacts.key →
      instance?.field step.column = .ok (value step.column) ∧
        (value step.column = .null ∨
          step.decoder.apply (value step.column) = .ok (value step.column)))
    (hkey : ∀ step ∈ a.artifacts.decodePlan, step.column = a.artifacts.key →
      step.decoder.apply k = .ok k) :
    ∃ values items,
      a.bindValues (a.artifacts.statement .insert) { instance? } = .ok values ∧
      project
        (storedRow (a.artifacts.statement .insert).bindings values a.artifacts.key k)
        (selectedColumns (a.artifacts.statement op).sql) = some items ∧
      ∀ row ∈ positionalRows items,
        decodeRow a.artifacts.decodePlan row =
          .ok (s.columnNames.map (slot a.artifacts.key k value)) ∧
        a.decode row = a.construct (s.columnNames.map (slot a.artifacts.key k value)) := by
  obtain ⟨hname, hstatement, -, hplan⟩ := Schema.generate_spec hgenerate
  have hnames := Schema.columnNames_nodup hresolve
  rw [hplan, hname] at hfields hkey
  have hfield : ∀ c ∈ s.nonKeyColumns, instance?.field c.name = .ok (value c.name) := by
    intro c hc
    obtain ⟨hmem, hne⟩ := List.mem_filter.mp hc
    obtain ⟨position, hstep⟩ := exists_decodeStep hmem
    have hgiven := hfields _ hstep
    rw [Column.column_decodeStep] at hgiven
    exact (hgiven (bne_iff_ne.mp hne)).1
  have hkept : ∀ c ∈ s.columns, c.chooseDecoder.1.apply (slot s.primaryKey.name k value c.name) =
      .ok (slot s.primaryKey.name k value c.name) := by
    intro c hc
    obtain ⟨position, hstep⟩ := exists_decodeStep hc
    have hgiven := hfields _ hstep
    have hgiven' := hkey _ hstep
    rw [Column.column_decodeStep, Column.decoder_decodeStep] at hgiven hgiven'
    rw [slot]
    by_cases hc' : c.name = s.primaryKey.name
    · rw [if_pos hc']
      exact hgiven' hc'
    · rw [if_neg hc']
      exact apply_of_kept (hgiven hc').2
  have hselected : selectedColumns (s.statement op).sql = s.columnNames := by
    rcases hop with rfl | rfl <;> exact selectedColumns_selectText s
  have hprojected : project (storedRow s.insert.bindings
      (s.insert.bindings.map fun b => value b.name) s.primaryKey.name k) s.columnNames =
        some (s.columnNames.map (slot s.primaryKey.name k value)) :=
    mapM_eq_pure fun column hcolumn => lookup_storedRow hnames k value hcolumn
  rw [hstatement, hname, hplan, hselected]
  refine ⟨_, _, bindValues_insert hfield, hprojected, fun row hrow => ?_⟩
  rw [Schema.columnNames, List.map_map] at hrow ⊢
  have hdecoded := decodeRow_positional hrow hkept
  refine ⟨hdecoded, ?_⟩
  rw [Accessor.decode, hplan, hdecoded]
  rfl

/-- Fields with the key between the others. -/
def keyInsideFields : List FieldInput :=
  [.declared { name := "ti`tle?", hostType := "str", columnType := some .text },
   .declared { name := "id", hostType := "int", columnType := some .int, isKey := true },
   .declared { name := "FROM", hostType := "bool", columnType := some .bool }]

/-- The schema of these fields. -/
def keyInside : Schema :=
  { entity := "Note"
    table := "notes"
    columns :=
      [{ name := "ti`tle?", hostType := "str", type := .text },
       { name := "id", hostType := "int", type := .int, isKey := true },
       { name := "FROM", hostType := "bool", type := .bool }]
    hasKey := rfl }

/-- The values of the fields of an instance. -/
def keyInsideValue (name : String) : Value :=
  if name = "FROM" then .null else .text "it's"

/-- The round trip through a table whose key stands between the other columns, one of which is null.
-/
theorem decode_insert_select_keyInside :
    ∃ a : Accessor,
      (Schema.resolve "Note" (some "notes") keyInsideFields {}).result = .ok keyInside ∧
      (keyInside.generate [] {}).result = .ok a.artifacts ∧
      ∃ values items,
        a.bindValues (a.artifacts.statement .insert)
          { instance? := .object [("FROM", .null), ("ti`tle?", .text "it's")] } = .ok values ∧
        project (storedRow (a.artifacts.statement .insert).bindings values a.artifacts.key (.int 7))
          (selectedColumns (a.artifacts.statement .selectSelf).sql) = some items ∧
        ∀ row ∈ positionalRows items,
          decodeRow a.artifacts.decodePlan row =
            .ok (keyInside.columnNames.map (slot a.artifacts.key (.int 7) keyInsideValue)) ∧
          a.decode row = a.construct
            (keyInside.columnNames.map (slot a.artifacts.key (.int 7) keyInsideValue)) := by
  have hresolve :
      (Schema.resolve "Note" (some "notes") keyInsideFields {}).result = .ok keyInside := rfl
  obtain ⟨artifacts, hgenerate⟩ : ∃ artifacts, (keyInside.generate [] {}).result = .ok artifacts :=
    ⟨_, rfl⟩
  obtain ⟨hkey, -, -, hplan⟩ := Schema.generate_spec hgenerate
  have hsteps : decodeSteps 0 keyInside.columns =
      [⟨0, "ti`tle?", "str", "TEXT", .string, false⟩, ⟨1, "id", "int", "INT", .int, false⟩,
       ⟨2, "FROM", "bool", "BOOL", .boolean, false⟩] := by decide
  have hid : artifacts.key = "id" := hkey
  rw [hsteps] at hplan
  refine ⟨⟨artifacts, ⟨none, fun _ => .ok true, fun _ _ => .error .noRowCount⟩,
    fun _ => .ok .null, .null⟩, hresolve, hgenerate, ?_⟩
  refine decode_insert_select hresolve hgenerate (Or.inr rfl) ?_ ?_
  · intro step hstep hne
    rw [hplan] at hstep
    fin_cases hstep
    · exact ⟨rfl, Or.inr rfl⟩
    · exact absurd hid.symm hne
    · exact ⟨rfl, Or.inl rfl⟩
  · intro step hstep heq
    rw [hplan] at hstep
    fin_cases hstep
    · exact absurd (heq.trans hid) (by decide)
    · rfl
    · exact absurd (heq.trans hid) (by decide)

end SqlMapping.Access
