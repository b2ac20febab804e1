import SqlMapping.Proofs.Access.RoundTrip

/-!
# Rows of any shape

A driver may return the values of a row by position, by column name, or both ways at once. All rows
that hold the same values for the columns of a plan are decoded alike: each decoder is applied to
the value of its own column, and the first fault, if there is one, is the fault of the row
(`decodeRow_of_holds`). A row that offers names is not asked for positions, as long as it has a name
for every column; so neither the order of the names nor what else the row holds makes a difference.

Decoding by name gives the same values, each one under the name of its column.
-/

namespace SqlMapping

/-! ## Rows that hold the same values -/

/-- The values of columns by name, in the order of the columns. -/
def nameValues (columns : List Column) (items : List Value) : List (Value × Value) :=
  (columns.map fun c => Value.text c.name).zip items

/-- Entries of a mapping hold values of columns, in any order and among any others. -/
structure HoldsByName (columns : List Column) (items : List Value)
    (entries : List (Value × Value)) : Prop where
  /-- Besides the values of the columns there may be others. -/
  holds : ∃ others, entries.Perm (nameValues columns items ++ others)
  /-- No key stands twice in a mapping. -/
  keys : entries.Pairwise fun e f => e.1.sameKey f.1 = false

/-- A row holds values of columns. -/
inductive Holds (columns : List Column) (items : List Value) : Value → Prop where
  /-- By position alone. -/
  | byPosition {row : Value} (h : row ∈ Access.positionalRows items) : Holds columns items row
  /-- By name alone. -/
  | byName {entries : List (Value × Value)} (h : HoldsByName columns items entries) :
    Holds columns items (.mapping entries)
  /-- By name, and any values by position. -/
  | byEither {entries : List (Value × Value)} (h : HoldsByName columns items entries)
    (others : List Value) : Holds columns items (.row (some entries) others)
  /-- By name, in an attribute of an object. -/
  | byAttribute {entries : List (Value × Value)} (h : HoldsByName columns items entries)
    {attributes : List (String × Value)}
    (hattribute : attributes.lookup "_mapping" = some (.mapping entries)) :
    Holds columns items (.object attributes)

/-- The decoders of columns applied to values in the order of the columns. -/
def decodeItems (columns : List Column) (items : List Value) : Except ReadFault (List Value) :=
  (columns.zip items).mapM fun (c, v) => c.chooseDecoder.1.apply v

/-! ## Looking values up -/

/-- Two texts are the same key exactly when they are the same text. -/
@[simp] lemma sameKey_text (s t : String) : (Value.text s).sameKey (.text t) = (s == t) := rfl

/-- The value of a key that stands in a mapping is found under it. -/
lemma lookup?_of_mem {entries : List (Value × Value)}
    (hkeys : entries.Pairwise fun e f => e.1.sameKey f.1 = false) {key v : Value}
    (hmem : (key, v) ∈ entries) (hself : key.sameKey key = true) :
    Value.lookup? key entries = some v := by
  induction entries with
  | nil => exact absurd hmem List.not_mem_nil
  | cons e entries ih =>
    obtain ⟨hfirst, hrest⟩ := List.pairwise_cons.mp hkeys
    rcases List.mem_cons.mp hmem with rfl | hmem
    · exact if_pos hself
    · have hne : ¬e.1.sameKey key = true := by
        rw [hfirst _ hmem]
        exact Bool.false_ne_true
      rw [Value.lookup?, if_neg hne, ih hrest hmem]

/-- The value of a column is found under its name. -/
lemma HoldsByName.get? {columns : List Column} {items : List Value}
    {entries : List (Value × Value)} (h : HoldsByName columns items entries) {position : Nat}
    {c : Column} {v : Value} (hc : columns[position]? = some c) (hv : items[position]? = some v) :
    Value.get? c.name entries = some v := by
  obtain ⟨others, hperm⟩ := h.holds
  have hmem : (Value.text c.name, v) ∈ nameValues columns items := by
    refine List.mem_iff_getElem?.mpr ⟨position, ?_⟩
    rw [nameValues, List.getElem?_zip_eq_some, List.getElem?_map, hc]
    exact ⟨rfl, hv⟩
  have hentry : (Value.text c.name, v) ∈ entries :=
    hperm.mem_iff.mpr (List.mem_append_left _ hmem)
  exact lookup?_of_mem h.keys hentry (by simp)

/-- In a row that has a name for a column, its step reads the value of that name. -/
lemma lookUp_of_get? {step : DecodeStep} {row v : Value} {entries : List (Value × Value)}
    (hnamed : row.namedValues = .ok (some entries))
    (hget : Value.get? step.column entries = some v) : step.lookUp row = .ok v := by
  rw [DecodeStep.lookUp]
  refine bind_eq_ok.mpr ⟨some entries, hnamed, ?_⟩
  rw [Option.bind_some, hget]
  rfl

/-- The step of a column reads its value in a row of any shape. -/
lemma Holds.lookUp {columns : List Column} {items : List Value} {row : Value}
    (h : Holds columns items row) {position : Nat} {c : Column} {v : Value}
    (hc : columns[position]? = some c) (hv : items[position]? = some v) :
    (c.decodeStep position).lookUp row = .ok v := by
  cases h with
  | byPosition h =>
    rw [Access.lookUp_positional h, Column.position_decodeStep, Value.itemAt, hv]
  | byName h => exact lookUp_of_get? rfl (h.get? hc hv)
  | byEither h others => exact lookUp_of_get? rfl (h.get? hc hv)
  | byAttribute h hattribute =>
    refine lookUp_of_get? ?_ (h.get? hc hv)
    rw [Value.namedValues, hattribute]

/-! ## Decoding -/

/-- The decode plan of columns applies their decoders to the values that its steps read. -/
lemma decodeRow_decodeSteps {columns : List Column} {items : List Value} {row : Value}
    {position : Nat} (hlength : items.length = columns.length)
    (hread : ∀ (place : Nat) (c : Column) (v : Value), columns[place]? = some c →
      items[place]? = some v → (c.decodeStep (position + place)).lookUp row = .ok v) :
    decodeRow (decodeSteps position columns) row = decodeItems columns items := by
  induction columns generalizing items position with
  | nil => rfl
  | cons c columns ih =>
    obtain ⟨v, items, rfl⟩ := List.exists_cons_of_length_eq_add_one hlength
    have hfound : (c.decodeStep position).lookUp row = .ok v := hread 0 c v rfl rfl
    have hfirst : (c.decodeStep position).run row = c.chooseDecoder.1.apply v := by
      rw [Access.run_of_lookUp hfound, Column.decoder_decodeStep]
    have hrest :
        decodeRow (decodeSteps (position + 1) columns) row = decodeItems columns items := by
      refine ih (Nat.succ.inj hlength) fun place d w hd hw => ?_
      rw [Nat.add_assoc, Nat.add_comm 1]
      exact hread (place + 1) d w hd hw
    have hplan : decodeSteps position (c :: columns) =
        c.decodeStep position :: decodeSteps (position + 1) columns := rfl
    rw [hplan, decodeRow, decodeItems, List.mapM_cons, List.zip_cons_cons, List.mapM_cons, hfirst]
    rw [decodeRow, decodeItems] at hrest
    rw [hrest]

/-- A row of any shape is decoded by the values that it holds. -/
lemma decodeRow_of_holds {columns : List Column} {items : List Value} {row : Value}
    (hlength : items.length = columns.length) (h : Holds columns items row) :
    decodeRow (decodeSteps 0 columns) row = decodeItems columns items := by
  refine decodeRow_decodeSteps hlength fun place c v hc hv => ?_
  rw [Nat.zero_add]
  exact h.lookUp hc hv

/-- There is one decoded value for each column. -/
lemma length_of_decodeItems {columns : List Column} {items values : List Value}
    (hlength : items.length = columns.length) (h : decodeItems columns items = .ok values) :
    values.length = columns.length := by
  rw [← (mapM_eq_ok.mp h).length_eq, List.length_zip, hlength, Nat.min_self]

/-! ## Decoding by name -/

/-- The value of a new key is put behind the others. -/
lemma insertKey_of_forall {entries : List (Value × Value)} {key : Value} (v : Value)
    (h : ∀ e ∈ entries, e.1.sameKey key = false) :
    Value.insertKey key v entries = entries ++ [(key, v)] := by
  induction entries with
  | nil => rfl
  | cons e entries ih =>
    have hne : ¬e.1.sameKey key = true := by
      rw [h e List.mem_cons_self]
      exact Bool.false_ne_true
    rw [Value.insertKey, if_neg hne, ih fun f hf => h f (List.mem_cons_of_mem _ hf),
      List.cons_append]

/-- The values of steps with distinct columns are put one behind the other. -/
lemma foldl_insertKey {pairs : List (DecodeStep × Value)} {entries : List (Value × Value)}
    (hcolumns : (pairs.map fun p => p.1.column).Nodup)
    (hnew : ∀ e ∈ entries, ∀ p ∈ pairs, e.1.sameKey (.text p.1.column) = false) :
    pairs.foldl (fun entries (step, v) => Value.insertKey (.text step.column) v entries) entries =
      entries ++ pairs.map fun p => (.text p.1.column, p.2) := by
  induction pairs generalizing entries with
  | nil => simp
  | cons p pairs ih =>
    obtain ⟨step, v⟩ := p
    obtain ⟨hfirst, hrest⟩ := List.nodup_cons.mp hcolumns
    have hput : Value.insertKey (.text step.column) v entries =
        entries ++ [(.text step.column, v)] :=
      insertKey_of_forall v fun e he => hnew e he (step, v) List.mem_cons_self
    have hnew' : ∀ e ∈ entries ++ [(Value.text step.column, v)], ∀ q ∈ pairs,
        e.1.sameKey (.text q.1.column) = false := by
      intro e he q hq
      rcases List.mem_append.mp he with he | he
      · exact hnew e he q (List.mem_cons_of_mem _ hq)
      · rw [List.mem_singleton.mp he, sameKey_text, beq_eq_false_iff_ne]
        exact fun heq => hfirst (List.mem_map.mpr ⟨q, hq, heq.symm⟩)
    rw [List.foldl_cons]
    dsimp only
    rw [hput, ih hrest hnew', List.append_assoc]
    rfl

/-- Decoding by name gives the decoded values, each one under the name of its column. -/
lemma decodeRowByName_decodeSteps {columns : List Column}
    (hnames : (columns.map Column.name).Nodup) (row : Value) :
    decodeRowByName (decodeSteps 0 columns) row =
      (decodeRow (decodeSteps 0 columns) row).map (nameValues columns) := by
  have hlength : (decodeSteps 0 columns).length = columns.length := by
    rw [decodeSteps, List.length_map, List.length_zipIdx]
  rw [decodeRowByName]
  cases hdecode : decodeRow (decodeSteps 0 columns) row with
  | error fault => rfl
  | ok values =>
    have hvalues : values.length = columns.length := by
      rw [← (mapM_eq_ok.mp hdecode).length_eq, hlength]
    have hfst : ((decodeSteps 0 columns).zip values).map Prod.fst = decodeSteps 0 columns :=
      List.map_fst_zip (by rw [hlength, hvalues])
    have hcolumns : (((decodeSteps 0 columns).zip values).map fun p => p.1.column) =
        columns.map Column.name := by
      rw [← map_column_decodeSteps 0 columns]
      conv_rhs => rw [← hfst, List.map_map]
      rfl
    have hentries : (((decodeSteps 0 columns).zip values).map fun p =>
        (Value.text p.1.column, p.2)) = nameValues columns values := by
      have hnamed : (columns.map fun c => Value.text c.name) =
          (decodeSteps 0 columns).map fun step => Value.text step.column := by
        have hmap := congrArg (List.map Value.text) (map_column_decodeSteps 0 columns)
        rw [List.map_map, List.map_map] at hmap
        exact hmap.symm
      rw [nameValues, hnamed, List.zip_map_left]
      rfl
    have hnone : ∀ e ∈ ([] : List (Value × Value)), ∀ p ∈ (decodeSteps 0 columns).zip values,
        e.1.sameKey (.text p.1.column) = false :=
      fun e he => absurd he List.not_mem_nil
    have hput := foldl_insertKey (hcolumns ▸ hnames) hnone
    rw [List.nil_append, hentries] at hput
    exact congrArg Except.ok hput

/-! ## The shape of a row -/

/-- **The shape of a row does not matter.** Take columns with distinct names, a plan that decodes
them, and a value for each of them. Whether a row holds the values by position or by name, in
whatever order and among whatever others, the outcome of decoding it is that of the decoders applied
to the values in the order of the columns: the same values or the same fault. Decoding by name gives
these values under the names of the columns, with one entry for each column. -/
theorem decodeRow_shape {entity : String} {rejectsUntyped : Bool} {columns : List Column}
    {plan : List DecodeStep} {items : List Value}
    (hplan : (planDecode entity rejectsUntyped 0 columns).result = .ok plan)
    (hnames : (columns.map Column.name).Nodup) (hlength : items.length = columns.length) :
    decodeRow plan (.list items) = decodeItems columns items ∧
      (∀ row, Holds columns items row →
        decodeRow plan row = decodeRow plan (.list items) ∧
        decodeRowByName plan row = (decodeRow plan (.list items)).map (nameValues columns)) ∧
      ∀ values, decodeRow plan (.list items) = .ok values →
        (nameValues columns values).map Prod.fst = columns.map (fun c => Value.text c.name) ∧
        (nameValues columns values).map Prod.snd = values := by
  rw [eq_decodeSteps_of_planDecode hplan]
  have hlist : decodeRow (decodeSteps 0 columns) (.list items) = decodeItems columns items :=
    decodeRow_of_holds hlength (.byPosition List.mem_cons_self)
  rw [hlist]
  refine ⟨rfl, fun row hrow => ?_, fun values hvalues => ?_⟩
  · rw [decodeRowByName_decodeSteps hnames, decodeRow_of_holds hlength hrow]
    exact ⟨rfl, rfl⟩
  · have hsize := length_of_decodeItems hlength hvalues
    exact ⟨List.map_fst_zip (by rw [List.length_map, hsize]),
      List.map_snd_zip (by rw [List.length_map, hsize])⟩

/-- A title and a number. -/
def numberedColumns : List Column :=
  [{ name := "title", hostType := "str", type := .text },
   { name := "number", hostType := "int", type := .int }]

/-- A value for each of them. -/
def numberedItems : List Value :=
  [.bytes .mutable [0x61], .text " 7 "]

/-- The values by name, the number first and a value of another key in between. -/
def numberedEntries : List (Value × Value) :=
  [(.text "number", .text " 7 "), (.int 0, .null), (.text "title", .bytes .mutable [0x61])]

/-- A row that holds its values by name in another order than by position, where one is missing. -/
theorem decodeRow_shape_reordered :
    ∃ plan, (planDecode "Note" true 0 numberedColumns).result = .ok plan ∧
      (numberedColumns.map Column.name).Nodup ∧
      numberedItems.length = numberedColumns.length ∧
      Holds numberedColumns numberedItems (.row (some numberedEntries) [.null]) ∧
      decodeRow plan (.row (some numberedEntries) [.null]) = .ok [.text "a", .int 7] ∧
      decodeRowByName plan (.row (some numberedEntries) [.null]) =
        .ok [(.text "title", .text "a"), (.text "number", .int 7)] := by
  have hnames : (numberedColumns.map Column.name).Nodup := by decide
  have hlength : numberedItems.length = numberedColumns.length := rfl
  have hperm : numberedEntries.Perm
      (nameValues numberedColumns numberedItems ++ [(.int 0, .null)]) :=
    List.perm_append_singleton (Value.text "title", Value.bytes .mutable [0x61])
      [(Value.text "number", Value.text " 7 "), (Value.int 0, Value.null)]
  have hholds : Holds numberedColumns numberedItems (.row (some numberedEntries) [.null]) :=
    .byEither ⟨⟨_, hperm⟩, by decide⟩ [.null]
  obtain ⟨plan, hplan⟩ : ∃ plan, (planDecode "Note" true 0 numberedColumns).result = .ok plan :=
    ⟨_, rfl⟩
  obtain ⟨hlist, hshape, -⟩ := decodeRow_shape hplan hnames hlength
  obtain ⟨hrow, hbyName⟩ := hshape _ hholds
  have hitems : decodeItems numberedColumns numberedItems = .ok [.text "a", .int 7] := rfl
  rw [hlist, hitems] at hrow hbyName
  exact ⟨plan, hplan, hnames, hlength, hholds, hrow, hbyName⟩

end SqlMapping
