import SqlMapping.Proofs.Column.Reading
import SqlMapping.Proofs.Entity.Queries

/-!
# Which entities are mapped

An entity is mapped exactly when its name is not blank, each of its fields is a declaration with a
column type and a size within the bound of that type, the names of the fields are distinct, and the
settings accept the number of flagged keys (`Mappable`). A mapped entity keeps what is declared
(`Keeps`): the columns of its schema are those of its declarations, one after the other, and nothing
that is refused in a schema that is put together from parts is found in it.
-/

namespace SqlMapping

open SqlMapping.Number SqlMapping.Shape SqlMapping.Text

/-! ## Declarations -/

namespace FieldDeclaration

/-- The size of a declaration is the declared one if it is positive, else the one of the type. -/
lemma effectiveSize_eq (d : FieldDeclaration) (sizing : Sizing) :
    d.effectiveSize sizing =
      if 0 < d.size.getD 0 then d.size.getD 0 else sizing.default := by
  rw [effectiveSize]
  split <;> simp_all

/-- The size of a declaration is positive. -/
lemma effectiveSize_pos (d : FieldDeclaration) {type : ColumnType} {sizing : Sizing}
    (h : type.sizing? = some sizing) : 0 < d.effectiveSize sizing := by
  have hdefault : 0 < sizing.default := by
    cases type <;> simp [ColumnType.sizing?] at h <;> subst h <;> decide
  rw [effectiveSize_eq]
  split_ifs with hpositive
  · exact hpositive
  · exact hdefault

/-- A column is what a declaration declares, with a settled size. -/
structure SettlesAs (d : FieldDeclaration) (c : Column) : Prop where
  /-- The name is kept. -/
  name : c.name = d.name
  /-- The host type is kept. -/
  hostType : c.hostType = d.hostType
  /-- The column type is the declared one. -/
  type : d.columnType = some c.type
  /-- The flag of a key is kept. -/
  isKey : c.isKey = d.isKey
  /-- The flag of distinct values is kept. -/
  isUnique : c.isUnique = d.isUnique
  /-- The flag of values that are always there is kept. -/
  isNotNull : c.isNotNull = d.isNotNull
  /-- The default is kept, and none is none. -/
  default : c.default = d.default.getD .none
  /-- The reference is kept. -/
  reference : c.reference = d.reference
  /-- A type that takes no size has none. -/
  sizeless : c.type.sizing? = none → c.size = none
  /-- A type that takes a size has the effective one, which is within its bounds. -/
  sized : ∀ sizing, c.type.sizing? = some sizing →
    c.size = some (Int.ofNat (d.effectiveSize sizing)) ∧ 1 ≤ d.effectiveSize sizing ∧
      d.effectiveSize sizing ≤ sizing.max

/-- The column of a declaration is what it declares. -/
lemma resolve_eq_ok_iff {d : FieldDeclaration} {entity : String} {c : Column} :
    (d.resolve entity).result = .ok c ↔ d.SettlesAs c := by
  rw [resolve_eq_ok]
  constructor
  · rintro ⟨type, htype, hfits, rfl⟩
    refine ⟨rfl, rfl, htype, rfl, rfl, rfl, rfl, rfl, fun hsizing => ?_, fun sizing hsizing => ?_⟩
    · replace hsizing : type.sizing? = none := hsizing
      simp [toColumn, settledSize, hsizing]
    · replace hsizing : type.sizing? = some sizing := hsizing
      refine ⟨?_, d.effectiveSize_pos hsizing, hfits sizing hsizing⟩
      simp [toColumn, settledSize, hsizing]
  · intro h
    refine ⟨c.type, h.type, fun sizing hsizing => (h.sized sizing hsizing).2.2, ?_⟩
    have hsize : c.size = (d.settledSize c.type).map Int.ofNat := by
      rw [settledSize]
      cases hsizing : c.type.sizing? with
      | none => exact h.sizeless hsizing
      | some sizing => exact (h.sized sizing hsizing).1
    obtain ⟨name, hostType, type, size, isKey, isUnique, isNotNull, default, reference⟩ := c
    rw [toColumn, Column.mk.injEq]
    exact ⟨h.name, h.hostType, rfl, hsize, h.isKey, h.isUnique, h.isNotNull, h.default,
      h.reference⟩

/-- A declaration is that of a column exactly when its type is known and its size fits. -/
lemma exists_settlesAs_iff {d : FieldDeclaration} :
    (∃ c, d.SettlesAs c) ↔ ∃ type, d.columnType = some type ∧ d.Fits type := by
  constructor
  · rintro ⟨c, h⟩
    exact ⟨c.type, h.type, fun sizing hsizing => (h.sized sizing hsizing).2.2⟩
  · rintro ⟨type, htype, hfits⟩
    have hresolved : (d.resolve "").result = .ok (d.toColumn type (d.settledSize type)) :=
      resolve_eq_ok.mpr ⟨type, htype, hfits, rfl⟩
    exact ⟨_, resolve_eq_ok_iff.mp hresolved⟩

end FieldDeclaration

/-! ## Fields -/

/-- The declaration that a field stands for, if it is one. -/
def FieldInput.declared? : FieldInput → Option FieldDeclaration
  | .declared d => some d
  | .raw room (.mapping entries) =>
    match FieldDeclaration.read room (.mapping entries) with
    | .valid d => some d
    | .invalid _ => none
  | .raw _ _ => none

/-- The fields of an entity stand for declarations. -/
def Declares (fields : List FieldInput) (declarations : List FieldDeclaration) : Prop :=
  List.Forall₂ (fun item d => item.declared? = some d) fields declarations

/-- A field has a declaration exactly when it stands for it. -/
lemma FieldInput.declaration_eq_ok {item : FieldInput} {entity : String} {index : Nat}
    {d : FieldDeclaration} : item.declaration entity index = .ok d ↔ item.declared? = some d := by
  cases item with
  | declared d' => simp [declaration, declared?]
  | raw room v =>
    cases v with
    | mapping entries =>
      rw [declaration, declared?]
      cases FieldDeclaration.read room (.mapping entries) <;>
        simp [Checked.toExcept, Except.mapError]
    | _ => simp [declaration, declared?]

/-- A field that is read from untyped data has names. -/
lemma FieldInput.isNamed_of_raw {room : Nat} {v : Value} {d : FieldDeclaration}
    (h : (FieldInput.raw room v).declared? = some d) : d.IsNamed := by
  cases v with
  | mapping entries =>
    rw [declared?] at h
    cases hread : FieldDeclaration.read room (.mapping entries) with
    | invalid problems =>
      rw [hread] at h
      exact absurd h (by simp)
    | valid d' =>
      rw [hread] at h
      obtain rfl := Option.some.inj h
      exact FieldDeclaration.isNamed_of_read hread
  | _ => exact absurd h (by simp [declared?])

/-- A field settles as a column exactly when its declaration does. -/
lemma FieldInput.settle_eq_ok_iff {item : FieldInput} {entity : String} {index : Nat} {c : Column} :
    item.settle entity index = .ok c ↔ ∃ d, item.declared? = some d ∧ d.SettlesAs c := by
  rw [settle, bind_eq_ok]
  simp only [declaration_eq_ok, FieldDeclaration.resolve_eq_ok_iff]

/-- Fields give columns exactly when they stand for declarations that settle as these columns, under
distinct names that are not taken. -/
lemma resolveColumns_eq_ok_iff {entity : String} {seen : List String} {index : Nat}
    {fields : List FieldInput} {columns : List Column} :
    (resolveColumns entity seen index fields).result = .ok columns ↔
      (∃ declarations, Declares fields declarations ∧
        List.Forall₂ FieldDeclaration.SettlesAs declarations columns) ∧
      AcceptedInTurn (fun _ => True) Column.name seen columns := by
  induction fields generalizing seen index columns with
  | nil =>
    rw [resolveColumns_nil]
    constructor
    · intro h
      obtain rfl := Except.ok.inj h
      exact ⟨⟨[], .nil, .nil⟩, by simp [AcceptedInTurn]⟩
    · rintro ⟨⟨declarations, hdeclares, hcolumns⟩, -⟩
      cases hdeclares
      cases hcolumns
      rfl
  | cons item rest ih =>
    rw [resolveColumns_cons_eq_ok]
    constructor
    · rintro ⟨c, others, hc, hseen, hothers, rfl⟩
      obtain ⟨d, hd, hsettles⟩ := FieldInput.settle_eq_ok_iff.mp hc
      obtain ⟨⟨declarations, hdeclares, hcolumns⟩, hturn⟩ := ih.mp hothers
      exact ⟨⟨d :: declarations, .cons hd hdeclares, .cons hsettles hcolumns⟩,
        acceptedInTurn_cons.mpr ⟨trivial, hseen, hturn⟩⟩
    · rintro ⟨⟨declarations, hdeclares, hcolumns⟩, hturn⟩
      cases hdeclares with
      | cons hd hdeclares =>
        cases hcolumns with
        | cons hsettles hcolumns =>
          obtain ⟨-, hseen, hturn⟩ := acceptedInTurn_cons.mp hturn
          exact ⟨_, _, FieldInput.settle_eq_ok_iff.mpr ⟨_, hd, hsettles⟩, hseen,
            ih.mpr ⟨⟨_, hdeclares, hcolumns⟩, hturn⟩, rfl⟩

/-- Every member of a list has a partner in a list that is paired with it. -/
lemma exists_of_mem_right {α β : Type} {R : α → β → Prop} {xs : List α} {ys : List β}
    (h : List.Forall₂ R xs ys) {y : β} (hy : y ∈ ys) : ∃ x ∈ xs, R x y := by
  induction h with
  | nil => exact absurd hy List.not_mem_nil
  | cons hfirst _ ih =>
    rcases List.mem_cons.mp hy with rfl | hy
    · exact ⟨_, List.mem_cons_self, hfirst⟩
    · obtain ⟨x, hx, hxy⟩ := ih hy
      exact ⟨x, List.mem_cons_of_mem _ hx, hxy⟩

/-- The columns of declarations exist if each declaration settles as one. -/
lemma exists_columns {declarations : List FieldDeclaration}
    (h : ∀ d ∈ declarations, ∃ c, d.SettlesAs c) :
    ∃ columns, List.Forall₂ FieldDeclaration.SettlesAs declarations columns := by
  induction declarations with
  | nil => exact ⟨[], .nil⟩
  | cons d declarations ih =>
    obtain ⟨c, hc⟩ := h d List.mem_cons_self
    obtain ⟨columns, hcolumns⟩ := ih fun d' hd' => h d' (List.mem_cons_of_mem _ hd')
    exact ⟨c :: columns, .cons hc hcolumns⟩

section Columns

variable {declarations : List FieldDeclaration} {columns : List Column}

/-- The columns of declarations have their names. -/
lemma map_name_of_settlesAs (h : List.Forall₂ FieldDeclaration.SettlesAs declarations columns) :
    columns.map Column.name = declarations.map FieldDeclaration.name := by
  induction h with
  | nil => rfl
  | cons hsettles _ ih => rw [List.map_cons, List.map_cons, hsettles.name, ih]

/-- The columns of declarations have their flags of keys. -/
lemma map_isKey_of_settlesAs (h : List.Forall₂ FieldDeclaration.SettlesAs declarations columns) :
    columns.map Column.isKey = declarations.map FieldDeclaration.isKey := by
  induction h with
  | nil => rfl
  | cons hsettles _ ih => rw [List.map_cons, List.map_cons, hsettles.isKey, ih]

/-- As many columns as declarations are flagged. -/
lemma length_keyNames (h : List.Forall₂ FieldDeclaration.SettlesAs declarations columns) :
    (keyNames columns).length = (declarations.filter FieldDeclaration.isKey).length := by
  have hcount := congrArg (List.countP id) (map_isKey_of_settlesAs h)
  rw [List.countP_map, List.countP_map] at hcount
  rw [keyNames, List.length_map, ← List.countP_eq_length_filter, ← List.countP_eq_length_filter]
  exact hcount

/-- A column is flagged exactly when a declaration is. -/
lemma any_isKey_iff (h : List.Forall₂ FieldDeclaration.SettlesAs declarations columns) :
    columns.any Column.isKey = true ↔ ∃ d ∈ declarations, d.isKey = true := by
  have hany := congrArg (List.any · id) (map_isKey_of_settlesAs h)
  simp only [List.any_map, Function.id_comp] at hany
  rw [hany, List.any_eq_true]

end Columns

/-! ## Entities -/

/-- What an entity needs to be mapped. -/
structure Mappable (entity : String) (declarations : List FieldDeclaration) (settings : Settings) :
    Prop where
  /-- The name is not blank. -/
  named : isBlankText entity = false
  /-- Every field has a column type, and an effective size within the bound of that type. -/
  typed : ∀ d ∈ declarations, ∃ type, d.columnType = some type ∧ d.Fits type
  /-- The names of the fields are distinct. -/
  distinct : (declarations.map FieldDeclaration.name).Nodup
  /-- A field is flagged as primary key. -/
  keyed : ∃ d ∈ declarations, d.isKey = true
  /-- Exactly one field is, unless several are tolerated. -/
  single : settings.rejectsSeveralKeys = true →
    (declarations.filter FieldDeclaration.isKey).length = 1

/-- What a schema keeps of an entity. -/
structure Keeps (entity : String) (table : Option String) (fields : List FieldInput)
    (declarations : List FieldDeclaration) (s : Schema) : Prop where
  /-- The name is kept. -/
  entity_eq : s.entity = entity
  /-- The table has the declared name without blanks around it, or else the name of the entity in
  lower case. -/
  table_eq : s.table =
    if strip (table.getD "") ≠ "" then strip (table.getD "") else lower entity
  /-- Every field has its column, in the order of the fields. -/
  columns : List.Forall₂ FieldDeclaration.SettlesAs declarations s.columns
  /-- The schema could have been put together from its parts. -/
  constructed : s.entity ≠ "" ∧ s.table ≠ "" ∧ s.columns ≠ [] ∧
    Schema.ofParts s.entity s.table s.columns = .valid s
  /-- The columns have names if the declarations do that are not read from untyped data. -/
  named : (∀ d, .declared d ∈ fields → d.name ≠ "") → ∀ c ∈ s.columns, c.name ≠ ""

/-- The lower-case form of a character is not empty. -/
lemma lowerChar_ne_nil (c : Char) : lowerChar c ≠ [] := by
  unfold lowerChar
  split_ifs
  · exact List.cons_ne_nil _ _
  · exact List.cons_ne_nil _ _
  · cases CaseRun.lookup? lowerRuns c.toNat <;> exact List.cons_ne_nil _ _

/-- The lower-case form of a text that is not empty is not empty. -/
lemma lower_ne_empty {s : String} (h : s ≠ "") : lower s ≠ "" := by
  obtain ⟨c, cs, hcs⟩ := List.exists_cons_of_ne_nil (mt String.toList_eq_nil_iff.mp h)
  intro hempty
  have hlist : lowerAfter [] (c :: cs) = [] := by
    rw [← hcs, ← String.toList_ofList (l := lowerAfter [] s.toList)]
    exact String.toList_eq_nil_iff.mpr hempty
  rw [lowerAfter] at hlist
  have hform := (List.append_eq_nil_iff.mp hlist).1
  split_ifs at hform
  exact lowerChar_ne_nil c hform

/-- The table of an entity with a name has a name. -/
lemma tableName_ne_empty {entity : String} (table : Option String) (h : entity ≠ "") :
    tableName entity table ≠ "" := by
  rw [tableName]
  split_ifs with hstrip
  · exact lower_ne_empty h
  · exact hstrip

/-- A schema could have been put together from its parts. -/
lemma Schema.ofParts_eq_valid (s : Schema) :
    Schema.ofParts s.entity s.table s.columns = .valid s := by
  rw [Schema.ofParts, dif_pos s.hasKey]

/-- Every column is that of a field, whose declaration has names if it does so where it is not read
from untyped data. -/
lemma exists_declaration_of_mem {fields : List FieldInput} {declarations : List FieldDeclaration}
    {columns : List Column} (hdeclares : Declares fields declarations)
    (hcolumns : List.Forall₂ FieldDeclaration.SettlesAs declarations columns) {c : Column}
    (hc : c ∈ columns) : ∃ d, d.SettlesAs c ∧ (.declared d ∈ fields ∨ d.IsNamed) := by
  obtain ⟨d, hd, hsettles⟩ := exists_of_mem_right hcolumns hc
  obtain ⟨item, hitem, hdeclared⟩ := exists_of_mem_right hdeclares hd
  refine ⟨d, hsettles, ?_⟩
  cases item with
  | declared d' =>
    obtain rfl := Option.some.inj hdeclared
    exact Or.inl hitem
  | raw room v => exact Or.inr (FieldInput.isNamed_of_raw hdeclared)

/-- Columns have names if the declarations do that are not read from untyped data. -/
lemma column_name_ne_empty {fields : List FieldInput} {declarations : List FieldDeclaration}
    {columns : List Column} (hdeclares : Declares fields declarations)
    (hcolumns : List.Forall₂ FieldDeclaration.SettlesAs declarations columns)
    (hnames : ∀ d, .declared d ∈ fields → d.name ≠ "") : ∀ c ∈ columns, c.name ≠ "" := by
  intro c hc
  obtain ⟨d, hsettles, hd⟩ := exists_declaration_of_mem hdeclares hcolumns hc
  rw [hsettles.name]
  exact hd.elim (hnames d) fun hnamed => hnamed.name.ne_empty

/-- An entity with a name whose fields give columns with accepted keys is mappable. -/
lemma mappable_of_columns {entity : String} {fields : List FieldInput} {columns : List Column}
    {settings : Settings} (hnamed : isBlankText entity = false)
    (hresolve : (resolveColumns entity [] 0 fields).result = .ok columns)
    (hkeyed : columns.any Column.isKey = true) (haccepts : Schema.AcceptsKeys settings columns) :
    ∃ declarations, Declares fields declarations ∧ Mappable entity declarations settings ∧
      List.Forall₂ FieldDeclaration.SettlesAs declarations columns := by
  obtain ⟨⟨declarations, hdeclares, hcolumns⟩, -, hdistinct, -⟩ :=
    resolveColumns_eq_ok_iff.mp hresolve
  refine ⟨declarations, hdeclares, ?_, hcolumns⟩
  constructor
  · exact hnamed
  · intro d hd
    obtain ⟨c, -, hsettles⟩ := exists_of_mem_right hcolumns.flip hd
    exact FieldDeclaration.exists_settlesAs_iff.mp ⟨c, hsettles⟩
  · rw [← map_name_of_settlesAs hcolumns]
    exact hdistinct
  · exact (any_isKey_iff hcolumns).mp hkeyed
  · intro hrejects
    have hle := haccepts hrejects
    rw [length_keyNames hcolumns] at hle
    obtain ⟨d, hd, hkey⟩ := (any_isKey_iff hcolumns).mp hkeyed
    have hpos : 0 < (declarations.filter FieldDeclaration.isKey).length :=
      List.length_pos_of_mem (List.mem_filter.mpr ⟨hd, hkey⟩)
    omega

/-- An entity that is resolved is mappable, and its schema keeps what is declared. -/
lemma mappable_of_resolve {entity : String} {table : Option String} {fields : List FieldInput}
    {settings : Settings} {s : Schema}
    (h : (Schema.resolve entity table fields settings).result = .ok s) :
    ∃ declarations, Declares fields declarations ∧ Mappable entity declarations settings ∧
      Keeps entity table fields declarations s := by
  obtain ⟨hnamed, hresolve, haccepts, -, hentity, htable⟩ := Schema.resolve_eq_ok.mp h
  obtain ⟨declarations, hdeclares, hmappable, hcolumns⟩ :=
    mappable_of_columns hnamed hresolve s.hasKey haccepts
  have hne : entity ≠ "" := by
    rintro rfl
    exact absurd hnamed (by decide)
  refine ⟨declarations, hdeclares, hmappable, ?_⟩
  constructor
  · exact hentity
  · rw [htable, tableName]
    by_cases hstrip : strip (table.getD "") = ""
    · rw [if_pos hstrip, if_neg (not_not.mpr hstrip)]
    · rw [if_neg hstrip, if_pos hstrip]
  · exact hcolumns
  · refine ⟨?_, ?_, List.ne_nil_of_mem s.primaryKey_mem, s.ofParts_eq_valid⟩
    · rw [hentity]
      exact hne
    · rw [htable]
      exact tableName_ne_empty table hne
  · exact column_name_ne_empty hdeclares hcolumns

/-- The columns of a mappable entity. -/
lemma exists_columns_of_mappable {entity : String} {fields : List FieldInput}
    {declarations : List FieldDeclaration} {settings : Settings}
    (hdeclares : Declares fields declarations) (h : Mappable entity declarations settings) :
    ∃ columns, (resolveColumns entity [] 0 fields).result = .ok columns ∧
      columns.any Column.isKey = true ∧ Schema.AcceptsKeys settings columns := by
  obtain ⟨columns, hcolumns⟩ := exists_columns fun d hd =>
    FieldDeclaration.exists_settlesAs_iff.mpr (h.typed d hd)
  refine ⟨columns, ?_, (any_isKey_iff hcolumns).mpr h.keyed, fun hrejects => ?_⟩
  · refine resolveColumns_eq_ok_iff.mpr ⟨⟨declarations, hdeclares, hcolumns⟩, by simp, ?_, by simp⟩
    rw [map_name_of_settlesAs hcolumns]
    exact h.distinct
  · exact Nat.le_of_eq ((length_keyNames hcolumns).trans (h.single hrejects))

/-- What resolving a mappable entity comes to: a schema, if this takes the names. -/
lemma resolve_of_mappable {entity : String} {fields : List FieldInput}
    {declarations : List FieldDeclaration} {settings : Settings} (table : Option String)
    (hdeclares : Declares fields declarations) (h : Mappable entity declarations settings) :
    if Schema.TakesNames entity (tableName entity table) then
      ∃ s, (Schema.resolve entity table fields settings).result = .ok s
    else
      (Schema.resolve entity table fields settings).result =
        .error (Schema.refuseNames entity (tableName entity table)) := by
  obtain ⟨columns, hcolumns, hkey, haccepts⟩ := exists_columns_of_mappable hdeclares h
  split_ifs with htakes
  · refine ⟨⟨entity, tableName entity table, columns, hkey⟩, ?_⟩
    rw [Schema.resolve_eq_ok]
    dsimp only
    exact ⟨h.named, hcolumns, haccepts, htakes, rfl, rfl⟩
  · have hsingle : ¬((keyNames columns).length > 1 ∧ settings.rejectsSeveralKeys = true) :=
      fun hboth => absurd (haccepts hboth.2) (Nat.not_le.mpr hboth.1)
    rw [Schema.resolve_of_named table fields settings (by simp [h.named]), hcolumns]
    show Schema.settle entity table settings columns = _
    rw [Schema.settle, dif_pos hkey, if_neg hsingle, if_neg htakes]

/-- Resolution accepts exactly the entities whose fields are declarations with which they are
mappable, and the schema keeps what is declared. -/
structure AcceptsMappable (entity : String) (table : Option String) (fields : List FieldInput)
    (settings : Settings) : Prop where
  /-- There is a schema exactly when the entity is mappable. -/
  accepts : (∃ s, (Schema.resolve entity table fields settings).result = .ok s) ↔
    ∃ declarations, Declares fields declarations ∧ Mappable entity declarations settings
  /-- The schema keeps what is declared. -/
  keeps : ∀ s, (Schema.resolve entity table fields settings).result = .ok s →
    ∃ declarations, Declares fields declarations ∧ Keeps entity table fields declarations s

/-- **Which entities are mapped.** Resolution accepts an entity if it is mappable, and keeps what is
declared, exactly when no half of a surrogate pair stands in the names of a mappable entity and of
its table. -/
theorem acceptsMappable_iff (entity : String) (table : Option String) (fields : List FieldInput)
    (settings : Settings) :
    AcceptsMappable entity table fields settings ↔
      ((∃ declarations, Declares fields declarations ∧ Mappable entity declarations settings) →
        Schema.TakesNames entity (tableName entity table)) := by
  constructor
  · rintro haccepts ⟨declarations, hdeclares, hmappable⟩
    obtain ⟨s, hs⟩ := haccepts.accepts.mpr ⟨declarations, hdeclares, hmappable⟩
    obtain ⟨-, -, -, htakes, -, htable⟩ := Schema.resolve_eq_ok.mp hs
    rw [← htable]
    exact htakes
  · intro htakes
    refine ⟨⟨?_, ?_⟩, ?_⟩
    · rintro ⟨s, h⟩
      obtain ⟨declarations, hdeclares, hmappable, -⟩ := mappable_of_resolve h
      exact ⟨declarations, hdeclares, hmappable⟩
    · rintro ⟨declarations, hdeclares, hmappable⟩
      have hresolve := resolve_of_mappable table hdeclares hmappable
      rwa [if_pos (htakes ⟨declarations, hdeclares, hmappable⟩)] at hresolve
    · intro s h
      obtain ⟨declarations, hdeclares, -, hkeeps⟩ := mappable_of_resolve h
      exact ⟨declarations, hdeclares, hkeeps⟩

/-- A field of untyped data and one that is declared, with a size of zero. -/
def mixedFields : List FieldInput :=
  [.raw 100 (.mapping [(.text "name", .text "id"), (.text "type", .text "int"),
    (.text "primary_key", .bool true)]),
   .declared { name := "code", columnType := some .varChar, size := some 0 }]

/-- An entity of the two fields is mappable. -/
lemma mappable_mixedFields :
    ∃ declarations, Declares mixedFields declarations ∧ Mappable "Note" declarations {} := by
  refine ⟨[{ name := "id", columnType := some .int, isKey := true },
    { name := "code", columnType := some .varChar, size := some 0 }], .cons rfl (.cons rfl .nil), ?_⟩
  refine ⟨by decide, ?_, by decide, by decide, by decide⟩
  rw [List.forall_mem_cons, List.forall_mem_singleton]
  constructor
  · exact ⟨.int, rfl, fun sizing h => absurd h (by simp [ColumnType.sizing?])⟩
  · refine ⟨.varChar, rfl, fun sizing h => ?_⟩
    obtain rfl := Option.some.inj h
    decide

/-- The entity of the two fields is mapped to a table of its own name. -/
theorem acceptsMappable_mixedFields :
    AcceptsMappable "Note" (some " ") mixedFields {} ∧
      ∃ s declarations, (Schema.resolve "Note" (some " ") mixedFields {}).result = .ok s ∧
        Declares mixedFields declarations ∧
        Keeps "Note" (some " ") mixedFields declarations s := by
  have haccepts : AcceptsMappable "Note" (some " ") mixedFields {} :=
    (acceptsMappable_iff "Note" (some " ") mixedFields {}).mpr fun _ => by decide
  obtain ⟨s, hs⟩ := haccepts.accepts.mpr mappable_mixedFields
  obtain ⟨declarations, hdeclares, hkeeps⟩ := haccepts.keeps s hs
  exact ⟨haccepts, s, declarations, hs, hdeclares, hkeeps⟩

/-- A name in which a half of a surrogate pair stands. -/
def halfName : String :=
  String.ofList (CodePoint.ofNumber firstHalf).spelling

/-- The entity of the two fields is mappable, but a table with a half of a surrogate pair for a name
is refused by its schema, and not as an error of what is declared. -/
theorem not_acceptsMappable_halfName :
    (∃ declarations, Declares mixedFields declarations ∧ Mappable "Note" declarations {}) ∧
      (Schema.resolve "Note" (some halfName) mixedFields {}).result =
        .error (.escape (.badSchema ⟨"EntitySchema", [⟨[.key "table_name"], .notUnicode⟩]⟩)) ∧
      ¬AcceptsMappable "Note" (some halfName) mixedFields {} := by
  obtain ⟨declarations, hdeclares, hmappable⟩ := mappable_mixedFields
  have hrefused := resolve_of_mappable (some halfName) hdeclares hmappable
  rw [if_neg (by decide)] at hrefused
  have hproblems : Schema.nameProblems "Note" (tableName "Note" (some halfName)) =
      [⟨[.key "table_name"], .notUnicode⟩] := by
    decide
  refine ⟨⟨declarations, hdeclares, hmappable⟩, ?_, fun haccepts => ?_⟩
  · rw [hrefused, Schema.refuseNames, hproblems]
    rfl
  · obtain ⟨s, hs⟩ := haccepts.accepts.mpr ⟨declarations, hdeclares, hmappable⟩
    exact absurd (hs.symm.trans hrefused) (by simp)

end SqlMapping
