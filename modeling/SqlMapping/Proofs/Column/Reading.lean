import SqlMapping.Column.Declaration
import SqlMapping.Proofs.Column.TypeText
import SqlMapping.Proofs.Shape.Record

/-!
# What is read of a field

A declaration shows each of its parts in the mapping that it is read from
(`FieldDeclaration.ReadsFrom`). Before that, a size that is written after the type is moved to a
place of its own, unless a size is given there (`read_eq_valid_of_sizedName`). Defaults and
references are read back from the records that hold their parts.
-/

namespace SqlMapping

open SqlMapping.Number SqlMapping.Shape SqlMapping.Shape.Checked SqlMapping.Text

/-! ## Defaults and references -/

/-- The kind of a default is read back from its name. -/
lemma DefaultKind.read_name (k : DefaultKind) : DefaultKind.read (.text k.name) = .valid k := by
  cases k <;> rfl

/-- A default is made of its kind and its value. -/
lemma DefaultValue.ofParts_kind_value (room : Nat) (d : DefaultValue) :
    ofParts room d.kind d.value = .valid d := by
  cases d with
  | integer width n => cases width <;> rfl
  | whole precision n => cases precision <;> rfl
  | real precision x => cases precision <;> rfl
  | _ => rfl

/-- The record of a default. -/
def DefaultValue.record (d : DefaultValue) : Value :=
  .mapping [(.text "kind", .text d.kind.name), (.text "value", d.value)]

/-- A default is read back from its record. -/
lemma DefaultValue.read_record (room : Nat) (d : DefaultValue) :
    read room d.record = .valid d := by
  have hparts : ofParts room d.kind d.value = .valid d := d.ofParts_kind_value room
  rw [read, record, andThen_eq_valid]
  refine ⟨(d.kind, d.value), readRecord_eq_valid.mpr ⟨?_, rfl⟩, hparts⟩
  rw [optional_eq_valid (findField_singleton rfl) (DefaultKind.read_name d.kind),
    optional_eq_valid (findField_singleton rfl) rfl]
  rfl

/-- A referential action is read back from its name. -/
lemma ReferentialAction.read_name (a : ReferentialAction) : read (.text a.name) = .valid a := by
  cases a <;> rfl

namespace Reference

/-- The table and the column of a reference have names. -/
def IsNamed (r : Reference) : Prop :=
  IsName r.table ∧ IsName r.column

/-- The record of a reference. -/
def record (r : Reference) : Value :=
  .mapping [(.text "target_table", .text r.table), (.text "target_column", .text r.column),
    (.text "on_delete", .text r.onDelete.name), (.text "on_update", .text r.onUpdate.name)]

/-- A reference with names is read back from its record. -/
lemma read_record {r : Reference} (h : r.IsNamed) : read r.record = .valid r := by
  rw [read, record, readRecord_eq_valid]
  refine ⟨?_, rfl⟩
  rw [required_eq_valid (findField_singleton rfl) h.1.readNonEmptyText,
    required_eq_valid (findField_singleton rfl) h.2.readNonEmptyText,
    optional_eq_valid (findField_singleton rfl) (ReferentialAction.read_name r.onDelete),
    optional_eq_valid (findField_singleton rfl) (ReferentialAction.read_name r.onUpdate)]
  rfl

/-- A reference that is read has names. -/
lemma isNamed_of_read {v : Value} {r : Reference} (h : read v = .valid r) : r.IsNamed := by
  cases v with
  | mapping entries =>
    obtain ⟨hread, -⟩ := readRecord_eq_valid.mp h
    simp only [seq_eq_valid, functor_map_eq_valid] at hread
    obtain ⟨_, ⟨_, ⟨_, ⟨table, htable, rfl⟩, column, hcolumn, rfl⟩, _, -, rfl⟩, _, -, rfl⟩ := hread
    obtain ⟨_, htable⟩ := exists_of_required htable
    obtain ⟨_, hcolumn⟩ := exists_of_required hcolumn
    exact ⟨isName_of_readNonEmptyText htable, isName_of_readNonEmptyText hcolumn⟩
  | _ => exact absurd h (by simp [read, readRecord, flaw])

end Reference

/-! ## Fields -/

namespace FieldDeclaration

/-- The keys of the fields of a declaration. -/
def fieldKeys : List (List String) :=
  [["name"], ["host_type"], typeKeys, ["size"], ["primary_key"], ["unique"], ["not_null"],
    ["default"], ["foreign_key"]]

/-- A declaration shows its parts in a mapping that has no other keys. -/
structure ReadsFrom (room : Nat) (entries : Entries) (d : FieldDeclaration) : Prop where
  /-- The name has to be there. -/
  name : required ["name"] readNonEmptyText entries = .valid d.name
  /-- The host type may be missing. -/
  hostType : optional ["host_type"] "object" readText entries = .valid d.hostType
  /-- The column type may be missing. -/
  columnType : optional typeKeys none (nullable readColumnType) entries = .valid d.columnType
  /-- The size may be missing. -/
  size : optional ["size"] none (nullable readNat) entries = .valid d.size
  /-- The flag of a key may be missing. -/
  isKey : optional ["primary_key"] false readBool entries = .valid d.isKey
  /-- The flag of distinct values may be missing. -/
  isUnique : optional ["unique"] false readBool entries = .valid d.isUnique
  /-- The flag of values that are always there may be missing. -/
  isNotNull : optional ["not_null"] false readBool entries = .valid d.isNotNull
  /-- The default may be missing. -/
  default : optional ["default"] none (nullable (DefaultValue.read room)) entries = .valid d.default
  /-- The reference may be missing. -/
  reference : optional ["foreign_key"] none (nullable Reference.read) entries = .valid d.reference
  /-- There are no other keys. -/
  keys : surplusKeys fieldKeys entries = []

/-- A declaration is read from a mapping exactly when it shows its parts there. -/
lemma readFields_eq_valid {room : Nat} {entries : Entries} {d : FieldDeclaration} :
    readFields room (.mapping entries) = .valid d ↔ d.ReadsFrom room entries := by
  rw [readFields, readRecord_eq_valid]
  constructor
  · rintro ⟨hread, hkeys⟩
    simp only [seq_eq_valid, functor_map_eq_valid] at hread
    obtain ⟨_, ⟨_, ⟨_, ⟨_, ⟨_, ⟨_, ⟨_, ⟨_, ⟨_, hname, rfl⟩, _, hhostType, rfl⟩, _, hcolumnType,
      rfl⟩, _, hsize, rfl⟩, _, hisKey, rfl⟩, _, hisUnique, rfl⟩, _, hisNotNull, rfl⟩, _, hdefault,
      rfl⟩, _, hreference, rfl⟩ := hread
    exact ⟨hname, hhostType, hcolumnType, hsize, hisKey, hisUnique, hisNotNull, hdefault,
      hreference, hkeys⟩
  · intro h
    refine ⟨?_, h.keys⟩
    rw [h.name, h.hostType, h.columnType, h.size, h.isKey, h.isUnique, h.isNotNull, h.default,
      h.reference]
    rfl

/-- A declaration with names where every declaration that is read has them. -/
structure IsNamed (d : FieldDeclaration) : Prop where
  /-- The field has a name. -/
  name : IsName d.name
  /-- So have the table and the column that it refers to. -/
  reference : ∀ r, d.reference = some r → r.IsNamed

/-- A declaration that is read has names. -/
lemma ReadsFrom.isNamed {room : Nat} {entries : Entries} {d : FieldDeclaration}
    (h : d.ReadsFrom room entries) :
    d.IsNamed := by
  constructor
  · obtain ⟨_, hname⟩ := exists_of_required h.name
    exact isName_of_readNonEmptyText hname
  · intro r hr
    have hreference := h.reference
    rw [hr] at hreference
    rcases exists_of_optional hreference with hnone | ⟨v, hread⟩
    · exact absurd hnone (by simp)
    · exact Reference.isNamed_of_read (eq_valid_of_nullable hread)

/-- A declaration is read from a mapping exactly when it shows its parts there once the size behind
the type is moved. -/
lemma read_eq_valid_iff {room : Nat} {entries : Entries} {d : FieldDeclaration} :
    read room (.mapping entries) = .valid d ↔
      ∃ plain, splitType entries = .ok plain ∧ d.ReadsFrom room plain := by
  unfold read
  dsimp only
  cases splitType entries with
  | error reason => simp [flaw]
  | ok plain => simp [← readFields_eq_valid]

/-- A declaration that is read has names, whatever size is written after its type. -/
lemma isNamed_of_read {room : Nat} {entries : Entries} {d : FieldDeclaration}
    (h : read room (.mapping entries) = .valid d) : d.IsNamed := by
  obtain ⟨_, -, hreads⟩ := read_eq_valid_iff.mp h
  exact hreads.isNamed

/-! ## Type texts of fields -/

/-- No size is given on its own. -/
def IsUnsized (entries : Entries) : Prop :=
  Value.get? "size" entries = none ∨ Value.get? "size" entries = some .null

section TypeText

variable {key : String} {entries : Entries} {t : ColumnType} {d : FieldDeclaration}
  {n room : Nat}

/-- No size is moved out of a plain name. -/
lemma moveSize_name (t : ColumnType) (entries : Entries) :
    moveSize t.name entries = .ok entries := by
  have hnone : '(' ∉ t.name.toList := (parenthesis_notMem fun _ => ColumnType.isPlain_of_mem_name).1
  rw [moveSize, sizeSuffix?, if_neg (by simp [hnone])]

/-- The size text behind a name is that of a single whole number. -/
lemma sizeSuffix_sizedName (t : ColumnType) (n : Nat) :
    sizeSuffix? (t.sizedName n).toList = some (Nat.toDigits 10 n) ∧
      ((Nat.toDigits 10 n).isEmpty || !(Nat.toDigits 10 n).all isDigitLike) = false := by
  constructor
  · rw [ColumnType.toList_sizedName]
    exact sizeSuffix_append (fun _ => ColumnType.isPlain_of_mem_name)
      fun _ => isPlain_of_mem_toDigits
  · have hall : (Nat.toDigits 10 n).all isDigitLike = true := by
      refine List.all_eq_true.mpr fun c hc => ?_
      rw [isDigitLike, Nat.isDigit_of_mem_toDigits (by decide) (by decide) hc, Bool.true_or]
    rw [hall, List.isEmpty_eq_false_iff.mpr Nat.toDigits_ne_nil]
    rfl

/-- A size behind a name is moved to a place of its own if no size is given there. -/
lemma moveSize_of_isUnsized (hn : n < digitCeiling) (t : ColumnType) (h : IsUnsized entries) :
    moveSize (t.sizedName n) entries =
      .ok (Value.insertKey (.text "size") (.int (Int.ofNat n)) entries) := by
  obtain ⟨hsuffix, hdigits⟩ := sizeSuffix_sizedName t n
  rw [moveSize, hsuffix]
  dsimp only
  rw [hdigits, if_neg Bool.false_ne_true, readInteger_toDigits hn]
  rcases h with h | h <;> rw [h]

/-- A size behind a name is left out if a size is given on its own. -/
lemma moveSize_of_not_isUnsized (t : ColumnType) (n : Nat) (h : ¬IsUnsized entries) :
    moveSize (t.sizedName n) entries = .ok entries := by
  obtain ⟨hsuffix, hdigits⟩ := sizeSuffix_sizedName t n
  rw [IsUnsized, not_or] at h
  rw [moveSize, hsuffix]
  dsimp only
  rw [hdigits, if_neg Bool.false_ne_true]
  split
  · next hnone => exact absurd hnone h.1
  · next hnull => exact absurd hnull h.2
  · rfl

/-- A declaration shows a size that is given besides. -/
lemma ReadsFrom.withSize (h : d.ReadsFrom room entries) (n : Nat) :
    ({d with size := some n}).ReadsFrom room
      (Value.insertKey (.text "size") (.int (Int.ofNat n)) entries) := by
  have hfirst (k : String) (w : Value) (hfound : findField ["size"] entries = some (k, w)) :
      k = "size" := List.mem_singleton.mp (get?_of_findField hfound).1
  constructor
  · exact (required_insertKey_of_notMem (by decide) _ _ _).trans h.name
  · exact (optional_insertKey_of_notMem (by decide) _ _ _ _).trans h.hostType
  · exact (optional_insertKey_of_notMem (by decide) _ _ _ _).trans h.columnType
  · refine optional_eq_valid (findField_insertKey_of_mem List.mem_cons_self hfirst _) ?_
    exact nullable_eq_valid_some rfl (by simp)
  · exact (optional_insertKey_of_notMem (by decide) _ _ _ _).trans h.isKey
  · exact (optional_insertKey_of_notMem (by decide) _ _ _ _).trans h.isUnique
  · exact (optional_insertKey_of_notMem (by decide) _ _ _ _).trans h.isNotNull
  · exact (optional_insertKey_of_notMem (by decide) _ _ _ _).trans h.default
  · exact (optional_insertKey_of_notMem (by decide) _ _ _ _).trans h.reference
  · refine surplusKeys_insertKey h.keys ⟨["size"], by decide, List.mem_cons_self⟩ ?_ _
    intro keys hkeys hmem
    have honly : ∀ keys ∈ fieldKeys, "size" ∈ keys → keys = ["size"] := by decide
    rw [honly keys hkeys hmem]
    exact hfirst

/-- A mapping with a type text is read with the size behind it moved, under the plain name of the
type. -/
lemma read_of_text {raw : String} {sized : Entries}
    (htype : findField typeKeys entries = some (key, .text raw))
    (hparse : ColumnType.parse? raw = some t) (hsized : moveSize raw entries = .ok sized) :
    read room (.mapping entries) = .valid d ↔
      d.ReadsFrom room (Value.insertKey (.text key) (.text t.name) sized) := by
  have hsplit : splitType entries = .ok (Value.insertKey (.text key) (.text t.name) sized) := by
    rw [splitType, htype]
    dsimp only
    rw [hsized, hparse]
    rfl
  simp [read_eq_valid_iff, hsplit]

/-- A mapping with a plain type name is read as it is, under that name. -/
lemma read_of_name (htype : findField typeKeys entries = some (key, .text t.name)) :
    read room (.mapping entries) = .valid d ↔
      d.ReadsFrom room (Value.insertKey (.text key) (.text t.name) entries) :=
  read_of_text htype (ColumnType.parse_name t) (moveSize_name t entries)

/-- A column type is read back from its plain name. -/
lemma readColumnType_name (t : ColumnType) : readColumnType (.text t.name) = .valid t := by
  cases t <;> rfl

/-- Where the plain name of a type stands, a declaration has that type. -/
lemma ReadsFrom.columnType_eq (h : d.ReadsFrom room entries)
    (htype : findField typeKeys entries = some (key, .text t.name)) : d.columnType = some t := by
  have hread : optional typeKeys none (nullable readColumnType) entries = .valid (some t) :=
    optional_eq_valid htype (nullable_eq_valid_some (readColumnType_name t) (by simp))
  exact Checked.valid.inj (h.columnType.symm.trans hread)

/-- A type that takes the place of another one is found there. -/
lemma findField_insert_type {v w : Value} (htype : findField typeKeys entries = some (key, v)) :
    findField typeKeys (Value.insertKey (.text key) w entries) = some (key, w) := by
  refine findField_insertKey_of_mem (get?_of_findField htype).1 (fun k u hfound => ?_) w
  exact (Prod.mk.inj (Option.some.inj (hfound.symm.trans htype))).1

/-- What is read of a mapping in which a plain name takes the place of a type text. -/
lemma readsFrom_of_read_insert_type {v : Value} (htype : findField typeKeys entries = some (key, v))
    (hread : read room (.mapping (Value.insertKey (.text key) (.text t.name) entries)) = .valid d) :
    d.ReadsFrom room (Value.insertKey (.text key) (.text t.name) entries) ∧
      d.columnType = some t := by
  have hfound := findField_insert_type (w := .text t.name) htype
  have hreads := (read_of_name hfound).mp hread
  rw [Value.insertKey_insertKey] at hreads
  exact ⟨hreads, hreads.columnType_eq hfound⟩

/-- A declaration has no size exactly when none is given on its own. -/
lemma ReadsFrom.size_eq_none_iff (h : d.ReadsFrom room entries) :
    d.size = none ↔ IsUnsized entries := by
  have hsize := h.size
  rw [Shape.optional, findField_cons] at hsize
  constructor
  · intro hnone
    by_contra hunsized
    rw [IsUnsized, not_or] at hunsized
    obtain ⟨v, hv⟩ := Option.ne_none_iff_exists'.mp hunsized.1
    rw [hv] at hsize hunsized
    obtain ⟨n, hn⟩ := exists_of_nullable (within_eq_valid.mp hsize) (by simpa using hunsized)
    rw [hnone] at hn
    exact absurd hn (Option.some_ne_none n).symm
  · intro hunsized
    rcases hunsized with hget | hget <;> rw [hget] at hsize
    · exact (Checked.valid.inj hsize).symm
    · exact (Checked.valid.inj (within_eq_valid.mp hsize)).symm

/-- **The size behind a type name.** A declaration with a size behind its type name is read like the
one with the plain name, and has that size unless one is given on its own. -/
theorem read_eq_valid_of_sizedName (hn : n < digitCeiling)
    (htype : findField typeKeys entries = some (key, .text (t.sizedName n)))
    (hplain : d.ReadsFrom room (Value.insertKey (.text key) (.text t.name) entries)) :
    read room (.mapping entries) = .valid { d with size := d.size.or (some n) } := by
  obtain ⟨hkey, hget⟩ := get?_of_findField htype
  have hne : "size" ≠ key := by
    rintro rfl
    exact absurd hkey (by decide)
  have hunsized : d.size = none ↔ IsUnsized entries := by
    rw [hplain.size_eq_none_iff, IsUnsized, IsUnsized, Value.get?_insertKey, if_neg hne]
  cases hsize : d.size with
  | none =>
    rw [read_of_text htype (ColumnType.parse_sizedName t n)
      (moveSize_of_isUnsized hn t (hunsized.mp hsize)),
      Value.insertKey_comm hne.symm _ _ (by simp [hget])]
    exact hplain.withSize n
  | some given =>
    have hsized : ¬IsUnsized entries := by simp [← hunsized, hsize]
    have hkept : (some given).or (some n) = d.size := hsize.symm
    rw [read_of_text htype (ColumnType.parse_sizedName t n)
      (moveSize_of_not_isUnsized t n hsized), hkept]
    exact hplain

end TypeText

end FieldDeclaration

end SqlMapping
