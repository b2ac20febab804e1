import SqlMapping.Proofs.Entity.Acceptance

/-!
# Sizes behind type names

A field can give its size behind its type name, as in `VARCHAR(50)`, and on its own. A size on its
own that is positive counts, and without one the size behind the type should (`countedSize`). Two
stages look at the sizes, and they differ in what they take for none: the reader of declarations
puts the size behind the type in the place of one that is missing or null, and resolution puts the
default of the type in the place of a zero. So a size of zero hides the one behind the type: a field
with a size of zero gets the size behind its type only if that is the default
(`resolvesToSize_countedSize_iff`).
-/

namespace SqlMapping

open SqlMapping.Number SqlMapping.Shape

/-- The size that counts: the one that is given on its own if it is positive, else the one that is
written behind the type. -/
def countedSize (suffix : Nat) (given : Option Nat) : Nat :=
  if 0 < given.getD 0 then given.getD 0 else suffix

/-- A field that is read from a mapping gives a column of that size. -/
def ResolvesToSize (room : Nat) (entity : String) (entries : Entries) (size : Nat) : Prop :=
  ∃ d c, FieldDeclaration.read room (.mapping entries) = .valid d ∧
    (d.resolve entity).result = .ok c ∧ c.size = some (Int.ofNat size)

section Sized

variable {entries : Entries} {d : FieldDeclaration} {type : ColumnType} {sizing : Sizing}
  {room : Nat}

/-- A declared field gives a column of its effective size, if that is within the bound. -/
lemma resolvesToSize_iff (entity : String) {size : Nat}
    (hread : FieldDeclaration.read room (.mapping entries) = .valid d)
    (htype : d.columnType = some type) (hsizing : type.sizing? = some sizing) :
    ResolvesToSize room entity entries size ↔ d.effectiveSize sizing = size ∧ size ≤ sizing.max := by
  constructor
  · rintro ⟨d', c, hread', hresolve, hsize⟩
    obtain rfl := Checked.valid.inj (hread.symm.trans hread')
    have hsettles := FieldDeclaration.resolve_eq_ok_iff.mp hresolve
    obtain rfl := Option.some.inj (htype.symm.trans hsettles.type)
    obtain ⟨heffective, -, hmax⟩ := hsettles.sized sizing hsizing
    have heq : d.effectiveSize sizing = size :=
      Int.ofNat.inj (Option.some.inj (heffective.symm.trans hsize))
    exact ⟨heq, heq ▸ hmax⟩
  · rintro ⟨rfl, hmax⟩
    refine ⟨d, d.toColumn type (some (d.effectiveSize sizing)), hread, ?_, rfl⟩
    rw [FieldDeclaration.resolve_of_sized entity htype hsizing, if_pos hmax]

/-- A declaration with a size behind its type has the size that counts, except that a zero on its
own stands for the default of the type. -/
lemma effectiveSize_or_suffix (d : FieldDeclaration) (sizing : Sizing) {n : Nat} (hn : 1 ≤ n) :
    ({ d with size := d.size.or (some n) }).effectiveSize sizing =
      if d.size = some 0 then sizing.default else countedSize n d.size := by
  rw [FieldDeclaration.effectiveSize_eq, countedSize]
  rcases hsize : d.size with _ | _ | s
  · simp [Nat.pos_iff_ne_zero.mp hn]
  · simp
  · simp

/-- **The size behind a type name.** Take a field with a size behind its type name that is read if
the plain name stands there instead, and whose size on its own, if it has one, is within the bound.
The size that counts is that of its column, except where a size of zero stands beside one behind the
type that is not the default. -/
theorem resolvesToSize_countedSize_iff (entity : String) {key : String} {n : Nat}
    (hsizing : type.sizing? = some sizing) (hpositive : 1 ≤ n) (hmax : n ≤ sizing.max)
    (htype : findField FieldDeclaration.typeKeys entries = some (key, .text (type.sizedName n)))
    (hplain : FieldDeclaration.read room
      (.mapping (Value.insertKey (.text key) (.text type.name) entries)) = .valid d)
    (hfits : ∀ s, d.size = some s → s ≤ sizing.max) :
    ResolvesToSize room entity entries (countedSize n d.size) ↔
      (d.size = some 0 → n = sizing.default) := by
  obtain ⟨hreads, htyped⟩ := FieldDeclaration.readsFrom_of_read_insert_type htype hplain
  have hread := FieldDeclaration.read_eq_valid_of_sizedName
    (Nat.lt_of_le_of_lt hmax (ColumnType.max_lt_digitCeiling hsizing)) htype hreads
  have hcounted : countedSize n d.size ≤ sizing.max := by
    rw [countedSize]
    cases hsize : d.size with
    | none => exact hmax
    | some s =>
      split_ifs
      · exact hfits s hsize
      · exact hmax
  rw [resolvesToSize_iff entity hread htyped hsizing,
    effectiveSize_or_suffix d sizing hpositive, and_iff_left hcounted]
  split_ifs with hzero
  · simp [hzero, countedSize, eq_comm]
  · simp [hzero]

end Sized

/-- The entries of a field of that type text and size. -/
def labelEntries (type : String) (size : List (Value × Value)) : Entries :=
  [(.text "name", .text "label"), (.text "type", .text type)] ++ size

/-- Without a size on its own, the one behind the type counts. -/
theorem resolvesToSize_fifty :
    ResolvesToSize 100 "Tag" (labelEntries "VARCHAR(50)" [(.text "size", .null)]) 50 := by
  have hsizing : ColumnType.varChar.sizing? = some ⟨65535, 255⟩ := rfl
  have htype : findField FieldDeclaration.typeKeys
      (labelEntries "VARCHAR(50)" [(.text "size", .null)]) =
        some ("type", .text (ColumnType.varChar.sizedName 50)) := rfl
  have hplain : FieldDeclaration.read 100 (.mapping (Value.insertKey (.text "type") (.text "VARCHAR")
      (labelEntries "VARCHAR(50)" [(.text "size", .null)]))) =
        .valid { name := "label", columnType := some .varChar } := rfl
  exact (resolvesToSize_countedSize_iff "Tag" hsizing (by decide) (by decide) htype hplain
    (by simp)).mpr (by simp)

/-- With a size of zero on its own, the size is the default of the type and not the one behind the
type. -/
theorem not_resolvesToSize_zero :
    ¬ResolvesToSize 100 "Tag" (labelEntries "VARCHAR(50)" [(.text "size", .int 0)]) 50 := by
  have hread : FieldDeclaration.read 100
      (.mapping (labelEntries "VARCHAR(50)" [(.text "size", .int 0)])) =
        .valid { name := "label", columnType := some .varChar, size := some 0 } := rfl
  rw [resolvesToSize_iff "Tag" hread rfl rfl]
  decide

end SqlMapping
