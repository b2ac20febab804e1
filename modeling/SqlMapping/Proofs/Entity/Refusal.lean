import SqlMapping.Proofs.Entity.Acceptance

/-!
# Refused fields

Fields are settled one after the other, so the failure of a list of fields is that of the first one
which is refused (`resolveColumns_eq_error_iff`): it has no column type, a size beyond the bound, or
a name that stands before it, and the fields before it are accepted under distinct names
(`firstRefusal_iff`).
-/

namespace SqlMapping

open SqlMapping.Number

/-! ## The defects of a field -/

namespace FieldDeclaration

/-- The field has a column type, and its size is within the bound. -/
def IsAccepted (d : FieldDeclaration) : Prop :=
  ∃ type, d.columnType = some type ∧ d.Fits type

/-- The column of a field has its name. -/
lemma name_toColumn (d : FieldDeclaration) (type : ColumnType) (size : Option Nat) :
    (d.toColumn type size).name = d.name :=
  rfl

/-- The effective size of a field lies beyond the bound of its column type. -/
def Exceeds (d : FieldDeclaration) (requested maximum : Nat) : Prop :=
  ∃ type sizing, d.columnType = some type ∧ type.sizing? = some sizing ∧
    requested = d.effectiveSize sizing ∧ maximum = sizing.max ∧ maximum < requested

/-- The effective size of a field lies beyond some bound. -/
def IsOversized (d : FieldDeclaration) : Prop :=
  ∃ requested maximum, d.Exceeds requested maximum

/-- Why a field is refused, next to fields whose names are taken. -/
inductive Refused (entity : String) (taken : List String) (d : FieldDeclaration) : Failure → Prop
  /-- It has no column type. -/
  | untyped (h : d.columnType = none) :
    Refused entity taken d (.mapping ⟨some entity, .missingColumnType d.name⟩)
  /-- Its size lies beyond the bound. -/
  | oversized {requested maximum : Nat} (h : d.Exceeds requested maximum) :
    Refused entity taken d (oversize entity d.name requested maximum)
  /-- Its name is taken, and there is nothing else against it. -/
  | repeated (haccepted : d.IsAccepted) (h : d.name ∈ taken) :
    Refused entity taken d (.element (some entity) (.repeatedField d.name))

/-- An accepted field has a column type. -/
lemma IsAccepted.typed {d : FieldDeclaration} (h : d.IsAccepted) : d.columnType ≠ none := by
  obtain ⟨type, htype, -⟩ := h
  simp [htype]

/-- An accepted field has a size within the bound. -/
lemma IsAccepted.not_isOversized {d : FieldDeclaration} (h : d.IsAccepted) : ¬d.IsOversized := by
  obtain ⟨type, htype, hfits⟩ := h
  rintro ⟨requested, maximum, type', sizing, htype', hsizing, rfl, rfl, hlt⟩
  obtain rfl := Option.some.inj (htype.symm.trans htype')
  exact absurd (hfits sizing hsizing) (Nat.not_le.mpr hlt)

/-- A field with a column type and a size within the bound is accepted. -/
lemma isAccepted_of_typed {d : FieldDeclaration} (htyped : d.columnType ≠ none)
    (hsize : ¬d.IsOversized) : d.IsAccepted := by
  obtain ⟨type, htype⟩ := Option.ne_none_iff_exists'.mp htyped
  refine ⟨type, htype, fun sizing hsizing => ?_⟩
  by_contra hlt
  exact hsize ⟨_, _, type, sizing, htype, hsizing, rfl, rfl, Nat.not_le.mp hlt⟩

/-- The size that is beyond the bound of a field, and the bound, are determined. -/
lemma Exceeds.unique {d : FieldDeclaration} {requested maximum requested' maximum' : Nat}
    (h : d.Exceeds requested maximum) (h' : d.Exceeds requested' maximum') :
    requested' = requested ∧ maximum' = maximum := by
  obtain ⟨type, sizing, htype, hsizing, rfl, rfl, -⟩ := h
  obtain ⟨type', sizing', htype', hsizing', rfl, rfl, -⟩ := h'
  obtain rfl := Option.some.inj (htype.symm.trans htype')
  obtain rfl := Option.some.inj (hsizing.symm.trans hsizing')
  exact ⟨rfl, rfl⟩

/-- A field of a size beyond the bound has a column type. -/
lemma Exceeds.typed {d : FieldDeclaration} {requested maximum : Nat}
    (h : d.Exceeds requested maximum) : d.columnType ≠ none := by
  obtain ⟨type, sizing, htype, -⟩ := h
  simp [htype]

/-- A field gives no column exactly when it has no column type or a size beyond the bound. -/
lemma resolve_eq_error {d : FieldDeclaration} {entity : String} {e : Failure} :
    (d.resolve entity).result = .error e ↔
      (d.columnType = none ∧ e = .mapping ⟨some entity, .missingColumnType d.name⟩) ∨
        ∃ requested maximum, d.Exceeds requested maximum ∧
          e = oversize entity d.name requested maximum := by
  cases htype : d.columnType with
  | none => simp [resolve_of_untyped entity htype, Exceeds, htype, eq_comm]
  | some type =>
    cases hsizing : type.sizing? with
    | none => simp [resolve_of_sizeless entity htype hsizing, Exceeds, htype, hsizing]
    | some sizing =>
      rw [resolve_of_sized entity htype hsizing]
      by_cases hfits : d.effectiveSize sizing ≤ sizing.max
      · simp [Exceeds, htype, hsizing, hfits, Nat.not_lt.mpr hfits]
      · simp [Exceeds, htype, hsizing, hfits, Nat.not_le.mp hfits, eq_comm]

section Refused

variable {entity name : String} {taken : List String} {d : FieldDeclaration} {e : Failure}
  {requested maximum : Nat}

/-- A refused field without a column type is refused for that. -/
lemma Refused.eq_missingColumnType (h : d.Refused entity taken e) (huntyped : d.columnType = none) :
    e = .mapping ⟨some entity, .missingColumnType d.name⟩ := by
  cases h with
  | untyped _ => rfl
  | oversized hexceeds => exact absurd huntyped hexceeds.typed
  | repeated haccepted _ => exact absurd huntyped haccepted.typed

/-- A refused field of a size beyond the bound is refused for that. -/
lemma Refused.eq_oversize (h : d.Refused entity taken e) (hexceeds : d.Exceeds requested maximum) :
    e = oversize entity d.name requested maximum := by
  cases h with
  | untyped huntyped => exact absurd huntyped hexceeds.typed
  | oversized hexceeds' =>
    obtain ⟨rfl, rfl⟩ := hexceeds.unique hexceeds'
    rfl
  | repeated haccepted _ => exact absurd ⟨_, _, hexceeds⟩ haccepted.not_isOversized

/-- A refused field that is accepted by itself is refused for its name, which is taken. -/
lemma Refused.repeated_of_isAccepted (h : d.Refused entity taken e) (haccepted : d.IsAccepted) :
    d.name ∈ taken ∧ e = .element (some entity) (.repeatedField d.name) := by
  cases h with
  | untyped huntyped => exact absurd huntyped haccepted.typed
  | oversized hexceeds => exact absurd ⟨_, _, hexceeds⟩ haccepted.not_isOversized
  | repeated _ htaken => exact ⟨htaken, rfl⟩

/-- A field that is refused for a column type has none. -/
lemma Refused.columnType_eq_none (h : d.Refused entity taken e)
    (he : e = .mapping ⟨some entity, .missingColumnType name⟩) : d.columnType = none := by
  cases h with
  | untyped huntyped => exact huntyped
  | oversized _ =>
    rw [oversize] at he
    split_ifs at he
    exact absurd he (by simp)
  | repeated _ _ => exact absurd he (by simp [Failure.element])

/-- A field that is refused for a size has that size, beyond the bound and short enough to be
written. -/
lemma Refused.exceeds_and_lt (h : d.Refused entity taken e)
    (he : e = .mapping ⟨some entity, .sizeExceeded name requested maximum⟩) :
    d.Exceeds requested maximum ∧ requested < digitCeiling := by
  cases h with
  | untyped _ => exact absurd he (by simp)
  | @oversized requested' maximum' hexceeds =>
    rw [oversize] at he
    split_ifs at he with hshort
    obtain ⟨-, hrequested, hmaximum⟩ : d.name = name ∧ (requested' : Int) = requested ∧
        (maximum' : Int) = maximum := by
      simpa using he
    obtain rfl := Int.ofNat.inj hrequested
    obtain rfl := Int.ofNat.inj hmaximum
    exact ⟨hexceeds, hshort⟩
  | repeated _ _ => exact absurd he (by simp [Failure.element])

end Refused

end FieldDeclaration

open FieldDeclaration

/-! ## The report of a list of fields -/

/-- The first field that is refused, next to fields whose names are taken, and the failure. -/
inductive FirstRefusal (entity : String) :
    List String → List FieldDeclaration → Failure → Prop
  /-- The first field is refused. -/
  | here {taken : List String} {d : FieldDeclaration} {rest : List FieldDeclaration} {e : Failure}
    (h : d.Refused entity taken e) : FirstRefusal entity taken (d :: rest) e
  /-- The first field is accepted, and one of the others is refused next to it. -/
  | later {taken : List String} {d : FieldDeclaration} {rest : List FieldDeclaration}
    {e : Failure} (haccepted : d.IsAccepted) (hfree : d.name ∉ taken)
    (h : FirstRefusal entity (d.name :: taken) rest e) : FirstRefusal entity taken (d :: rest) e

/-- Fields give no columns exactly when one of them is refused; the first refusal is the failure. -/
lemma resolveColumns_eq_error_iff {entity : String} {taken : List String} {index : Nat}
    {fields : List FieldInput} {declarations : List FieldDeclaration}
    (hdeclares : Declares fields declarations) {e : Failure} :
    (resolveColumns entity taken index fields).result = .error e ↔
      FirstRefusal entity taken declarations e := by
  induction hdeclares generalizing taken index with
  | nil =>
    rw [resolveColumns_nil]
    exact ⟨fun h => absurd h (by simp), fun h => by cases h⟩
  | @cons item d fields declarations hd _ ih =>
    have hsettle : item.settle entity index = (d.resolve entity).result := by
      rw [FieldInput.settle, FieldInput.declaration_eq_ok.mpr hd]
      rfl
    rw [resolveColumns_cons, hsettle, bind_eq_error]
    constructor
    · rintro (h | ⟨c, hc, h⟩)
      · rcases resolve_eq_error.mp h with ⟨huntyped, he⟩ | ⟨_, _, hexceeds, he⟩
        · rw [he]
          exact .here (.untyped huntyped)
        · rw [he]
          exact .here (.oversized hexceeds)
      · obtain ⟨type, htype, hfits, rfl⟩ := resolve_eq_ok.mp hc
        rw [name_toColumn] at h
        by_cases htaken : d.name ∈ taken
        · rw [if_pos htaken] at h
          obtain rfl := Except.error.inj h
          exact .here (.repeated ⟨type, htype, hfits⟩ htaken)
        · rw [if_neg htaken, map_eq_error] at h
          exact .later ⟨type, htype, hfits⟩ htaken (ih.mp h)
    · intro h
      -- an accepted field gives a column, so that its name and the other fields decide
      have hcolumn (haccepted : d.IsAccepted) :
          ∃ c, (d.resolve entity).result = .ok c ∧ c.name = d.name := by
        obtain ⟨type, htype, hfits⟩ := haccepted
        exact ⟨_, resolve_eq_ok.mpr ⟨type, htype, hfits, rfl⟩, name_toColumn d _ _⟩
      cases h with
      | here h =>
        cases h with
        | untyped huntyped => exact Or.inl (resolve_eq_error.mpr (Or.inl ⟨huntyped, rfl⟩))
        | oversized hexceeds =>
          exact Or.inl (resolve_eq_error.mpr (Or.inr ⟨_, _, hexceeds, rfl⟩))
        | repeated haccepted htaken =>
          obtain ⟨c, hc, hname⟩ := hcolumn haccepted
          exact Or.inr ⟨c, hc, by rw [hname, if_pos htaken]⟩
      | later haccepted hfree h =>
        obtain ⟨c, hc, hname⟩ := hcolumn haccepted
        refine Or.inr ⟨c, hc, ?_⟩
        rw [hname, if_neg hfree, map_eq_error]
        exact ih.mpr h

/-- The fields before the first refusal are accepted under distinct names. -/
lemma firstRefusal_iff {entity : String} {taken : List String}
    {declarations : List FieldDeclaration} {e : Failure} :
    FirstRefusal entity taken declarations e ↔
      ∃ before d after, declarations = before ++ d :: after ∧
        AcceptedInTurn IsAccepted FieldDeclaration.name taken before ∧
          d.Refused entity ((before.map FieldDeclaration.name).reverse ++ taken) e := by
  constructor
  · intro h
    induction h with
    | @here taken d rest e h => exact ⟨[], d, rest, rfl, by simp [AcceptedInTurn], h⟩
    | @later taken d rest e haccepted hfree _ ih =>
      obtain ⟨before, d', after, rfl, hbefore, hrefused⟩ := ih
      refine ⟨d :: before, d', after, rfl, acceptedInTurn_cons.mpr ⟨haccepted, hfree, hbefore⟩, ?_⟩
      simpa using hrefused
  · rintro ⟨before, d, after, rfl, hbefore, hrefused⟩
    induction before generalizing taken with
    | nil => exact .here (by simpa using hrefused)
    | cons first before ih =>
      obtain ⟨haccepted, hfree, hbefore⟩ := acceptedInTurn_cons.mp hbefore
      exact .later haccepted hfree (ih hbefore (by simpa using hrefused))

/-- Fields are accepted under distinct names, or one of them is refused. -/
lemma acceptedInTurn_or_firstRefusal (entity : String) (taken : List String)
    (declarations : List FieldDeclaration) :
    AcceptedInTurn IsAccepted FieldDeclaration.name taken declarations ∨
      ∃ e, FirstRefusal entity taken declarations e := by
  induction declarations generalizing taken with
  | nil => exact Or.inl (by simp [AcceptedInTurn])
  | cons d rest ih =>
    by_cases htyped : d.columnType = none
    · exact Or.inr ⟨_, .here (.untyped htyped)⟩
    by_cases hsize : d.IsOversized
    · obtain ⟨requested, maximum, hexceeds⟩ := hsize
      exact Or.inr ⟨_, .here (.oversized hexceeds)⟩
    have haccepted := isAccepted_of_typed htyped hsize
    by_cases htaken : d.name ∈ taken
    · exact Or.inr ⟨_, .here (.repeated haccepted htaken)⟩
    rcases ih (d.name :: taken) with hrest | ⟨e, hrest⟩
    · exact Or.inl (acceptedInTurn_cons.mpr ⟨haccepted, htaken, hrest⟩)
    · exact Or.inr ⟨e, .later haccepted htaken hrest⟩

/-- A field is refused when it is not accepted, or its name is taken. -/
lemma FieldDeclaration.exists_refused (d : FieldDeclaration) (entity : String)
    (taken : List String) (h : ¬(d.IsAccepted ∧ d.name ∉ taken)) : ∃ e, d.Refused entity taken e := by
  rcases acceptedInTurn_or_firstRefusal entity taken [d] with haccepted | ⟨e, hrefusal⟩
  · obtain ⟨hd, hfree, -⟩ := acceptedInTurn_cons.mp haccepted
    exact absurd ⟨hd, hfree⟩ h
  · cases hrefusal with
    | here hrefused => exact ⟨e, hrefused⟩
    | later _ _ hrest => cases hrest

/-- A refused field is not accepted, or its name is taken. -/
lemma FieldDeclaration.Refused.not_accepted {d : FieldDeclaration} {entity : String}
    {taken : List String} {e : Failure} (h : d.Refused entity taken e) :
    ¬(d.IsAccepted ∧ d.name ∉ taken) := by
  rintro ⟨haccepted, hfree⟩
  cases h with
  | untyped huntyped => exact haccepted.typed huntyped
  | oversized hexceeds => exact haccepted.not_isOversized ⟨_, _, hexceeds⟩
  | repeated _ htaken => exact hfree htaken

end SqlMapping
