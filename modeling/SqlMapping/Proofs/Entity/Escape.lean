import SqlMapping.Proofs.Entity.Acceptance
import SqlMapping.Proofs.Entity.DigitLimit

/-!
# Declarations that break off the run

Nearly all that can be wrong with a declaration is an error of the declaration. Two things are not:
a number beyond the digit limit, and an entity that is mappable but whose name, or the name of its
table, the schema does not take, since a half of a surrogate pair stands in it. Building such a
declaration breaks off, and this module says with which reason (`EntityDeclaration.Escapes`).
-/

namespace SqlMapping

open SqlMapping.Number SqlMapping.Text

/-- The settling of columns breaks off exactly when the settings accept the flagged keys, of which
there is one, and the schema does not take its names. -/
lemma Schema.settle_eq_escape {entity : String} {table : Option String} {settings : Settings}
    {columns : List Column} {reason : Escape} :
    settle entity table settings columns = .error (.escape reason) ↔
      columns.any Column.isKey = true ∧ AcceptsKeys settings columns ∧
        ¬TakesNames entity (tableName entity table) ∧
          refuseNames entity (tableName entity table) = .escape reason := by
  rw [settle]
  by_cases hkey : columns.any Column.isKey = true
  · rw [dif_pos hkey]
    by_cases hboth : (keyNames columns).length > 1 ∧ settings.rejectsSeveralKeys = true
    · have hrefused : ¬AcceptsKeys settings columns := fun h =>
        absurd (h hboth.2) (Nat.not_le.mpr hboth.1)
      simp [if_pos hboth, hrefused]
    · have haccepted : AcceptsKeys settings columns := fun h =>
        Nat.not_lt.mp fun hseveral => hboth ⟨hseveral, h⟩
      rw [if_neg hboth]
      split_ifs with htakes
      · simp [htakes]
      · simp [hkey, haccepted, htakes]
  · simp [hkey]

namespace EntityDeclaration

/-- The declared entity is mappable, but its schema does not take its name and that of its table. -/
def IsMisnamed (d : EntityDeclaration) (settings : Settings) : Prop :=
  Mappable d.name d.fields settings ∧
    ¬Schema.TakesNames d.name (tableName d.name (some d.table))

/-- The report of a schema on the name of a declared entity and that of its table. -/
def namesReport (d : EntityDeclaration) : Shape.ShapeError :=
  ⟨Schema.recordName, Schema.nameProblems d.name (tableName d.name (some d.table))⟩

/-- **Declarations that break off the run**, and the reason: a number is too long to be written, or
the names are not ones that a schema takes. -/
inductive Escapes (d : EntityDeclaration) (settings : Settings) : Escape → Prop
  /-- The declaration exceeds the digit limit. -/
  | overlong (h : d.ExceedsDigits settings) : Escapes d settings .overlong
  /-- The entity is mappable, but for its names. -/
  | badSchema (h : d.IsMisnamed settings) : Escapes d settings (.badSchema d.namesReport)

/-- Declared fields stand for no other declarations. -/
lemma eq_of_declares_declared {fields declarations : List FieldDeclaration}
    (h : Declares (fields.map .declared) declarations) : declarations = fields := by
  rw [Declares, List.forall₂_map_left_iff] at h
  have hsame : List.Forall₂ (· = ·) fields declarations := h.imp fun _ _ => Option.some.inj
  rw [List.forall₂_eq_eq_eq] at hsame
  exact hsame.symm

/-- A declared entity is mappable exactly when its name is not blank and its fields give columns with
keys that the settings accept. -/
lemma mappable_iff_columns {d : EntityDeclaration} {settings : Settings} :
    Mappable d.name d.fields settings ↔ isBlankText d.name = false ∧
      ∃ columns, (resolveColumns d.name [] 0 (d.fields.map .declared)).result = .ok columns ∧
        columns.any Column.isKey = true ∧ Schema.AcceptsKeys settings columns := by
  constructor
  · intro h
    exact ⟨h.named, exists_columns_of_mappable (declares_declared d.fields) h⟩
  · rintro ⟨hnamed, columns, hcolumns, hkey, haccepts⟩
    obtain ⟨declarations, hdeclares, hmappable, -⟩ :=
      mappable_of_columns hnamed hcolumns hkey haccepts
    rwa [eq_of_declares_declared hdeclares] at hmappable

/-- Resolving a declared entity breaks off exactly when its name is not blank and a field asks for a
size that is too long to be written, or when it is mappable but for its names. -/
lemma resolve_eq_escape {d : EntityDeclaration} {settings : Settings} {reason : Escape} :
    (d.resolve settings).result = .error (.escape reason) ↔
      (reason = .overlong ∧ isBlankText d.name = false ∧ ReachesOverlongSize [] d.fields) ∨
        (d.IsMisnamed settings ∧ reason = .badSchema d.namesReport) := by
  rw [EntityDeclaration.resolve, IsMisnamed, mappable_iff_columns]
  by_cases hblank : isBlankText d.name = true
  · rw [Schema.resolve_of_blank _ _ _ hblank]
    simp [hblank, Failure.element]
  · rw [Schema.resolve_of_named _ _ _ hblank, bind_eq_error, resolveColumns_eq_escape]
    have hnamed : isBlankText d.name = false := by simpa using hblank
    constructor
    · rintro (⟨rfl, hsize⟩ | ⟨columns, hcolumns, hsettle⟩)
      · exact Or.inl ⟨rfl, hnamed, hsize⟩
      · obtain ⟨hkey, haccepts, htakes, hrefused⟩ := Schema.settle_eq_escape.mp hsettle
        exact Or.inr ⟨⟨⟨hnamed, columns, hcolumns, hkey, haccepts⟩, htakes⟩,
          (Failure.escape.inj hrefused).symm⟩
    · rintro (⟨rfl, -, hsize⟩ | ⟨⟨⟨-, columns, hcolumns, hkey, haccepts⟩, htakes⟩, rfl⟩)
      · exact Or.inl ⟨rfl, hsize⟩
      · exact Or.inr ⟨columns, hcolumns,
          Schema.settle_eq_escape.mpr ⟨hkey, haccepts, htakes, rfl⟩⟩

/-- Building a declaration breaks off exactly with the reasons for which the declaration does. -/
theorem build_eq_escape {d : EntityDeclaration} {settings : Settings} {reason : Escape} :
    (d.build settings).result = .error (.escape reason) ↔ d.Escapes settings reason := by
  have hgenerate : ∀ s, (d.resolve settings).result = .ok s →
      (((s.generate d.queries settings) >>= fun artifacts =>
        (pure ⟨s, artifacts⟩ : Step BuiltEntity)).result = .error (.escape reason) ↔
      reason = .overlong ∧ AcceptedInTurn (fun q : Query => q.fault? = none) Query.accessor []
        d.queries ∧ ∃ c ∈ s.columns, c.default.IsOverlong) := by
    intro s hs
    rw [Run.result_bind, bind_eq_error,
      Schema.generate_eq_escape (Schema.isWritable_of_resolve hs)]
    simp
  rw [build, Run.result_bind, bind_eq_error, resolve_eq_escape]
  constructor
  · rintro ((⟨rfl, hsize⟩ | ⟨hnames, rfl⟩) | ⟨s, hs, h⟩)
    · exact .overlong (Or.inl hsize)
    · exact .badSchema hnames
    · obtain ⟨rfl, hdefault⟩ := (hgenerate s hs).mp h
      exact .overlong (Or.inr ⟨s, hs, hdefault⟩)
  · rintro (hexceeds | hnames)
    · rcases hexceeds with hsize | ⟨s, hs, hdefault⟩
      · exact Or.inl (Or.inl ⟨rfl, hsize⟩)
      · exact Or.inr ⟨s, hs, (hgenerate s hs).mpr ⟨rfl, hdefault⟩⟩
    · exact Or.inl (Or.inr ⟨hnames, rfl⟩)

end EntityDeclaration

end SqlMapping
