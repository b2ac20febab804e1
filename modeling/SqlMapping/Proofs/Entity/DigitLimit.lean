import SqlMapping.Proofs.Entity.Refusal

/-!
# Declarations beyond the digit limit

Building an entity writes numbers that the declaration gives: a size that is refused stands in the
message of the failure, and a default stands in the text that creates the table. A number with more
digits than the limit cannot be written there, and that is no failure of the declaration but one of
the run. This module says for which declarations it happens (`EntityDeclaration.ExceedsDigits`):
what comes before in the order of the checks has to be accepted.
-/

namespace SqlMapping

open SqlMapping.Number SqlMapping.Text

/-! ## Sizes -/

namespace FieldDeclaration

/-- The field asks for a size that is too long to be written, and its column type takes a size. -/
def HasOverlongSize (d : FieldDeclaration) : Prop :=
  (∃ type, d.columnType = some type ∧ type.isSizeable = true) ∧
    ∃ n, d.size = some n ∧ digitCeiling ≤ n

/-- A size is too long to be written only when it is declared. -/
lemma digitCeiling_le_effectiveSize {d : FieldDeclaration} {type : ColumnType} {sizing : Sizing}
    (h : type.sizing? = some sizing) :
    digitCeiling ≤ d.effectiveSize sizing ↔ ∃ n, d.size = some n ∧ digitCeiling ≤ n := by
  have hdefault : sizing.default < digitCeiling := by
    have hle : sizing.default ≤ sizing.max := by
      cases type <;> simp [ColumnType.sizing?] at h <;> subst h <;> decide
    exact Nat.lt_of_le_of_lt hle (ColumnType.max_lt_digitCeiling h)
  have hpos : 0 < digitCeiling := Nat.pow_pos (by decide)
  unfold effectiveSize
  cases hsize : d.size with
  | none =>
    refine ⟨fun hle => absurd hdefault (Nat.not_lt.mpr hle), ?_⟩
    rintro ⟨n, hn, -⟩
    exact absurd hn (by simp)
  | some n =>
    cases n with
    | zero =>
      refine ⟨fun hle => absurd hdefault (Nat.not_lt.mpr hle), ?_⟩
      rintro ⟨n, hn, hle⟩
      obtain rfl := Option.some.inj hn
      exact absurd hle (Nat.not_le.mpr hpos)
    | succ n =>
      refine ⟨fun hle => ⟨n + 1, rfl, hle⟩, ?_⟩
      rintro ⟨m, hm, hle⟩
      obtain rfl := Option.some.inj hm
      exact hle

/-- A field stops the run exactly when it asks for a size that is too long to be written. -/
lemma resolve_eq_overlong {d : FieldDeclaration} {entity : String} :
    (d.resolve entity).result = .error .overlong ↔ d.HasOverlongSize := by
  rw [HasOverlongSize]
  cases htype : d.columnType with
  | none => simp [resolve_of_untyped entity htype]
  | some type =>
    cases hsizing : type.sizing? with
    | none => simp [resolve_of_sizeless entity htype hsizing, ColumnType.isSizeable, hsizing]
    | some sizing =>
      have hmax := ColumnType.max_lt_digitCeiling hsizing
      have hsizeable : ∃ t, some type = some t ∧ t.isSizeable = true :=
        ⟨type, rfl, by simp [ColumnType.isSizeable, hsizing]⟩
      rw [resolve_of_sized entity htype hsizing, ← digitCeiling_le_effectiveSize hsizing]
      refine ⟨fun h => ⟨hsizeable, ?_⟩, fun h => ?_⟩
      · by_contra hlt
        split_ifs at h with hfits
        rw [oversize, if_pos (Nat.not_le.mp hlt)] at h
        exact absurd h (by simp)
      · have hfits : ¬d.effectiveSize sizing ≤ sizing.max := by omega
        rw [if_neg hfits, oversize, if_neg (Nat.not_lt.mpr h.2)]

end FieldDeclaration

/-- A field of a list asks for a size that is too long to be written, and the fields before it are
accepted. -/
def ReachesOverlongSize (seen : List String) (fields : List FieldDeclaration) : Prop :=
  ∃ before d after, fields = before ++ d :: after ∧
    AcceptedInTurn FieldDeclaration.IsAccepted FieldDeclaration.name seen before ∧
      d.HasOverlongSize

/-- A field breaks off the run, where it is refused, exactly when it asks for a size that is too long
to be written. -/
lemma FieldDeclaration.refused_escape_iff {d : FieldDeclaration} {entity : String}
    {taken : List String} {reason : Escape} :
    d.Refused entity taken (.escape reason) ↔ reason = .overlong ∧ d.HasOverlongSize := by
  constructor
  · generalize hfailure : Failure.escape reason = e
    intro h
    cases h with
    | untyped _ => exact absurd hfailure (by simp)
    | oversized hexceeds =>
      rw [oversize] at hfailure
      split_ifs at hfailure with hshort
      have hresolve : (d.resolve entity).result = .error .overlong :=
        resolve_eq_error.mpr (Or.inr ⟨_, _, hexceeds, by rw [oversize, if_neg hshort]⟩)
      exact ⟨Failure.escape.inj hfailure, resolve_eq_overlong.mp hresolve⟩
    | repeated _ _ => exact absurd hfailure (by simp [Failure.element])
  · rintro ⟨rfl, hsize⟩
    have hresolve : (d.resolve entity).result = .error .overlong := resolve_eq_overlong.mpr hsize
    rcases resolve_eq_error.mp hresolve with
      ⟨-, hfailure⟩ | ⟨requested, maximum, hexceeds, hfailure⟩
    · exact absurd hfailure (by simp)
    · have hrefused : d.Refused entity taken (oversize entity d.name requested maximum) :=
        .oversized hexceeds
      rwa [← hfailure] at hrefused

/-- Declared fields stand for their declarations. -/
lemma declares_declared (fields : List FieldDeclaration) :
    Declares (fields.map .declared) fields := by
  rw [Declares, List.forall₂_map_left_iff, List.forall₂_same]
  exact fun _ _ => rfl

/-- Declared fields stop the run exactly when one of them does and those before it are accepted. -/
lemma resolveColumns_eq_escape {entity : String} {seen : List String} {index : Nat}
    {fields : List FieldDeclaration} {reason : Escape} :
    (resolveColumns entity seen index (fields.map .declared)).result = .error (.escape reason) ↔
      reason = .overlong ∧ ReachesOverlongSize seen fields := by
  rw [resolveColumns_eq_error_iff (declares_declared fields), firstRefusal_iff, ReachesOverlongSize]
  simp only [FieldDeclaration.refused_escape_iff]
  constructor
  · rintro ⟨before, d, after, hsplit, hbefore, rfl, hd⟩
    exact ⟨rfl, before, d, after, hsplit, hbefore, hd⟩
  · rintro ⟨rfl, before, d, after, hsplit, hbefore, hd⟩
    exact ⟨before, d, after, hsplit, hbefore, rfl, hd⟩

/-! ## Defaults -/

/-- The default is an integer with too many digits to be written. -/
def DefaultValue.IsOverlong : DefaultValue → Prop
  | .integer _ n | .whole _ n => digitCeiling ≤ n.natAbs
  | _ => False

/-- A default has no literal exactly when it is an integer with too many digits. -/
lemma DefaultValue.literal_eq_overlong {d : DefaultValue} :
    d.literal = .error .overlong ↔ d.IsOverlong := by
  have hinteger : ∀ n, writeInteger n = .error .overlong ↔ digitCeiling ≤ n.natAbs := by
    intro n
    rw [writeInteger]
    split_ifs with h
    · simp [h]
    · simpa using h
  cases d with
  | integer width n => exact hinteger n
  | whole precision n => exact hinteger n
  | none => simp [literal, IsOverlong]
  | real precision x => simp [literal, IsOverlong]
  | bool b => simp [literal, IsOverlong]
  | text s => simp [literal, IsOverlong]

/-- There is one way in which a number is too long. -/
instance : Subsingleton OverlongInteger :=
  ⟨fun .overlong .overlong => rfl⟩

/-- The statement that creates a table cannot be written exactly when one of the defaults cannot. -/
lemma Schema.createTable_eq_overlong {s : Schema} :
    s.createTable = .error .overlong ↔ ∃ c ∈ s.columns, c.default.IsOverlong := by
  have hclause : ∀ c : Column, c.clause (c.name == s.primaryKey.name) = .error .overlong ↔
      c.default.IsOverlong := by
    intro c
    rw [Column.clause, map_eq_error, DefaultValue.clause, map_eq_error,
      DefaultValue.literal_eq_overlong]
  rw [createTable, map_eq_error, columnClauses, mapM_eq_error]
  simp only [hclause]

/-! ## Entities -/

/-- Queries are rendered or refused. -/
lemma queryStatements_ne_escape {entity : String} {taken : List String} {queries : List Query}
    (reason : Escape) : (queryStatements entity taken queries).result ≠ .error (.escape reason) := by
  induction queries generalizing taken with
  | nil => exact fun h => absurd h (by simp [queryStatements])
  | cons q rest ih =>
    have hstatement : (q.statement entity).result ≠ .error (.escape reason) := by
      rw [Query.statement_result]
      cases q.fault? <;> simp [Failure.element]
    rw [queryStatements_cons]
    intro h
    by_cases hname : q.name ∈ taken
    · rw [if_pos hname] at h
      exact absurd h (by simp [Failure.element])
    · rw [if_neg hname] at h
      cases hfind : taken.find? fun name => Query.accessorName name == q.accessor with
      | some first =>
        rw [hfind] at h
        exact absurd h (by simp [Failure.element])
      | none =>
        rw [hfind] at h
        rcases bind_eq_error.mp h with h | ⟨statement, -, h⟩
        · exact hstatement h
        · exact ih (map_eq_error.mp h)

/-- The generation of artifacts for columns that can be written breaks off exactly when the queries
are accepted and a default is too long. -/
lemma Schema.generate_eq_escape {s : Schema} {queries : List Query} {settings : Settings}
    (hwritable : ∀ c ∈ s.columns, c.isWritable = true) {reason : Escape} :
    (s.generate queries settings).result = .error (.escape reason) ↔ reason = .overlong ∧
      AcceptedInTurn (fun q : Query => q.fault? = none) Query.accessor [] queries ∧
        ∃ c ∈ s.columns, c.default.IsOverlong := by
  have hqueries : (∃ statements, (queryStatements s.entity [] queries).result = .ok statements) ↔
      AcceptedInTurn (fun q : Query => q.fault? = none) Query.accessor [] queries :=
    queryStatements_ok_iff
  rw [generate_result, bind_eq_error, ← hqueries, ← createTable_eq_overlong]
  constructor
  · rintro (h | ⟨statements, hstatements, h⟩)
    · exact absurd h (queryStatements_ne_escape reason)
    · cases htext : s.createTable with
      | error e =>
        rw [htext] at h
        have hreason : Failure.overlong = .escape reason := Except.error.inj h
        exact ⟨(Failure.escape.inj hreason).symm, ⟨statements, hstatements⟩,
          by rw [Subsingleton.elim e .overlong]⟩
      | ok text =>
        rw [htext] at h
        rcases bind_eq_error.mp h with h | ⟨createTable, -, h⟩
        · exact absurd h (by simp [Step.ofWritten])
        · rcases bind_eq_error.mp h with h | ⟨plan, -, h⟩
          · exact absurd h (planDecode_ne_escape hwritable reason)
          · exact absurd h (by simp)
  · rintro ⟨rfl, ⟨statements, hstatements⟩, htext⟩
    refine Or.inr ⟨statements, hstatements, ?_⟩
    rw [htext]
    rfl

/-- **Declarations beyond the digit limit.** The name of the entity is not blank, and either a field
is reached that asks for a size too long to be written, or the entity is resolved, its queries are
accepted, and one of its defaults is an integer too long to be written. -/
def EntityDeclaration.ExceedsDigits (d : EntityDeclaration) (settings : Settings) : Prop :=
  isBlankText d.name = false ∧ ReachesOverlongSize [] d.fields ∨
    ∃ s, (d.resolve settings).result = .ok s ∧
      AcceptedInTurn (fun q : Query => q.fault? = none) Query.accessor [] d.queries ∧
        ∃ c ∈ s.columns, c.default.IsOverlong

end SqlMapping
