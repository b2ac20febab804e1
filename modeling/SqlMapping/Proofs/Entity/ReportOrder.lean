import SqlMapping.Proofs.Entity.Refusal

/-!
# The order of reports

Fields are settled one after the other, so the defect that is reported is one of the first field
that has any: a missing column type, a size beyond the bound, or a name that stands before
(`resolveColumns_eq_error_iff`). The documented order goes by kinds instead: every missing column
type comes before every size beyond its bound, and these come before repeated names
(`ReportsInOrder`). The two agree exactly when the first field with a defect leads the others
(`LeadsByKind`): no defect of an earlier kind stands behind it, and the size in its report can be
written.
-/

namespace SqlMapping

open SqlMapping.Number SqlMapping.Text

/-! ## First members -/

/-- A list that has a member of a kind has a first one. -/
lemma exists_first {α : Type} {p : α → Prop} {xs : List α} (h : ∃ x ∈ xs, p x) :
    ∃ before x after, xs = before ++ x :: after ∧ (∀ y ∈ before, ¬p y) ∧ p x := by
  induction xs with
  | nil =>
    obtain ⟨x, hx, -⟩ := h
    exact absurd hx List.not_mem_nil
  | cons x xs ih =>
    by_cases hx : p x
    · exact ⟨[], x, xs, rfl, by simp, hx⟩
    · obtain ⟨y, hy, hp⟩ := h
      rcases List.mem_cons.mp hy with rfl | hy
      · exact absurd hp hx
      · obtain ⟨before, z, after, rfl, hbefore, hz⟩ := ih ⟨y, hy, hp⟩
        exact ⟨x :: before, z, after, rfl, List.forall_mem_cons.mpr ⟨hx, hbefore⟩, hz⟩

/-- The first member of a kind is determined. -/
lemma first_unique {α : Type} {p : α → Prop} {before before' after after' : List α} {x x' : α}
    (hsplit : before ++ x :: after = before' ++ x' :: after') (hbefore : ∀ y ∈ before, ¬p y)
    (hbefore' : ∀ y ∈ before', ¬p y) (hx : p x) (hx' : p x') : x = x' := by
  induction before generalizing before' with
  | nil =>
    cases before' with
    | nil => exact (List.cons.inj hsplit).1
    | cons y before' =>
      obtain ⟨rfl, -⟩ := List.cons.inj hsplit
      exact absurd hx (hbefore' x List.mem_cons_self)
  | cons y before ih =>
    cases before' with
    | nil =>
      obtain ⟨rfl, -⟩ := List.cons.inj hsplit
      exact absurd hx' (hbefore y List.mem_cons_self)
    | cons y' before' =>
      obtain ⟨-, hrest⟩ := List.cons.inj hsplit
      exact ih hrest (fun z hz => hbefore z (List.mem_cons_of_mem _ hz))
        fun z hz => hbefore' z (List.mem_cons_of_mem _ hz)

open FieldDeclaration

/-! ## The report of an entity -/

section Entity

variable {entity : String} {table : Option String} {fields : List FieldInput}
  {declarations : List FieldDeclaration} {settings : Settings}

/-- The first refusal is the failure of an entity. -/
lemma resolve_of_firstRefusal (hnamed : isBlankText entity = false)
    (hdeclares : Declares fields declarations) {e : Failure}
    (h : FirstRefusal entity [] declarations e) :
    (Schema.resolve entity table fields settings).result = .error e := by
  rw [Schema.resolve_of_named table fields settings (by simp [hnamed]), bind_eq_error]
  exact Or.inl ((resolveColumns_eq_error_iff hdeclares).mpr h)

/-- The keys of accepted fields decide what becomes of an entity. -/
lemma resolve_of_accepted (table : Option String) (settings : Settings)
    (hnamed : isBlankText entity = false)
    (hdeclares : Declares fields declarations)
    (h : AcceptedInTurn IsAccepted FieldDeclaration.name [] declarations) :
    ∃ columns, List.Forall₂ SettlesAs declarations columns ∧
      (Schema.resolve entity table fields settings).result =
        Schema.settle entity table settings columns := by
  obtain ⟨haccepted, hdistinct, -⟩ := h
  obtain ⟨columns, hcolumns⟩ := exists_columns fun d hd =>
    exists_settlesAs_iff.mpr (haccepted d hd)
  have hresolve : (resolveColumns entity [] 0 fields).result = .ok columns := by
    refine resolveColumns_eq_ok_iff.mpr ⟨⟨declarations, hdeclares, hcolumns⟩, by simp, ?_, by simp⟩
    rw [map_name_of_settlesAs hcolumns]
    exact hdistinct
  refine ⟨columns, hcolumns, ?_⟩
  rw [Schema.resolve_of_named table fields settings (by simp [hnamed]), hresolve]
  rfl

/-- The flagged columns of declarations have the names of the flagged fields. -/
lemma keyNames_of_settlesAs {columns : List Column}
    (h : List.Forall₂ SettlesAs declarations columns) :
    keyNames columns =
      (declarations.filter FieldDeclaration.isKey).map FieldDeclaration.name := by
  induction h with
  | nil => rfl
  | @cons d c declarations columns hsettles _ ih =>
    have hkey := hsettles.isKey
    rw [keyNames] at ih
    by_cases hflag : d.isKey = true
    · simp [keyNames, hflag, hkey, ih, hsettles.name]
    · simp [keyNames, hflag, hkey, ih]

end Entity

/-- **The documented order of reports.** Defects go by kinds, and in one kind by fields. -/
structure ReportsInOrder (entity : String) (table : Option String) (settings : Settings)
    (declarations : List FieldDeclaration) (result : Except Failure Schema) : Prop where
  /-- If a field has no column type, the first such field is reported. -/
  untyped : ∀ before d after, declarations = before ++ d :: after →
    (∀ e ∈ before, e.columnType ≠ none) → d.columnType = none →
      result = .error (.mapping ⟨some entity, .missingColumnType d.name⟩)
  /-- Otherwise, if a size lies beyond its bound, the first such field is reported. -/
  oversized : (∀ e ∈ declarations, e.columnType ≠ none) →
    ∀ before d after (requested maximum : Nat), declarations = before ++ d :: after →
      (∀ e ∈ before, ¬e.IsOversized) → d.Exceeds requested maximum →
        result = .error (.mapping ⟨some entity, .sizeExceeded d.name requested maximum⟩)
  /-- Otherwise, if a name is repeated, such a name is reported. -/
  repeated : (∀ e ∈ declarations, e.IsAccepted) →
    ¬(declarations.map FieldDeclaration.name).Nodup →
      ∃ field, 2 ≤ (declarations.map FieldDeclaration.name).count field ∧
        result = .error (.element (some entity) (.repeatedField field))
  /-- Otherwise, if no field is flagged as primary key, the entity is reported. -/
  keyless : (∀ e ∈ declarations, e.IsAccepted) →
    (declarations.map FieldDeclaration.name).Nodup → (∀ e ∈ declarations, e.isKey = false) →
      result = .error (.mapping ⟨some entity, .noPrimaryKey entity⟩)
  /-- Otherwise, if several fields are and this is refused, they are reported. -/
  severalKeys : (∀ e ∈ declarations, e.IsAccepted) →
    (declarations.map FieldDeclaration.name).Nodup → settings.rejectsSeveralKeys = true →
      2 ≤ (declarations.filter FieldDeclaration.isKey).length →
        result = .error (.mapping ⟨some entity, .multiplePrimaryKeys
          ((declarations.filter FieldDeclaration.isKey).map FieldDeclaration.name)⟩)
  /-- Otherwise there is a schema, if it takes the names of the entity and of its table. -/
  resolved : (∀ e ∈ declarations, e.IsAccepted) →
    (declarations.map FieldDeclaration.name).Nodup → (∃ e ∈ declarations, e.isKey = true) →
      (settings.rejectsSeveralKeys = true →
        (declarations.filter FieldDeclaration.isKey).length = 1) →
          if Schema.TakesNames entity (tableName entity table) then ∃ s, result = .ok s
          else result = .error (Schema.refuseNames entity (tableName entity table))

/-- No defect of an earlier kind stands behind a field, and its size, if it is beyond the bound, can
be written. -/
structure LeadsByKind (d : FieldDeclaration) (after : List FieldDeclaration) : Prop where
  /-- If the field has a column type, the others have. -/
  typed : d.columnType ≠ none → ∀ e ∈ after, e.columnType ≠ none
  /-- If its size is within the bound, too, those of the others are. -/
  sized : d.IsAccepted → ∀ e ∈ after, ¬e.IsOversized
  /-- A size beyond the bound has few enough digits. -/
  writable : ∀ requested maximum, d.Exceeds requested maximum → requested < digitCeiling

/-- The first field with a defect leads those behind it. -/
def FirstDefectLeads (declarations : List FieldDeclaration) : Prop :=
  ∀ before d after, declarations = before ++ d :: after →
    AcceptedInTurn IsAccepted FieldDeclaration.name [] before →
      ¬(d.IsAccepted ∧ d.name ∉ before.map FieldDeclaration.name) → LeadsByKind d after

section Order

variable {entity : String} {table : Option String} {fields : List FieldInput}
  {declarations : List FieldDeclaration} {settings : Settings}

/-- The first field with a defect, and the fields before and behind it. -/
structure FirstDefect (declarations before : List FieldDeclaration) (d : FieldDeclaration)
    (after : List FieldDeclaration) : Prop where
  /-- These are the fields. -/
  split : declarations = before ++ d :: after
  /-- Those before it are accepted under distinct names. -/
  accepted : AcceptedInTurn IsAccepted FieldDeclaration.name [] before
  /-- It is not accepted, or its name stands before it. -/
  defect : ¬(d.IsAccepted ∧ d.name ∉ before.map FieldDeclaration.name)

/-- If fields are not accepted under distinct names, there is a first field with a defect. -/
lemma exists_firstDefect
    (h : ¬AcceptedInTurn IsAccepted FieldDeclaration.name [] declarations) :
    ∃ before d after, FirstDefect declarations before d after := by
  rcases acceptedInTurn_or_firstRefusal "" [] declarations with haccepted | ⟨e, hrefusal⟩
  · exact absurd haccepted h
  · obtain ⟨before, d, after, hsplit, hbefore, hrefused⟩ := firstRefusal_iff.mp hrefusal
    exact ⟨before, d, after, hsplit, hbefore, by simpa using hrefused.not_accepted⟩

namespace FirstDefect

variable {before before' after after' : List FieldDeclaration} {d d' : FieldDeclaration}

/-- The first field with a defect is refused, and this is the failure of the entity. -/
lemma exists_refusal (h : FirstDefect declarations before d after) (table : Option String)
    (settings : Settings) (hnamed : isBlankText entity = false)
    (hdeclares : Declares fields declarations) :
    ∃ e, d.Refused entity (before.map FieldDeclaration.name).reverse e ∧
      (Schema.resolve entity table fields settings).result = .error e := by
  obtain ⟨e, hrefused⟩ :=
    d.exists_refused entity (before.map FieldDeclaration.name).reverse (by simpa using h.defect)
  refine ⟨e, hrefused, resolve_of_firstRefusal hnamed hdeclares (firstRefusal_iff.mpr ?_)⟩
  exact ⟨before, d, after, h.split, h.accepted, by simpa using hrefused⟩

/-- It is one of the fields. -/
lemma mem (h : FirstDefect declarations before d after) : d ∈ declarations := by
  simp [h.split]

/-- The fields behind it are some of the fields. -/
lemma mem_of_mem_after (h : FirstDefect declarations before d after) {f : FieldDeclaration}
    (hf : f ∈ after) : f ∈ declarations := by
  simp [h.split, hf]

/-- What holds of accepted fields, of the first field with a defect and of those behind it holds of
all fields. -/
lemma forall_mem {p : FieldDeclaration → Prop} (h : FirstDefect declarations before d after)
    (hp : ∀ f, f.IsAccepted → p f) (hpd : p d) (hafter : ∀ f ∈ after, p f) :
    ∀ f ∈ declarations, p f := by
  intro f hf
  rw [h.split, List.mem_append, List.mem_cons] at hf
  rcases hf with hf | rfl | hf
  · exact hp f (h.accepted.1 f hf)
  · exact hpd
  · exact hafter f hf

/-- The first field without a column type is the first field with a defect, if this leads. -/
lemma eq_of_first_untyped (h : FirstDefect declarations before d after) (hleads : LeadsByKind d after)
    (hsplit : declarations = before' ++ d' :: after')
    (hbefore : ∀ f ∈ before', f.columnType ≠ none) (huntyped : d'.columnType = none) : d' = d := by
  have hd : d.columnType = none := by
    by_contra htyped
    exact h.forall_mem (fun f => IsAccepted.typed) htyped (hleads.typed htyped) d' (by simp [hsplit])
      huntyped
  exact first_unique (p := fun f : FieldDeclaration => f.columnType = none)
    (hsplit.symm.trans h.split) hbefore (fun f hf => (h.accepted.1 f hf).typed) huntyped hd

/-- The first field of a size beyond its bound is the first field with a defect, if this leads and
all fields have column types. -/
lemma eq_of_first_oversized (h : FirstDefect declarations before d after)
    (hleads : LeadsByKind d after) (htyped : ∀ f ∈ declarations, f.columnType ≠ none)
    (hsplit : declarations = before' ++ d' :: after') (hbefore : ∀ f ∈ before', ¬f.IsOversized)
    (hoversized : d'.IsOversized) : d' = d := by
  have hd : d.IsOversized := by
    by_contra hsize
    have haccepted := isAccepted_of_typed (htyped d h.mem) hsize
    exact h.forall_mem (fun f => IsAccepted.not_isOversized) hsize (hleads.sized haccepted) d'
      (by simp [hsplit]) hoversized
  exact first_unique (hsplit.symm.trans h.split) hbefore
    (fun f hf => (h.accepted.1 f hf).not_isOversized) hoversized hd

/-- A name that stands before the first field with a defect occurs twice. -/
lemma two_le_count (h : FirstDefect declarations before d after)
    (hmem : d.name ∈ before.map FieldDeclaration.name) :
    2 ≤ (declarations.map FieldDeclaration.name).count d.name := by
  have hcount := List.count_pos_iff.mpr hmem
  rw [h.split, List.map_append, List.map_cons, List.count_append, List.count_cons_self]
  omega

/-- If all fields are accepted by themselves, their names are not distinct. -/
lemma not_nodup (h : FirstDefect declarations before d after)
    (haccepted : ∀ f ∈ declarations, f.IsAccepted) :
    ¬(declarations.map FieldDeclaration.name).Nodup := by
  intro hdistinct
  refine h.defect ⟨haccepted d h.mem, fun hmem => ?_⟩
  have htwo := h.two_le_count hmem
  have hone := List.nodup_iff_count_le_one.mp hdistinct d.name
  omega

end FirstDefect

/-- A report in the documented order is one of a first defect that leads the others. -/
lemma firstDefectLeads_of_reportsInOrder (hnamed : isBlankText entity = false)
    (hdeclares : Declares fields declarations)
    (h : ReportsInOrder entity table settings declarations
      (Schema.resolve entity table fields settings).result) : FirstDefectLeads declarations := by
  intro before d after hsplit hbefore hd
  have hfirst : FirstDefect declarations before d after := ⟨hsplit, hbefore, hd⟩
  obtain ⟨e, hrefused, hresult⟩ := hfirst.exists_refusal table settings hnamed hdeclares
  rw [hresult] at h
  have htyped : d.columnType ≠ none → ∀ f ∈ declarations, f.columnType ≠ none := by
    intro hd f hf hfnone
    obtain ⟨before', d', after', hsplit', hbefore', hd'⟩ :=
      exists_first (p := fun f : FieldDeclaration => f.columnType = none) ⟨f, hf, hfnone⟩
    have hreport := Except.error.inj (h.untyped before' d' after' hsplit' hbefore' hd')
    exact hd (hrefused.columnType_eq_none hreport)
  constructor
  · exact fun hd f hf => htyped hd f (hfirst.mem_of_mem_after hf)
  · intro haccepted f hf hoversized
    obtain ⟨before', d', after', hsplit', hbefore', requested, maximum, hexceeds⟩ :=
      exists_first (p := IsOversized) ⟨f, hfirst.mem_of_mem_after hf, hoversized⟩
    have hreport := Except.error.inj
      (h.oversized (htyped haccepted.typed) before' d' after' _ _ hsplit' hbefore' hexceeds)
    exact haccepted.not_isOversized ⟨_, _, (hrefused.exceeds_and_lt hreport).1⟩
  · intro requested maximum hexceeds
    have hreport := Except.error.inj (h.oversized (htyped hexceeds.typed) before d after _ _ hsplit
      (fun f hf => (hbefore.1 f hf).not_isOversized) hexceeds)
    exact (hrefused.exceeds_and_lt hreport).2

/-- Accepted fields are reported in the documented order: their keys decide. -/
lemma reportsInOrder_of_accepted (hnamed : isBlankText entity = false)
    (hdeclares : Declares fields declarations)
    (h : AcceptedInTurn IsAccepted FieldDeclaration.name [] declarations) :
    ReportsInOrder entity table settings declarations
      (Schema.resolve entity table fields settings).result := by
  obtain ⟨columns, hcolumns, hresult⟩ :=
    resolve_of_accepted table settings hnamed hdeclares h
  have hkeys := keyNames_of_settlesAs hcolumns
  rw [hresult, Schema.settle, hkeys, List.length_map]
  exact {
    untyped := fun before d after hsplit _ huntyped =>
      absurd huntyped (h.1 d (by simp [hsplit])).typed
    oversized := fun _ before d after _ _ hsplit _ hexceeds =>
      absurd ⟨_, _, hexceeds⟩ (h.1 d (by simp [hsplit])).not_isOversized
    repeated := fun _ hrepeated => absurd h.2.1 hrepeated
    keyless := by
      intro _ _ hkeyless
      rw [dif_neg]
      rw [any_isKey_iff hcolumns]
      rintro ⟨d, hd, hkey⟩
      exact absurd hkey (by simp [hkeyless d hd])
    severalKeys := by
      intro _ _ hrejects hseveral
      have hkeyed : columns.any Column.isKey = true := by
        obtain ⟨d, hd⟩ := List.exists_mem_of_length_pos (Nat.lt_of_lt_of_le (by decide) hseveral)
        exact (any_isKey_iff hcolumns).mpr ⟨d, List.mem_filter.mp hd⟩
      rw [dif_pos hkeyed, if_pos ⟨hseveral, hrejects⟩]
    resolved := by
      intro _ _ hkeyed hsingle
      have hfew : ¬((declarations.filter FieldDeclaration.isKey).length > 1 ∧
          settings.rejectsSeveralKeys = true) := by
        rintro ⟨hseveral, hrejects⟩
        exact absurd (hsingle hrejects) (Nat.ne_of_gt hseveral)
      rw [dif_pos ((any_isKey_iff hcolumns).mpr hkeyed), if_neg hfew]
      split_ifs
      · exact ⟨_, rfl⟩
      · rfl }

/-- Fields whose first defect leads the others are reported in the documented order. -/
lemma reportsInOrder_of_firstDefect (hnamed : isBlankText entity = false)
    (hdeclares : Declares fields declarations) {before after : List FieldDeclaration}
    {d : FieldDeclaration} (hfirst : FirstDefect declarations before d after)
    (hleads : LeadsByKind d after) :
    ReportsInOrder entity table settings declarations
      (Schema.resolve entity table fields settings).result := by
  obtain ⟨e, hrefused, hresult⟩ := hfirst.exists_refusal table settings hnamed hdeclares
  rw [hresult]
  exact {
    untyped := by
      intro before' d' after' hsplit hbefore huntyped
      obtain rfl := hfirst.eq_of_first_untyped hleads hsplit hbefore huntyped
      rw [hrefused.eq_missingColumnType huntyped]
    oversized := by
      intro htyped before' d' after' requested maximum hsplit hbefore hexceeds
      obtain rfl := hfirst.eq_of_first_oversized hleads htyped hsplit hbefore ⟨_, _, hexceeds⟩
      rw [hrefused.eq_oversize hexceeds, oversize, if_pos (hleads.writable _ _ hexceeds)]
      rfl
    repeated := by
      intro haccepted _
      obtain ⟨htaken, he⟩ := hrefused.repeated_of_isAccepted (haccepted d hfirst.mem)
      exact ⟨d.name, hfirst.two_le_count (List.mem_reverse.mp htaken), by rw [he]⟩
    keyless := fun haccepted hdistinct => absurd hdistinct (hfirst.not_nodup haccepted)
    severalKeys := fun haccepted hdistinct => absurd hdistinct (hfirst.not_nodup haccepted)
    resolved := fun haccepted hdistinct => absurd hdistinct (hfirst.not_nodup haccepted) }

end Order

/-- **The order of reports.** The defects of an entity are reported in the documented order exactly
when the first field with a defect leads those behind it. -/
theorem reportsInOrder_iff {entity : String} {table : Option String} {fields : List FieldInput}
    {declarations : List FieldDeclaration} {settings : Settings}
    (hnamed : isBlankText entity = false) (hdeclares : Declares fields declarations) :
    ReportsInOrder entity table settings declarations
        (Schema.resolve entity table fields settings).result ↔ FirstDefectLeads declarations := by
  constructor
  · exact firstDefectLeads_of_reportsInOrder hnamed hdeclares
  · intro hleads
    by_cases haccepted : AcceptedInTurn IsAccepted FieldDeclaration.name [] declarations
    · exact reportsInOrder_of_accepted hnamed hdeclares haccepted
    · obtain ⟨before, d, after, hfirst⟩ := exists_firstDefect haccepted
      exact reportsInOrder_of_firstDefect hnamed hdeclares hfirst
        (hleads before d after hfirst.split hfirst.accepted hfirst.defect)

/-- A field without a column type, and behind it one of a repeated name and of a size beyond its
bound. -/
def untypedFirst : List FieldInput :=
  [.raw 100 (.mapping [(.text "name", .text "id"), (.text "type", .text "int"),
    (.text "primary_key", .bool true)]),
   .declared { name := "note" },
   .declared { name := "id", columnType := some .char, size := some 256 }]

/-- The column type that is missing is reported before the size and the name. -/
theorem reportsInOrder_untypedFirst :
    ∃ declarations, isBlankText "Card" = false ∧ Declares untypedFirst declarations ∧
      ReportsInOrder "Card" none {} declarations
        (Schema.resolve "Card" none untypedFirst {}).result := by
  refine ⟨[{ name := "id", columnType := some .int, isKey := true }, { name := "note" },
    { name := "id", columnType := some .char, size := some 256 }], by decide,
    .cons rfl (.cons rfl (.cons rfl .nil)),
    (reportsInOrder_iff (by decide) (.cons rfl (.cons rfl (.cons rfl .nil)))).mpr ?_⟩
  intro before d after hsplit hbefore hd
  match before with
  | [] =>
    obtain ⟨rfl, -⟩ := List.cons.inj hsplit
    exact absurd ⟨⟨.int, rfl, fun sizing h => absurd h (by simp [ColumnType.sizing?])⟩, by simp⟩ hd
  | [_] =>
    obtain ⟨-, hrest⟩ := List.cons.inj hsplit
    obtain ⟨rfl, -⟩ := List.cons.inj hrest
    exact ⟨fun h => absurd rfl h, fun h => absurd rfl h.typed,
      fun _ _ h => absurd rfl h.typed⟩
  | _ :: second :: _ =>
    obtain ⟨-, hrest⟩ := List.cons.inj hsplit
    obtain ⟨rfl, -⟩ := List.cons.inj hrest
    exact absurd rfl (hbefore.1 { name := "note" } (by simp)).typed

/-- A field of a size beyond its bound, and behind it one without a column type. -/
def untypedLast : List FieldDeclaration :=
  [{ name := "code", columnType := some .char, size := some 256, isKey := true },
   { name := "note" }]

/-- The size is reported, and the column type that is missing is not. -/
theorem not_reportsInOrder_untypedLast :
    ¬ReportsInOrder "Card" none {} untypedLast
      (Schema.resolve "Card" none (untypedLast.map .declared) {}).result := by
  intro h
  have hdeclares : Declares (untypedLast.map .declared) untypedLast := .cons rfl (.cons rfl .nil)
  have hexceeds : FieldDeclaration.Exceeds
      { name := "code", columnType := some .char, size := some 256, isKey := true } 256 255 :=
    ⟨.char, ⟨255, 1⟩, rfl, rfl, rfl, rfl, by decide⟩
  have hsizing : ColumnType.varChar.sizing? = some ⟨65535, 255⟩ := rfl
  have hshort : 256 < digitCeiling :=
    Nat.lt_trans (by decide) (ColumnType.max_lt_digitCeiling hsizing)
  have hresult : (Schema.resolve "Card" none (untypedLast.map .declared) {}).result =
      .error (oversize "Card" "code" 256 255) :=
    resolve_of_firstRefusal (by decide) hdeclares (.here (.oversized hexceeds))
  have hreport := h.untyped (untypedLast.take 1) { name := "note" } [] rfl
    (by simp [untypedLast]) rfl
  rw [hresult, oversize, if_pos hshort] at hreport
  exact absurd hreport (by simp)

end SqlMapping
