import SqlMapping.Proofs.Batch.Isolation
import SqlMapping.Proofs.Shape.Depth

/-!
# How deep a batch looks

The only part of a declaration whose literal is asked for when it is read is a default that does not
fit its kind. So a declaration breaks off a batch because of its depth only if its data has more
levels than there is room for (`Escapes.lt_levels`).
-/

namespace SqlMapping

open SqlMapping.Shape

/-! ## Parts of declarations -/

/-- References are read or refused. -/
lemma Reference.persists_read : Persists Reference.read := by
  have haction : Persists ReferentialAction.read := by
    intro v
    rw [ReferentialAction.read.eq_def]
    split
    · exact persists_readOneOf _ _ _
    · exact persists_readOneOf _ _ v
  refine fun v => isGivenUp_readRecord fun entries _ => ?_
  simp only [Checked.isGivenUp_seq, Checked.isGivenUp_functor_map,
    isGivenUp_required fun _ v _ => persists_readNonEmptyText v,
    isGivenUp_optional fun _ v _ => haction v, Bool.or_false]

/-- Queries are read or refused. -/
lemma Query.persists_read : Persists Query.read := by
  have hparameter : Persists QueryParameter.read := by
    refine fun v => isGivenUp_readRecord fun entries _ => ?_
    simp only [Checked.isGivenUp_seq, Checked.isGivenUp_functor_map,
      isGivenUp_required fun _ v _ => persists_readNonEmptyText v,
      isGivenUp_optional fun _ v _ => persists_readText v, Bool.or_false]
  refine fun v => isGivenUp_readRecord fun entries _ => ?_
  simp only [Checked.isGivenUp_seq, Checked.isGivenUp_functor_map,
    isGivenUp_required fun _ v _ => persists_readText v,
    isGivenUp_optional fun _ v _ => persists_readTuple hparameter v, Bool.or_false]

/-- Kinds of defaults are read or refused. -/
lemma DefaultKind.persists_read : Persists DefaultKind.read := by
  intro v
  rw [DefaultKind.read.eq_def]
  split
  · exact persists_readOneOf _ _ _
  · exact persists_readOneOf _ _ v

/-! ## Defaults -/

namespace DefaultValue

/-- A value that does not fit a kind is refused if there is room to show it. -/
lemma isGivenUp_mismatch {room : Nat} {v : Value} (h : v.levels ≤ room) (kind : DefaultKind)
    (needs : String) : (mismatch room kind needs v).isGivenUp = false := by
  have hdeep := Value.literal_ne_tooDeep h
  rw [mismatch]
  split
  · exact Checked.isGivenUp_flaw (by simp)
  · exact Checked.isGivenUp_flaw (by simp)
  · next hliteral => exact absurd hliteral hdeep

/-- A kind and a value make a default, or are refused if there is room to show the value. -/
lemma isGivenUp_ofParts {room : Nat} {v : Value} (h : v.levels ≤ room) (kind : DefaultKind) :
    (ofParts room kind v).isGivenUp = false := by
  have hmismatch := isGivenUp_mismatch h
  have hinteger (width : IntegerWidth) : (ofInteger room width v).isGivenUp = false := by
    rw [ofInteger.eq_def]
    split
    · rfl
    · exact hmismatch _ _
  have hreal (precision : RealPrecision) : (ofReal room precision v).isGivenUp = false := by
    rw [ofReal.eq_def]
    split
    · rfl
    · rfl
    · exact hmismatch _ _
  rw [ofParts.eq_def]
  split
  · rfl
  · exact Checked.isGivenUp_flaw (by simp)
  · exact hinteger .int
  · exact hinteger .long
  · exact hinteger .short
  · exact hreal .float
  · exact hreal .double
  · rfl
  · exact hmismatch _ _
  · rfl
  · exact hmismatch _ _

/-- A default is read or refused if there is room to show it. -/
lemma isGivenUp_read {room : Nat} {v : Value} (h : v.levels ≤ room) :
    (read room v).isGivenUp = false := by
  have hrecord (entries : Entries) :
      (((optional ["kind"] DefaultKind.none DefaultKind.read entries).map Prod.mk).apply
        (optional ["value"] Value.null .valid entries)).isGivenUp = false := by
    rw [Checked.isGivenUp_apply, Checked.isGivenUp_map,
      isGivenUp_optional fun _ w _ => DefaultKind.persists_read w,
      isGivenUp_optional fun _ _ _ => rfl, Bool.or_false]
  refine Checked.isGivenUp_andThen (isGivenUp_readRecord fun entries _ => hrecord entries) ?_
  rintro ⟨kind, value⟩ hparts
  cases v with
  | mapping entries =>
    rw [Value.levels] at h
    obtain ⟨f, hf, w, hw, hpair⟩ := Checked.apply_eq_valid.mp (readRecord_eq_valid.mp hparts).1
    obtain ⟨k, -, rfl⟩ := Checked.map_eq_valid.mp hf
    obtain rfl : w = value := congrArg Prod.snd hpair
    refine isGivenUp_ofParts ?_ kind
    rw [Shape.optional] at hw
    split at hw
    · next key found hfound =>
      obtain rfl := Checked.valid.inj (Checked.within_eq_valid.mp hw)
      exact Value.levels_le_of_lookup (get?_of_findField hfound).2 (by omega)
    · obtain rfl := Checked.valid.inj hw
      rw [Value.levels]
      · omega
      all_goals simp
  | _ => exact absurd hparts (by simp [readRecord, Checked.flaw])

end DefaultValue

/-! ## Fields -/

namespace FieldDeclaration

/-- The default of a declared field stays when its type is split. -/
lemma findField_splitType {entries plain : Entries} (h : splitType entries = .ok plain) :
    findField ["default"] plain = findField ["default"] entries := by
  have hsized {raw : String} {sized : Entries} (hsize : moveSize raw entries = .ok sized) :
      findField ["default"] sized = findField ["default"] entries := by
    rw [moveSize] at hsize
    split at hsize
    · rw [Except.ok.inj hsize]
    · split_ifs at hsize
      split at hsize
      · split at hsize
        · rw [← Except.ok.inj hsize, findField_insertKey_of_notMem (by decide)]
        · exact absurd hsize (by simp)
        · exact absurd hsize (by simp)
      · split at hsize
        · rw [← Except.ok.inj hsize, findField_insertKey_of_notMem (by decide)]
        · exact absurd hsize (by simp)
        · exact absurd hsize (by simp)
      · rw [Except.ok.inj hsize]
  rw [splitType] at h
  split at h
  · next key raw hfound =>
    have hnever : ∀ key ∈ typeKeys, key ∉ ["default"] := by decide
    have hkey := hnever key (get?_of_findField hfound).1
    obtain ⟨sized, hsize, h⟩ := bind_eq_ok.mp h
    split at h
    · rw [← Except.ok.inj h, findField_insertKey_of_notMem hkey, hsized hsize]
    · exact absurd h (by simp)
  · rw [Except.ok.inj h]

/-- The fields of a declaration are read or refused if there is room to show the default. -/
lemma isGivenUp_readFields {room : Nat} {entries : Entries}
    (h : ∀ key w, findField ["default"] entries = some (key, w) → w.levels ≤ room) :
    (readFields room (.mapping entries)).isGivenUp = false := by
  refine isGivenUp_readRecord fun es hes => ?_
  obtain rfl := Value.mapping.inj hes
  have htype : Persists (nullable readColumnType) := fun w =>
    isGivenUp_nullable (persists_readOneOf _ _ w)
  have hsize : Persists (nullable readNat) := fun w => isGivenUp_nullable (persists_readNat w)
  have hreference : Persists (nullable Reference.read) := fun w =>
    isGivenUp_nullable (Reference.persists_read w)
  simp only [Checked.isGivenUp_seq, Checked.isGivenUp_functor_map, Bool.or_false,
    isGivenUp_required fun _ w _ => persists_readNonEmptyText w,
    isGivenUp_optional fun _ w _ => persists_readText w,
    isGivenUp_optional fun _ w _ => persists_readBool w,
    isGivenUp_optional fun _ w _ => htype w, isGivenUp_optional fun _ w _ => hsize w,
    isGivenUp_optional fun _ w _ => hreference w]
  exact isGivenUp_optional fun key w hfound =>
    isGivenUp_nullable (DefaultValue.isGivenUp_read (h key w hfound))

/-- A declared field is read or refused if there is room to show its default. -/
lemma isGivenUp_read {room : Nat} {v : Value} (h : v.levels ≤ room) :
    (read room v).isGivenUp = false := by
  cases v with
  | mapping entries =>
    rw [Value.levels] at h
    rw [read]
    split
    · next plain hplain =>
      refine isGivenUp_readFields fun key w hfound => ?_
      rw [findField_splitType hplain] at hfound
      exact Value.levels_le_of_lookup (get?_of_findField hfound).2 (by omega)
    · exact Checked.isGivenUp_flaw (by simp)
  | _ => rfl

end FieldDeclaration

/-! ## Entities -/

/-- An entity declaration is read or refused if there is room to show its defaults. -/
lemma EntityDeclaration.isGivenUp_read {room : Nat} {v : Value} (h : v.levels ≤ room) :
    (read room v).isGivenUp = false := by
  refine isGivenUp_readRecord fun entries hentries => ?_
  subst hentries
  rw [Value.levels] at h
  have htable : Persists readTable := by
    intro w
    rw [readTable.eq_def]
    split
    · rfl
    · exact persists_readText w
  have hqueries : Persists (readList Query.read) := fun w =>
    isGivenUp_readList fun _ _ x _ => Query.persists_read x
  simp only [Checked.isGivenUp_seq, Checked.isGivenUp_functor_map, Bool.or_false, Bool.false_or,
    isGivenUp_required fun _ w _ => persists_readNonEmptyText w,
    isGivenUp_optional fun _ w _ => htable w, isGivenUp_optional fun _ w _ => hqueries w]
  refine isGivenUp_optional fun key w hfound => isGivenUp_readList fun items hitems x hx => ?_
  have hw : w.levels ≤ room := Value.levels_le_of_lookup (get?_of_findField hfound).2 (by omega)
  exact FieldDeclaration.isGivenUp_read (levels_le_of_itemsOf hitems hw x hx)

/-- The reading of a declaration is given up only if its data has more levels than there is room for. -/
theorem DeclarationInput.lt_levels_of_isGivenUp {room : Nat} {v : Value}
    (h : IsGivenUp (.raw room v)) : room < v.levels := by
  by_contra hroom
  cases v with
  | mapping entries =>
    rw [IsGivenUp, EntityDeclaration.isGivenUp_read (Nat.not_lt.mp hroom)] at h
    exact absurd h (by simp)
  | _ => exact h

/-- **Which declarations are too deep.** A declaration breaks off a batch because of its depth only if
its data has more levels than there is room for. -/
theorem DeclarationInput.Escapes.lt_levels {room : Nat} {v : Value} {index : Nat}
    {settings : Settings} (h : Escapes (.raw room v) index settings .tooDeep) :
    room < v.levels := by
  cases h with
  | tooDeep hgiven => exact lt_levels_of_isGivenUp hgiven
  | declared _ hescapes => cases hescapes

end SqlMapping
