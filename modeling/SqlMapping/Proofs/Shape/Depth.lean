import Mathlib.Tactic.Lemma
import Mathlib.Tactic.SplitIfs
import SqlMapping.Proofs.Result
import SqlMapping.Proofs.Shape.Record

/-!
# How deep a reading looks

A value has a literal in the room for as many levels as it has, unless a number in it is too long
(`literal_ne_tooDeep`). Reading is given up only where a literal is asked for: a record is read as
its fields are (`isGivenUp_readRecord`), a list as its items are (`isGivenUp_readList`), and scalars
are read or refused (`Persists`).
-/

namespace SqlMapping

open SqlMapping.Shape

/-! ## Levels -/

namespace Value

variable {room : Nat}

/-- Values of a list have no more levels than the list leaves them. -/
lemma levels_le_of_levelsOfAll {items : List Value} (h : levelsOfAll items ≤ room) :
    ∀ v ∈ items, v.levels ≤ room := by
  induction items with
  | nil => exact fun v hv => absurd hv List.not_mem_nil
  | cons v rest ih =>
    rw [levelsOfAll, Nat.max_le] at h
    exact List.forall_mem_cons.mpr ⟨h.1, ih h.2⟩

/-- Keys and values of entries have no more levels than the mapping leaves them. -/
lemma levels_le_of_levelsOfEntries {entries : List (Value × Value)}
    (h : levelsOfEntries entries ≤ room) :
    ∀ e ∈ entries, e.1.levels ≤ room ∧ e.2.levels ≤ room := by
  induction entries with
  | nil => exact fun e he => absurd he List.not_mem_nil
  | cons e rest ih =>
    rw [levelsOfEntries, Nat.max_le, Nat.max_le] at h
    exact List.forall_mem_cons.mpr ⟨h.1, ih h.2⟩

/-- Values of attributes have no more levels than the object leaves them. -/
lemma levels_le_of_levelsOfAttributes {attributes : List (String × Value)}
    (h : levelsOfAttributes attributes ≤ room) : ∀ a ∈ attributes, a.2.levels ≤ room := by
  induction attributes with
  | nil => exact fun a ha => absurd ha List.not_mem_nil
  | cons a rest ih =>
    rw [levelsOfAttributes, Nat.max_le] at h
    exact List.forall_mem_cons.mpr ⟨h.1, ih h.2⟩

/-- What is found in a mapping has no more levels than the mapping leaves it. -/
lemma levels_le_of_lookup {key v : Value} {entries : List (Value × Value)}
    (h : lookup? key entries = some v) (hroom : levelsOfEntries entries ≤ room) :
    v.levels ≤ room := by
  induction entries with
  | nil => exact absurd h (by simp [lookup?])
  | cons e rest ih =>
    rw [levelsOfEntries, Nat.max_le, Nat.max_le] at hroom
    rw [lookup?] at h
    split_ifs at h
    · obtain rfl := Option.some.inj h
      exact hroom.1.2
    · exact ih h hroom.2

/-! ## Literals -/

/-- A sequence goes too deep only in one of its steps. -/
lemma bind_ne_tooDeep {α β : Type} {x : Except LiteralFault α} {f : α → Except LiteralFault β}
    (hx : x ≠ .error .tooDeep) (hf : ∀ a, f a ≠ .error .tooDeep) : (x >>= f) ≠ .error .tooDeep := by
  intro h
  rcases bind_eq_error.mp h with hfirst | ⟨a, -, hrest⟩
  · exact hx hfirst
  · exact hf a hrest

/-- A value is no fault. -/
lemma pure_ne_tooDeep {α : Type} (a : α) : (pure a : Except LiteralFault α) ≠ .error .tooDeep := by
  simp [pure, Except.pure]

/-- The literals of values go too deep only in one of them. -/
lemma literals_ne_tooDeep {items : List Value}
    (h : ∀ v ∈ items, v.literal room ≠ .error .tooDeep) :
    literals room items ≠ .error .tooDeep := by
  induction items with
  | nil => simp [literals]
  | cons v rest ih =>
    rw [List.forall_mem_cons] at h
    rw [literals]
    exact bind_ne_tooDeep h.1 fun _ => bind_ne_tooDeep (ih h.2) fun _ => pure_ne_tooDeep _

/-- The literals of entries go too deep only in a key or a value. -/
lemma entryLiterals_ne_tooDeep {entries : List (Value × Value)}
    (h : ∀ e ∈ entries, e.1.literal room ≠ .error .tooDeep ∧ e.2.literal room ≠ .error .tooDeep) :
    entryLiterals room entries ≠ .error .tooDeep := by
  induction entries with
  | nil => simp [entryLiterals]
  | cons e rest ih =>
    rw [List.forall_mem_cons] at h
    rw [entryLiterals]
    exact bind_ne_tooDeep h.1.1 fun _ => bind_ne_tooDeep h.1.2 fun _ =>
      bind_ne_tooDeep (ih h.2) fun _ => pure_ne_tooDeep _

/-- The literals of attributes go too deep only in a value. -/
lemma attributeLiterals_ne_tooDeep {attributes : List (String × Value)}
    (h : ∀ a ∈ attributes, a.2.literal room ≠ .error .tooDeep) :
    attributeLiterals room attributes ≠ .error .tooDeep := by
  induction attributes with
  | nil => simp [attributeLiterals]
  | cons a rest ih =>
    rw [List.forall_mem_cons] at h
    rw [attributeLiterals]
    exact bind_ne_tooDeep h.1 fun _ => bind_ne_tooDeep (ih h.2) fun _ => pure_ne_tooDeep _

/-- A value that has no more levels than there is room for is not nested too deeply. -/
theorem literal_ne_tooDeep {v : Value} (h : v.levels ≤ room) :
    v.literal room ≠ .error .tooDeep := by
  -- a set takes two levels at once, so the induction is not from one level to the next
  induction room using Nat.strongRecOn generalizing v with
  | ind room ih =>
    cases room with
    | zero => cases v <;> simp [levels] at h
    | succ room =>
      have hparts {items : List Value} {n : Nat} (hn : n ≤ room) (hall : levelsOfAll items ≤ n) :
          literals n items ≠ .error .tooDeep :=
        literals_ne_tooDeep fun v hv => ih n (by omega) (levels_le_of_levelsOfAll hall v hv)
      cases v with
      | null | bool | real | decimal | text | bytes | date =>
        rw [literal]
        simp
      | int n =>
        rw [literal]
        cases Number.writeInteger n <;> simp [Except.mapError]
      | dateTime t =>
        have hzone : ¬room < zoneLevels t := by rw [levels] at h; omega
        rw [literal, timeLiteral, if_neg hzone]
        simp
      | list items | tuple items | row _ items =>
        rw [levels] at h
        rw [literal]
        exact bind_ne_tooDeep (hparts (Nat.le_refl room) (by omega)) fun _ => pure_ne_tooDeep _
      | set items =>
        rw [levels] at h
        cases items with
        | nil => rw [literal]; simp
        | cons v items =>
          obtain ⟨n, rfl⟩ : ∃ n, room = n + 1 := ⟨room - 1, by omega⟩
          rw [literal]
          exact bind_ne_tooDeep (hparts (Nat.le_succ n) (by omega)) fun _ => pure_ne_tooDeep _
      | mapping entries =>
        rw [levels] at h
        rw [literal]
        refine bind_ne_tooDeep (entryLiterals_ne_tooDeep fun e he => ?_) fun _ => pure_ne_tooDeep _
        have hentries : levelsOfEntries entries ≤ room := by omega
        have hentry := levels_le_of_levelsOfEntries hentries e he
        exact ⟨ih room (by omega) hentry.1, ih room (by omega) hentry.2⟩
      | object attributes =>
        rw [levels] at h
        rw [literal]
        refine bind_ne_tooDeep (attributeLiterals_ne_tooDeep fun a ha => ?_) fun _ =>
          pure_ne_tooDeep _
        exact ih room (by omega) (levels_le_of_levelsOfAttributes (by omega) a ha)

end Value

/-! ## Checked results -/

namespace Shape

variable {α β : Type}

namespace Checked

/-- A flaw gives the reading up only if it is that of a value that is nested too deeply. -/
lemma isGivenUp_flaw {f : Flaw} (h : f ≠ .tooDeep) : (flaw f : Checked α).isGivenUp = false := by
  simp [flaw, isGivenUp, h]

/-- A mapped result is given up when the result is. -/
@[simp] lemma isGivenUp_map (f : α → β) (x : Checked α) : (x.map f).isGivenUp = x.isGivenUp := by
  cases x <;> rfl

/-- A result is given up wherever it is seen from. -/
@[simp] lemma isGivenUp_within (step : PathStep) (x : Checked α) :
    (x.within step).isGivenUp = x.isGivenUp := by
  cases x with
  | valid a => rfl
  | invalid ps => simp [within, isGivenUp, Problem.within, Function.comp_def]

/-- An applied result is given up when the function or its argument is. -/
@[simp] lemma isGivenUp_apply (f : Checked (α → β)) (x : Checked α) :
    (f.apply x).isGivenUp = (f.isGivenUp || x.isGivenUp) := by
  cases f <;> cases x <;> simp [apply, isGivenUp]

/-- An applied result is given up when the function or its argument is. -/
@[simp] lemma isGivenUp_seq (f : Checked (α → β)) (x : Checked α) :
    (f <*> x).isGivenUp = (f.isGivenUp || x.isGivenUp) :=
  isGivenUp_apply f x

/-- A function over a result is given up when the result is. -/
@[simp] lemma isGivenUp_functor_map (f : α → β) (x : Checked α) :
    (f <$> x).isGivenUp = x.isGivenUp := by
  show (apply (.valid f) x).isGivenUp = _
  rw [isGivenUp_apply]
  rfl

/-- A sequence is not given up if none of its steps is. -/
lemma isGivenUp_andThen {x : Checked α} {f : α → Checked β} (hx : x.isGivenUp = false)
    (hf : ∀ a, x = .valid a → (f a).isGivenUp = false) : (x.andThen f).isGivenUp = false := by
  cases x with
  | valid a => exact hf a rfl
  | invalid ps => exact hx

end Checked

/-! ## Records and lists -/

/-- A reader that never gives up. -/
def Persists (read : Value → Checked α) : Prop :=
  ∀ v, (read v).isGivenUp = false

/-- A field that has to be present is read as its value is. -/
lemma isGivenUp_required {keys : List String} {read : Value → Checked α} {entries : Entries}
    (h : ∀ key v, findField keys entries = some (key, v) → (read v).isGivenUp = false) :
    (required keys read entries).isGivenUp = false := by
  rw [required]
  split
  · next key v hfound => rw [Checked.isGivenUp_within, h key v hfound]
  · rfl

/-- A field that has a default is read as its value is. -/
lemma isGivenUp_optional {keys : List String} {default : α} {read : Value → Checked α}
    {entries : Entries}
    (h : ∀ key v, findField keys entries = some (key, v) → (read v).isGivenUp = false) :
    (optional keys default read entries).isGivenUp = false := by
  rw [optional]
  split
  · next key v hfound => rw [Checked.isGivenUp_within, h key v hfound]
  · rfl

/-- A value that may be null is read as it is otherwise. -/
lemma isGivenUp_nullable {read : Value → Checked α} {v : Value} (h : (read v).isGivenUp = false) :
    (nullable read v).isGivenUp = false := by
  cases v with
  | null => rfl
  | _ => rw [nullable, Checked.isGivenUp_map, h]; simp

/-- Surplus keys are no values that are nested too deeply. -/
lemma any_surplusKeys_tooDeep (fields : List (List String)) (entries : Entries) :
    (surplusKeys fields entries).any (fun p => p.flaw == .tooDeep) = false := by
  rw [List.any_eq_false]
  intro p hp
  obtain ⟨e, -, he⟩ := List.mem_filterMap.mp hp
  dsimp only at he
  split at he
  · split_ifs at he <;> obtain rfl := Option.some.inj he <;> simp
  · obtain rfl := Option.some.inj he
    simp

/-- A record is read as its fields are, whatever keys it does not know. -/
lemma isGivenUp_readRecord {record : String} {fields : List (List String)}
    {read : Entries → Checked α} {v : Value}
    (h : ∀ entries, v = .mapping entries → (read entries).isGivenUp = false) :
    (readRecord record fields read v).isGivenUp = false := by
  cases v with
  | mapping entries =>
    have hread := h entries rfl
    have hsurplus := any_surplusKeys_tooDeep fields entries
    rw [readRecord]
    cases hkeys : surplusKeys fields entries with
    | nil => exact hread
    | cons p ps =>
      rw [hkeys] at hsurplus
      rw [refuseSurplus.eq_2 _ _ (by simp), if_neg (by simp [hread])]
      split_ifs
      · exact Checked.isGivenUp_flaw (by simp)
      · rw [Checked.isGivenUp_apply, Checked.isGivenUp_map, hread]
        exact hsurplus
  | _ => exact Checked.isGivenUp_flaw (by simp)

/-- Items are read as each of them is. -/
lemma isGivenUp_readItems {read : Value → Checked α} {items : List Value}
    (h : ∀ v ∈ items, (read v).isGivenUp = false) (i : Nat) :
    (readItems read i items).isGivenUp = false := by
  induction items generalizing i with
  | nil => rfl
  | cons v rest ih =>
    rw [List.forall_mem_cons] at h
    rw [readItems, Checked.isGivenUp_apply, Checked.isGivenUp_map, Checked.isGivenUp_within, h.1,
      ih h.2, Bool.or_false]

/-- Items have no more levels than what they are items of. -/
lemma levels_le_of_itemsOf {v : Value} {items : List Value} {room : Nat}
    (h : itemsOf v = some items) (hroom : v.levels ≤ room) : ∀ w ∈ items, w.levels ≤ room := by
  refine Value.levels_le_of_levelsOfAll ?_
  cases v with
  | list | tuple | set =>
    obtain rfl := Option.some.inj h
    rw [Value.levels] at hroom
    omega
  | _ => exact absurd h (by simp [itemsOf])

/-- A list is read as each of its items is. -/
lemma isGivenUp_readList {read : Value → Checked α} {v : Value}
    (h : ∀ items, itemsOf v = some items → ∀ w ∈ items, (read w).isGivenUp = false) :
    (readList read v).isGivenUp = false := by
  rw [readList]
  split
  · next items hitems => exact isGivenUp_readItems (h items hitems) 0
  · exact Checked.isGivenUp_flaw (by decide)

/-- A tuple is read as each of its items is. -/
lemma persists_readTuple {read : Value → Checked α} (h : Persists read) :
    Persists (readTuple read) := by
  intro v
  rw [readTuple]
  split
  · exact isGivenUp_readItems (fun w _ => h w) 0
  · exact Checked.isGivenUp_flaw (by decide)

/-! ## Scalars -/

/-- Texts are read or refused. -/
lemma persists_readText : Persists readText := by
  intro v
  rw [readText.eq_def]
  split
  · rfl
  · exact Checked.isGivenUp_flaw (by decide)
  · split
    · rfl
    · exact Checked.isGivenUp_flaw (by decide)
  · exact Checked.isGivenUp_flaw (by decide)

/-- What asks for characters is given up only with what it goes on with. -/
lemma isGivenUp_ifWhole {s : String} {result : Checked α} (h : result.isGivenUp = false) :
    (ifWhole s result).isGivenUp = false := by
  rw [ifWhole]
  split_ifs
  · exact h
  · exact Checked.isGivenUp_flaw (by decide)

/-- Texts that are not empty are read or refused. -/
lemma persists_readNonEmptyText : Persists readNonEmptyText := by
  refine fun v => Checked.isGivenUp_andThen (persists_readText v) fun s _ => isGivenUp_ifWhole ?_
  split_ifs
  · exact Checked.isGivenUp_flaw (by decide)
  · rfl

/-- Names of a list are read or refused. -/
lemma persists_readOneOf (all : List α) (name : α → String) : Persists (readOneOf all name) := by
  intro v
  rw [readOneOf.eq_def]
  dsimp only
  split
  · split
    · rfl
    · exact isGivenUp_ifWhole (Checked.isGivenUp_flaw (by simp))
  · exact Checked.isGivenUp_flaw (by simp)

/-- A text is read as an integer or refused. -/
lemma isGivenUp_integerOfText (cs : List Char) : (integerOfText cs).isGivenUp = false := by
  rw [integerOfText]
  dsimp only
  split_ifs
  · exact Checked.isGivenUp_flaw (by decide)
  · split
    · exact Checked.isGivenUp_flaw (by decide)
    · split_ifs
      · exact Checked.isGivenUp_flaw (by decide)
      · exact Checked.isGivenUp_flaw (by decide)
      · rfl

/-- A floating-point number is read as an integer or refused. -/
lemma isGivenUp_integerOfReal (x : Number.Real64) : (integerOfReal x).isGivenUp = false := by
  rw [integerOfReal]
  split
  · exact Checked.isGivenUp_flaw (by decide)
  · split
    · exact Checked.isGivenUp_flaw (by decide)
    · split_ifs
      · rfl
      · exact Checked.isGivenUp_flaw (by decide)

/-- A decimal number is read as an integer or refused. -/
lemma isGivenUp_integerOfDecimal (d : Number.Decimal) :
    (integerOfDecimal d).isGivenUp = false := by
  rw [integerOfDecimal]
  split
  · exact Checked.isGivenUp_flaw (by decide)
  · split
    · exact Checked.isGivenUp_flaw (by decide)
    · rfl

/-- Integers are read or refused. -/
lemma persists_readInt : Persists readInt := by
  intro v
  rw [readInt.eq_def]
  split
  · rfl
  · rfl
  · exact isGivenUp_integerOfReal _
  · exact isGivenUp_integerOfDecimal _
  · exact isGivenUp_ifWhole (isGivenUp_integerOfText _)
  · split
    · exact isGivenUp_integerOfText _
    · exact Checked.isGivenUp_flaw (by decide)
  · exact Checked.isGivenUp_flaw (by decide)

/-- Natural numbers are read or refused. -/
lemma persists_readNat : Persists readNat := by
  intro v
  rw [readNat, Checked.isGivenUp_map, readIntFrom]
  refine Checked.isGivenUp_andThen (persists_readInt v) fun n _ => ?_
  split_ifs
  · exact Checked.isGivenUp_flaw (by simp)
  · rfl

/-- A text is read as a truth value or refused. -/
lemma isGivenUp_booleanOfText (s : String) : (booleanOfText s).isGivenUp = false := by
  rw [booleanOfText]
  split_ifs
  · rfl
  · rfl
  · exact Checked.isGivenUp_flaw (by decide)

/-- An integer is read as a truth value or refused. -/
lemma isGivenUp_booleanOfInt (n : Int) : (booleanOfInt n).isGivenUp = false := by
  rw [booleanOfInt]
  split_ifs
  · rfl
  · rfl
  · exact Checked.isGivenUp_flaw (by decide)

/-- A floating-point number is read as a truth value or refused. -/
lemma isGivenUp_booleanOfReal (x : Number.Real64) : (booleanOfReal x).isGivenUp = false := by
  rw [booleanOfReal]
  split
  · exact isGivenUp_booleanOfInt _
  · exact Checked.isGivenUp_flaw (by decide)

/-- Truth values are read or refused. -/
lemma persists_readBool : Persists readBool := by
  intro v
  rw [readBool.eq_def]
  split
  · rfl
  · exact isGivenUp_ifWhole (isGivenUp_booleanOfText _)
  · split
    · exact isGivenUp_booleanOfText _
    · exact Checked.isGivenUp_flaw (by decide)
  · split_ifs
    · exact isGivenUp_booleanOfInt _
    · exact Checked.isGivenUp_flaw (by decide)
  · exact isGivenUp_booleanOfReal _
  · split
    · exact isGivenUp_booleanOfReal _
    · exact Checked.isGivenUp_flaw (by decide)
  · exact Checked.isGivenUp_flaw (by decide)

end Shape

end SqlMapping
