import Mathlib.Data.List.Basic
import Mathlib.Tactic.Lemma
import Mathlib.Tactic.SplitIfs
import SqlMapping.Shape.Record

/-!
# What is read of a record

When a checked result is valid, and what a record shows of the mapping that it is read from. A field
of a record is looked up under its keys, so that a value put under a key changes what is found for
the field of that key (`findField_insertKey_of_mem`) and for no other
(`findField_insertKey_of_notMem`), and adds no key that the record does not know
(`surplusKeys_insertKey`).
-/

namespace SqlMapping

/-! ## Checked results -/

namespace Shape.Checked

variable {α β : Type}

/-- A mapped result is valid exactly when the result is. -/
lemma map_eq_valid {f : α → β} {x : Checked α} {b : β} :
    x.map f = .valid b ↔ ∃ a, x = .valid a ∧ f a = b := by
  cases x <;> simp [map]

/-- An applied result is valid exactly when the function and its argument are. -/
lemma apply_eq_valid {f : Checked (α → β)} {x : Checked α} {b : β} :
    f.apply x = .valid b ↔ ∃ g, f = .valid g ∧ ∃ a, x = .valid a ∧ g a = b := by
  cases f <;> cases x <;> simp [apply]

/-- An applied result is valid exactly when the function and its argument are. -/
lemma seq_eq_valid {f : Checked (α → β)} {x : Checked α} {b : β} :
    (f <*> x) = .valid b ↔ ∃ g, f = .valid g ∧ ∃ a, x = .valid a ∧ g a = b :=
  apply_eq_valid

/-- A function over a result gives a valid one exactly when the result is valid. -/
lemma functor_map_eq_valid {f : α → β} {x : Checked α} {b : β} :
    (f <$> x) = .valid b ↔ ∃ a, x = .valid a ∧ f a = b := by
  show apply (.valid f) x = _ ↔ _
  cases x <;> simp [apply]

/-- A sequence is valid exactly when its steps are. -/
lemma andThen_eq_valid {x : Checked α} {f : α → Checked β} {b : β} :
    x.andThen f = .valid b ↔ ∃ a, x = .valid a ∧ f a = .valid b := by
  cases x <;> simp [andThen]

/-- A result is valid wherever it is seen from. -/
lemma within_eq_valid {step : PathStep} {x : Checked α} {a : α} :
    x.within step = .valid a ↔ x = .valid a := by
  cases x <;> simp [within]

end Shape.Checked

/-! ## Keys of mappings -/

namespace Value

/-- The same key as a text is that text. -/
lemma sameKey_text_iff {k : Value} {s : String} : k.sameKey (.text s) = true ↔ k = .text s := by
  cases k with
  | real x =>
    cases hx : x.toInt? <;> simp [sameKey, keyNumber?, hx]
  | decimal d =>
    cases hd : d.toInt? <;> simp [sameKey, keyNumber?, hd]
  | text t => simp [sameKey, keyNumber?]
  | _ => simp [sameKey, keyNumber?]

/-- A value that is put under a key is found there, and nothing else changes. -/
lemma get?_insertKey (name key : String) (v : Value) (entries : List (Value × Value)) :
    get? name (insertKey (.text key) v entries) =
      if name = key then some v else get? name entries := by
  induction entries with
  | nil =>
    have hkey : (Value.text key).sameKey (.text name) = true ↔ name = key := by
      rw [sameKey_text_iff, Value.text.injEq, eq_comm]
    simp [insertKey, get?, lookup?, hkey]
  | cons e entries ih =>
    rw [get?, get?] at ih
    rw [insertKey, get?]
    by_cases hfirst : e.1.sameKey (.text key) = true
    · have hname : e.1.sameKey (.text name) = true ↔ name = key := by
        rw [sameKey_text_iff, sameKey_text_iff.mp hfirst, Value.text.injEq, eq_comm]
      rw [if_pos hfirst, lookup?, get?, lookup?]
      split_ifs <;> simp_all
    · rw [if_neg hfirst, lookup?, ih, get?, lookup?]
      split_ifs with hname hkey
      · obtain rfl := hkey
        exact absurd hname hfirst
      · rfl
      · rfl
      · rfl

/-- The value that is put under a key last counts. -/
lemma insertKey_insertKey (key : String) (v w : Value) (entries : List (Value × Value)) :
    insertKey (.text key) v (insertKey (.text key) w entries) =
      insertKey (.text key) v entries := by
  induction entries with
  | nil => simp [insertKey, sameKey_text_iff]
  | cons e entries ih =>
    by_cases hfirst : e.1.sameKey (.text key) = true
    · simp [insertKey, hfirst]
    · simp [insertKey, hfirst, ih]

/-- Values are put under two keys in any order if one of the keys is there. -/
lemma insertKey_comm {key other : String} (hne : key ≠ other) (v w : Value)
    {entries : List (Value × Value)} (h : get? key entries ≠ none) :
    insertKey (.text key) v (insertKey (.text other) w entries) =
      insertKey (.text other) w (insertKey (.text key) v entries) := by
  induction entries with
  | nil => exact absurd rfl h
  | cons e entries ih =>
    by_cases hkey : e.1.sameKey (.text key) = true
    · have hother : ¬e.1.sameKey (.text other) = true := by
        rw [sameKey_text_iff, sameKey_text_iff.mp hkey, Value.text.injEq]
        exact hne
      simp [insertKey, hkey, hother]
    · by_cases hother : e.1.sameKey (.text other) = true
      · simp [insertKey, hkey, hother]
      · have hrest : get? key entries ≠ none := by
          rwa [get?, lookup?, if_neg hkey] at h
        simp [insertKey, hkey, hother, ih hrest]

/-- The keys of a mapping with one more entry are the new key and those that were there. -/
lemma fst_of_mem_insertKey {key : String} {v : Value} {entries : List (Value × Value)}
    {e : Value × Value} (h : e ∈ insertKey (.text key) v entries) :
    e.1 = .text key ∨ ∃ f ∈ entries, e.1 = f.1 := by
  induction entries with
  | nil =>
    rw [insertKey, List.mem_singleton] at h
    exact Or.inl (congrArg Prod.fst h)
  | cons f entries ih =>
    rw [insertKey] at h
    split_ifs at h with hfirst
    · rcases List.mem_cons.mp h with rfl | h
      · exact Or.inl (sameKey_text_iff.mp hfirst)
      · exact Or.inr ⟨e, List.mem_cons_of_mem _ h, rfl⟩
    · rcases List.mem_cons.mp h with rfl | h
      · exact Or.inr ⟨_, List.mem_cons_self, rfl⟩
      · rcases ih h with h | ⟨g, hg, heq⟩
        · exact Or.inl h
        · exact Or.inr ⟨g, List.mem_cons_of_mem _ hg, heq⟩

end Value

/-! ## Fields of records -/

namespace Shape

open Checked Value

variable {α : Type} {key : String} {keys : List String} {v : Value} {entries : Entries}

/-- The keys of a field, one after the other. -/
lemma findField_cons (first : String) (keys : List String) (entries : Entries) :
    findField (first :: keys) entries = match Value.get? first entries with
      | some v => some (first, v)
      | none => findField keys entries := by
  rw [findField, List.findSome?_cons]
  cases Value.get? first entries <;> rfl

/-- What is found for a field is the value of one of its keys. -/
lemma get?_of_findField (h : findField keys entries = some (key, v)) :
    key ∈ keys ∧ Value.get? key entries = some v := by
  obtain ⟨k, hk, hfound⟩ := List.exists_of_findSome?_eq_some h
  obtain ⟨w, hw, heq⟩ := Option.map_eq_some_iff.mp hfound
  obtain ⟨rfl, rfl⟩ := Prod.mk.inj heq
  exact ⟨hk, hw⟩

/-- A field of one key is found under that key. -/
lemma findField_singleton (h : Value.get? key entries = some v) :
    findField [key] entries = some (key, v) := by
  rw [findField_cons, h]

/-- A value under a key of other fields does not change what is found for a field. -/
lemma findField_insertKey_of_notMem (h : key ∉ keys) (v : Value) (entries : Entries) :
    findField keys (insertKey (.text key) v entries) = findField keys entries := by
  induction keys with
  | nil => rfl
  | cons first keys ih =>
    rw [List.mem_cons, not_or] at h
    rw [findField_cons, findField_cons, get?_insertKey, if_neg (Ne.symm h.1), ih h.2]

/-- A value under a key of a field is found for it if no other key of the field is there first. -/
lemma findField_insertKey_of_mem (hmem : key ∈ keys)
    (h : ∀ k w, findField keys entries = some (k, w) → k = key) (v : Value) :
    findField keys (insertKey (.text key) v entries) = some (key, v) := by
  induction keys with
  | nil => exact absurd hmem List.not_mem_nil
  | cons first keys ih =>
    rw [findField_cons, get?_insertKey]
    by_cases hfirst : first = key
    · rw [if_pos hfirst, hfirst]
    · rw [if_neg hfirst]
      rw [findField_cons] at h
      cases hget : Value.get? first entries with
      | some w =>
        rw [hget] at h
        exact absurd (h first w rfl) hfirst
      | none =>
        rw [hget] at h
        exact ih ((List.mem_cons.mp hmem).resolve_left (Ne.symm hfirst)) h

/-- A value under a key of other fields does not change what is read of a field that has to be
there. -/
lemma required_insertKey_of_notMem (h : key ∉ keys) (read : Value → Checked α) (v : Value)
    (entries : Entries) :
    required keys read (insertKey (.text key) v entries) = required keys read entries := by
  rw [required, required, findField_insertKey_of_notMem h]

/-- A value under a key of other fields does not change what is read of a field that may be
missing. -/
lemma optional_insertKey_of_notMem (h : key ∉ keys) (default : α) (read : Value → Checked α)
    (v : Value) (entries : Entries) :
    optional keys default read (insertKey (.text key) v entries) =
      optional keys default read entries := by
  rw [optional, optional, findField_insertKey_of_notMem h]

/-- A field that is there is read. -/
lemma required_eq_valid {read : Value → Checked α} {a : α}
    (hfield : findField keys entries = some (key, v)) (hread : read v = .valid a) :
    required keys read entries = .valid a := by
  rw [required, hfield]
  exact within_eq_valid.mpr hread

/-- A field that is there is read, and its default does not matter. -/
lemma optional_eq_valid {read : Value → Checked α} {a default : α}
    (hfield : findField keys entries = some (key, v)) (hread : read v = .valid a) :
    optional keys default read entries = .valid a := by
  rw [optional, hfield]
  exact within_eq_valid.mpr hread

/-- What is read of a field that has to be there is read of a value. -/
lemma exists_of_required {read : Value → Checked α} {a : α}
    (h : required keys read entries = .valid a) : ∃ v, read v = .valid a := by
  rw [required] at h
  cases hfield : findField keys entries with
  | none =>
    rw [hfield] at h
    exact absurd h (by simp)
  | some field =>
    rw [hfield] at h
    exact ⟨field.2, within_eq_valid.mp h⟩

/-- What is read of a field that may be missing is its default, or read of a value. -/
lemma exists_of_optional {read : Value → Checked α} {a default : α}
    (h : optional keys default read entries = .valid a) : a = default ∨ ∃ v, read v = .valid a := by
  rw [optional] at h
  cases hfield : findField keys entries with
  | none =>
    rw [hfield] at h
    exact Or.inl (Checked.valid.inj h).symm
  | some field =>
    rw [hfield] at h
    exact Or.inr ⟨field.2, within_eq_valid.mp h⟩

/-- A value is read where null is allowed as it is where null is not. -/
lemma nullable_eq_valid_some {read : Value → Checked α} {a : α} (h : read v = .valid a)
    (hnull : v ≠ .null) : nullable read v = .valid (some a) := by
  have hmap : nullable read v = (read v).map some := by
    cases v with
    | null => exact absurd rfl hnull
    | _ => rfl
  rw [hmap, h]
  rfl

/-- What is read where null is allowed is read of the value itself. -/
lemma eq_valid_of_nullable {read : Value → Checked α} {a : α}
    (h : nullable read v = .valid (some a)) : read v = .valid a := by
  cases v with
  | null => exact absurd h (by simp [nullable])
  | _ =>
    rw [nullable, map_eq_valid] at h
    · obtain ⟨b, hb, heq⟩ := h
      rw [hb, Option.some.inj heq]
    · simp

/-- What is read of a value that is not null is not missing. -/
lemma exists_of_nullable {read : Value → Checked α} {a : Option α} (h : nullable read v = .valid a)
    (hnull : v ≠ .null) : ∃ b, a = some b := by
  cases v with
  | null => exact absurd rfl hnull
  | _ =>
    rw [nullable, map_eq_valid] at h
    · obtain ⟨b, -, heq⟩ := h
      exact ⟨b, heq.symm⟩
    · simp

/-- A text that can be a name: it consists of characters, and is not empty. -/
structure IsName (s : String) : Prop where
  /-- No half of a surrogate pair stands in it. -/
  isWhole : Text.isWhole s = true
  /-- It is not empty. -/
  ne_empty : s ≠ ""

/-- A name is read as itself. -/
lemma IsName.readNonEmptyText {s : String} (h : IsName s) :
    readNonEmptyText (.text s) = .valid s := by
  rw [Shape.readNonEmptyText, readText, Checked.andThen_valid, ifWhole, if_pos h.isWhole,
    if_neg h.ne_empty]

/-- A text that is read where a name is asked for is one. -/
lemma isName_of_readNonEmptyText {s : String} (h : readNonEmptyText v = .valid s) : IsName s := by
  obtain ⟨text, -, htext⟩ := andThen_eq_valid.mp h
  rw [ifWhole] at htext
  split_ifs at htext with hwhole hempty
  · exact absurd htext (by simp [flaw])
  · obtain rfl := Checked.valid.inj htext
    exact ⟨hwhole, hempty⟩
  · exact absurd htext (by simp [flaw])

/-- A record is valid with its surplus keys exactly when there are none and it is valid. -/
lemma refuseSurplus_eq_valid {x : Checked α} {surplus : List Problem} {a : α} :
    refuseSurplus x surplus = .valid a ↔ x = .valid a ∧ surplus = [] := by
  cases surplus with
  | nil => simp [refuseSurplus]
  | cons p ps =>
    refine iff_of_false (fun h => ?_) (by simp)
    simp only [refuseSurplus] at h
    cases x with
    | valid b =>
      rw [if_neg (by simp [isGivenUp])] at h
      split_ifs at h <;> exact absurd h (by simp [flaw, Checked.apply])
    | invalid qs => split_ifs at h <;> exact absurd h (by simp [flaw, Checked.map, Checked.apply])

/-- A record is read from a mapping whose fields are read, and that has no other keys. -/
lemma readRecord_eq_valid {record : String} {fields : List (List String)}
    {read : Entries → Checked α} {a : α} :
    readRecord record fields read (.mapping entries) = .valid a ↔
      read entries = .valid a ∧ surplusKeys fields entries = [] := by
  rw [readRecord, refuseSurplus_eq_valid]

/-- A mapping has no keys that a record does not know exactly when every key is one under which a
field is found. -/
lemma surplusKeys_eq_nil_iff {fields : List (List String)} :
    surplusKeys fields entries = [] ↔
      ∀ e ∈ entries, ∃ keys ∈ fields, ∃ k w, findField keys entries = some (k, w) ∧
        e.1 = .text k := by
  rw [surplusKeys, List.filterMap_eq_nil_iff]
  refine forall₂_congr fun e _ => ?_
  obtain ⟨k, v⟩ := e
  cases k with
  | text s => by_cases hwhole : Text.isWhole s = true <;> simp [hwhole]
  | _ => simp

/-- A value under a key of a record adds no key that the record does not know. -/
lemma surplusKeys_insertKey {fields : List (List String)} (h : surplusKeys fields entries = [])
    (hknown : ∃ keys ∈ fields, key ∈ keys)
    (hfirst : ∀ keys ∈ fields, key ∈ keys →
      ∀ k w, findField keys entries = some (k, w) → k = key) (v : Value) :
    surplusKeys fields (insertKey (.text key) v entries) = [] := by
  rw [surplusKeys_eq_nil_iff] at h ⊢
  intro e he
  rcases fst_of_mem_insertKey he with hkey | ⟨f, hf, hkey⟩
  · obtain ⟨keys, hkeys, hmem⟩ := hknown
    exact ⟨keys, hkeys, key, v, findField_insertKey_of_mem hmem (hfirst keys hkeys hmem) v, hkey⟩
  · obtain ⟨keys, hkeys, k, w, hfound, htext⟩ := h f hf
    refine ⟨keys, hkeys, k, ?_⟩
    rw [hkey, htext]
    by_cases hmem : key ∈ keys
    · obtain rfl := hfirst keys hkeys hmem k w hfound
      exact ⟨v, findField_insertKey_of_mem hmem (hfirst keys hkeys hmem) v, rfl⟩
    · exact ⟨w, (findField_insertKey_of_notMem hmem v entries).trans hfound, rfl⟩

end Shape

end SqlMapping
