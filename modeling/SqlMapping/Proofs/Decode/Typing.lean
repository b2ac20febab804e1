import SqlMapping.Proofs.Decode.RowShape
import SqlMapping.Proofs.Decode.Timestamp

/-!
# The types of decoded values

Each decoder has a type of values, and leaves the values of this type as they are. What it makes of
any other value, if it makes anything of it, is of its type. So a decoded row is typed step by step,
and a second decoding of it changes nothing (`decodeRow_typed`), from whatever kinds of values and
from whatever shape of row it came.
-/

namespace SqlMapping

/-! ## Types -/

/-- The values that are of the type of a decoder. -/
inductive HasType : Decoder → Value → Prop where
  | int (n : Int) : HasType .int (.int n)
  | long (n : Int) : HasType .long (.int n)
  | short {n : Int} (hlow : -32768 ≤ n) (hhigh : n ≤ 32767) : HasType .short (.int n)
  | string (s : String) : HasType .string (.text s)
  | boolean (b : Bool) : HasType .boolean (.bool b)
  | float (x : Number.Real64) : HasType .float (.real x)
  | double (x : Number.Real64) : HasType .double (.real x)
  | timestamp {t : Calendar.DateTime} (hnaive : t.offset = none) : HasType .timestamp (.dateTime t)
  | object (v : Value) : HasType .object v

/-- What a decoder makes of a value. -/
structure DecodesTo (d : Decoder) (given result : Value) : Prop where
  /-- Null and nothing else becomes null. -/
  null : result = .null ↔ given = .null
  /-- Anything else becomes a value of the type of the decoder. -/
  typed : result ≠ .null → HasType d result
  /-- The untyped decoder changes nothing. -/
  unchanged : d = .object → result = given

/-! ## Decoders -/

/-- The decoder of short integers keeps within 16 bits. -/
lemma short_eq_ok {v : Value} {n : Int} (h : Decode.short v = .ok n) : -32768 ≤ n ∧ n ≤ 32767 := by
  rw [Decode.short] at h
  obtain ⟨m, -, h⟩ := bind_eq_ok.mp h
  split_ifs at h with hrange
  · obtain rfl : m = n := Except.ok.inj h
    simpa using hrange
  · generalize Number.writeInteger m = written at h
    cases written <;> cases h

/-- Short integers stay what they are. -/
lemma short_int {n : Int} (hlow : -32768 ≤ n) (hhigh : n ≤ 32767) :
    Decode.short (.int n) = .ok n := by
  have hrange : (-32768 ≤ n && n ≤ 32767) = true := by
    rw [Bool.and_eq_true, decide_eq_true_eq, decide_eq_true_eq]
    exact ⟨hlow, hhigh⟩
  exact bind_eq_ok.mpr ⟨n, rfl, if_pos hrange⟩

/-- What becomes of a value that is not null. -/
lemma decodesTo_of_hasType {d : Decoder} {given result : Value} (hgiven : given ≠ .null)
    (hresult : result ≠ .null) (htyped : HasType d result)
    (hunchanged : d = .object → result = given) : DecodesTo d given result :=
  ⟨⟨fun h => absurd h hresult, fun h => absurd h hgiven⟩, fun _ => htyped, hunchanged⟩

/-- A decoder turns values into values of its type. -/
lemma decodesTo_of_apply {d : Decoder} {given result : Value}
    (h : d.apply given = .ok result) : DecodesTo d given result := by
  by_cases hgiven : given = .null
  · subst hgiven
    obtain rfl : Value.null = result := Except.ok.inj h
    exact ⟨Iff.rfl, fun hne => absurd rfl hne, fun _ => rfl⟩
  rw [d.apply_of_ne_null hgiven] at h
  cases d with
  | int =>
    obtain ⟨n, -, rfl⟩ := map_eq_ok.mp h
    exact decodesTo_of_hasType hgiven (by simp) (.int n) (by simp)
  | long =>
    obtain ⟨n, -, rfl⟩ := map_eq_ok.mp h
    exact decodesTo_of_hasType hgiven (by simp) (.long n) (by simp)
  | short =>
    obtain ⟨n, hn, rfl⟩ := map_eq_ok.mp h
    obtain ⟨hlow, hhigh⟩ := short_eq_ok hn
    exact decodesTo_of_hasType hgiven (by simp) (.short hlow hhigh) (by simp)
  | string =>
    obtain ⟨s, -, rfl⟩ := map_eq_ok.mp h
    exact decodesTo_of_hasType hgiven (by simp) (.string s) (by simp)
  | boolean =>
    rw [← Except.ok.inj h]
    exact decodesTo_of_hasType hgiven (by simp) (.boolean _) (by simp)
  | float =>
    obtain ⟨x, -, rfl⟩ := map_eq_ok.mp h
    exact decodesTo_of_hasType hgiven (by simp) (.float x) (by simp)
  | double =>
    obtain ⟨x, -, rfl⟩ := map_eq_ok.mp h
    exact decodesTo_of_hasType hgiven (by simp) (.double x) (by simp)
  | timestamp =>
    obtain ⟨t, ht, rfl⟩ := map_eq_ok.mp h
    exact decodesTo_of_hasType hgiven (by simp) (.timestamp (Decode.offset_of_timestamp ht))
      (by simp)
  | object =>
    rw [← Except.ok.inj h]
    exact decodesTo_of_hasType hgiven hgiven (.object given) fun _ => rfl

/-- A decoder leaves the values of its type as they are. -/
lemma apply_of_hasType {d : Decoder} {v : Value} (h : HasType d v) : d.apply v = .ok v := by
  cases h with
  | int n | long n | string s | boolean b | float x | double x => rfl
  | short hlow hhigh => exact congrArg (Except.map Value.int) (short_int hlow hhigh)
  | timestamp hnaive =>
    exact congrArg (Except.map Value.dateTime) (Decode.naive_of_offset_eq_none hnaive)
  | object v => cases v <;> rfl

/-- A decoder leaves what it has decoded as it is. -/
lemma DecodesTo.apply {d : Decoder} {given result : Value} (h : DecodesTo d given result) :
    d.apply result = .ok result := by
  by_cases hnull : result = .null
  · rw [hnull]
    rfl
  · exact apply_of_hasType (h.typed hnull)

/-! ## Rows -/

/-- A step turns the value that it reads in a row into one of the type of its decoder. -/
lemma decodesTo_of_run {step : DecodeStep} {row result : Value} (h : step.run row = .ok result) :
    ∃ given, step.lookUp row = .ok given ∧ DecodesTo step.decoder given result := by
  obtain ⟨given, hgiven, happly⟩ := bind_eq_ok.mp h
  exact ⟨given, hgiven, decodesTo_of_apply happly⟩

/-- The steps of columns stand at their positions. -/
lemma position_of_getElem?_eq_some {columns : List Column} {place : Nat} {step : DecodeStep}
    (h : (decodeSteps 0 columns)[place]? = some step) : step.position = place := by
  rw [decodeSteps, List.getElem?_map, Option.map_eq_some_iff] at h
  obtain ⟨⟨c, position⟩, hplaced, rfl⟩ := h
  rw [List.getElem?_zipIdx, Option.map_eq_some_iff] at hplaced
  obtain ⟨_, -, heq⟩ := hplaced
  rw [Column.position_decodeStep, ← (Prod.mk.inj heq).2, Nat.zero_add]

/-- A step that has decoded a value finds it in the list of the decoded values, and leaves it as it
is. -/
lemma run_decoded {step : DecodeStep} {values : List Value} {given result : Value}
    (hplace : values[step.position]? = some result) (h : DecodesTo step.decoder given result) :
    step.run (.list values) = .ok result := by
  have hfound : step.lookUp (.list values) = .ok result := by
    rw [Access.lookUp_positional List.mem_cons_self, Value.itemAt, hplace]
  rw [Access.run_of_lookUp hfound, h.apply]

/-- **Decoded rows are typed.** Take a plan that decodes columns, and a row of any shape that it
decodes. There is one decoded value for each step; it is null where the value that the step reads is
null, and otherwise it is of the type of the decoder of the step. Decoding the list of the decoded
values with the same plan gives the same list. -/
theorem decodeRow_typed {entity : String} {rejectsUntyped : Bool} {columns : List Column}
    {plan : List DecodeStep} {row : Value} {values : List Value}
    (hplan : (planDecode entity rejectsUntyped 0 columns).result = .ok plan)
    (hdecode : decodeRow plan row = .ok values) :
    plan.map DecodeStep.column = columns.map Column.name ∧
      values.length = plan.length ∧
      (∀ (place : Nat) (step : DecodeStep), plan[place]? = some step →
        ∃ given result, step.lookUp row = .ok given ∧ values[place]? = some result ∧
          DecodesTo step.decoder given result) ∧
      decodeRow plan (.list values) = .ok values := by
  rw [eq_decodeSteps_of_planDecode hplan] at hdecode ⊢
  have hruns := mapM_eq_ok.mp hdecode
  have htyped : ∀ (place : Nat) (step : DecodeStep),
      (decodeSteps 0 columns)[place]? = some step →
      ∃ given result, step.lookUp row = .ok given ∧ values[place]? = some result ∧
        DecodesTo step.decoder given result := by
    intro place step hstep
    obtain ⟨hplace, rfl⟩ := List.getElem?_eq_some_iff.mp hstep
    have hvalue : place < values.length := hruns.length_eq ▸ hplace
    obtain ⟨given, hgiven, hdecoded⟩ := decodesTo_of_run (hruns.get hplace hvalue)
    exact ⟨given, _, hgiven, List.getElem?_eq_getElem hvalue, hdecoded⟩
  refine ⟨map_column_decodeSteps 0 columns, hruns.length_eq.symm, htyped, ?_⟩
  refine mapM_eq_ok.mpr (List.forall₂_iff_get.mpr ⟨hruns.length_eq, fun place hplace hvalue => ?_⟩)
  have hstep := List.getElem?_eq_getElem hplace
  obtain ⟨given, result, -, hresult, hdecoded⟩ := htyped place _ hstep
  have hread : values[(decodeSteps 0 columns)[place].position]? = some result := by
    rw [position_of_getElem?_eq_some hstep, hresult]
  have hget : values.get ⟨place, hvalue⟩ = result :=
    Option.some.inj ((List.getElem?_eq_getElem hvalue).symm.trans hresult)
  rw [hget]
  exact run_decoded hread hdecoded

/-- A rank, a time and a mark. -/
def rankedColumns : List Column :=
  [{ name := "rank", hostType := "short", type := .smallInt },
   { name := "time", hostType := "datetime", type := .timestamp },
   { name := "mark", hostType := "bool", type := .bool }]

/-- A rank that is written as a text, no time, and a number for a mark. -/
def rankedRow : Value :=
  .mapping [(.text "mark", .int 0), (.text "rank", .text " -32768 "), (.text "time", .null)]

/-- The values that are decoded from such a row stay what they are. -/
theorem decodeRow_typed_ranked :
    ∃ plan, (planDecode "Note" true 0 rankedColumns).result = .ok plan ∧
      decodeRow plan rankedRow = .ok [.int (-32768), .null, .bool false] ∧
      plan.map DecodeStep.decoder = [.short, .timestamp, .boolean] ∧
      decodeRow plan (.list [.int (-32768), .null, .bool false]) =
        .ok [.int (-32768), .null, .bool false] := by
  obtain ⟨plan, hplan⟩ : ∃ plan, (planDecode "Note" true 0 rankedColumns).result = .ok plan :=
    ⟨_, rfl⟩
  have hsteps := eq_decodeSteps_of_planDecode hplan
  have hdecode : decodeRow plan rankedRow = .ok [.int (-32768), .null, .bool false] := by
    rw [hsteps]
    rfl
  obtain ⟨-, -, -, hagain⟩ := decodeRow_typed hplan hdecode
  exact ⟨plan, hplan, hdecode, by rw [hsteps]; rfl, hagain⟩

end SqlMapping
