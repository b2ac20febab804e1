import SqlMapping.Proofs.Decode.Timestamp

/-!
# Byte strings in buffers of every kind

A driver may return a byte string as a fixed one, as one that may be changed, or as a view. What is
read from it should depend on the bytes alone. That is so for every typed decoder but one: numbers
and texts are read from the bytes, and no byte string is read as a time. The decoder of truth values
asks whether a byte differs from zero, except that a view is true as soon as it has a byte at all. So
a view of bytes that are all zero, which is how a cleared bit comes back, is taken for true
(`readsBytesRightly_iff`).
-/

namespace SqlMapping

open SqlMapping.Calendar SqlMapping.Text

/-- A decoder makes the same of a byte string in buffers of all kinds: one value, or none. -/
def Decoder.ReadsBuffersAlike (d : Decoder) (data : List UInt8) : Prop :=
  ∀ kind other : BufferKind,
    (d.apply (.bytes kind data)).toOption = (d.apply (.bytes other data)).toOption

/-- The decoders that look for byte strings read one alike in buffers of all kinds, and one that
holds nothing but zeros is false in each of them. -/
structure ReadsBytesRightly (data : List UInt8) : Prop where
  /-- Its text does not depend on the buffer. -/
  string : Decoder.string.ReadsBuffersAlike data
  /-- Its truth value does not depend on the buffer. -/
  boolean : Decoder.boolean.ReadsBuffersAlike data
  /-- Zeros are false. -/
  zeros : (∀ b ∈ data, b = 0) →
    ∀ kind : BufferKind, Decoder.boolean.apply (.bytes kind data) = .ok (.bool false)

namespace Decode

/-! ## Times -/

/-- The literal of a byte string begins with a letter or a bracket, in a buffer of any kind. -/
lemma exists_toList_bytesLiteral (kind : BufferKind) (data : List UInt8) :
    ∃ c rest, (Value.bytesLiteral kind data).toList = c :: rest ∧ (c = 'b' ∨ c = '<') := by
  cases kind with
  | fixed => exact ⟨'b', _, String.toList_ofList, Or.inl rfl⟩
  | mutable =>
    refine ⟨'b', ("ytearray(" ++ quoteBytes data ++ ")").toList, ?_, Or.inl rfl⟩
    simp [Value.bytesLiteral, String.toList_append]
  | view => exact ⟨'<', "memory>".toList, by simp [Value.bytesLiteral], Or.inr rfl⟩

/-- A text that does not begin with a digit is not read as a time. -/
lemma readDateTime_of_not_isDigit {s : String} {c : Char} {rest : List Char}
    (hs : s.toList = c :: rest) (hascii : c.toNat < 128) (hdigit : c.isDigit = false) :
    readDateTime s = none := by
  have hbytes : (encodeUtf8 (faces s.toList)).map (fun b => Char.ofNat b.toNat) =
      c :: byteChars (faces rest) := by
    have hone : byteChars [c] = [c] := byteChars_of_ascii (by simpa using hascii)
    rw [encodeUtf8, hs, faces_cons_of_unguarded (isGuarded_of_ascii hascii),
      ← List.singleton_append]
    show byteChars _ = _
    rw [byteChars_append, hone, List.singleton_append]
  have hdate (size : Nat) : readDate size (c :: byteChars (faces rest)) = none := by
    simp [readDate, readDigits, hdigit]
  rw [readDateTime, hbytes]
  simp only [hdate, Option.bind_eq_bind, Option.bind_none, Option.bind_fun_none, ite_self]

/-- No byte string is read as a time. -/
lemma timestamp_bytes (kind : BufferKind) (data : List UInt8) :
    timestamp (.bytes kind data) = .error .badValue := by
  have hread : (Value.bytes kind data).display.toOption.bind readDateTime = none := by
    obtain ⟨c, rest, hs, hc⟩ := exists_toList_bytesLiteral kind data
    have hascii : c.toNat < 128 := by rcases hc with rfl | rfl <;> decide
    have hdigit : c.isDigit = false := by rcases hc with rfl | rfl <;> decide
    have hdisplay : (Value.bytes kind data).display = .ok (Value.bytesLiteral kind data) := rfl
    rw [hdisplay, Except.toOption, Option.bind_some]
    exact readDateTime_of_not_isDigit hs hascii hdigit
  simp only [timestamp, hread]

/-! ## Numbers and truth values -/

/-- The number of a byte string does not depend on its buffer, whose literal shows only in faults. -/
lemma toOption_real_bytes (kind other : BufferKind) (data : List UInt8) :
    (real (.bytes kind data)).toOption = (real (.bytes other data)).toOption := by
  have hread (k : BufferKind) :
      real (.bytes k data) = realOfText (data.map charOfByte) (Value.bytesLiteral k data) := rfl
  rw [hread, hread, realOfText, realOfText]
  cases Number.Real64.read? (data.map charOfByte) <;> rfl

/-- Bytes in a view are true unless there are none. -/
lemma boolean_view (data : List UInt8) :
    boolean (.bytes .view data) = true ↔ data ≠ [] := by
  cases data <;> simp [boolean]

/-- Bytes outside of views are true when one of them differs from zero. -/
lemma boolean_of_ne_view {kind : BufferKind} (hkind : kind ≠ .view) (data : List UInt8) :
    boolean (.bytes kind data) = true ↔ ∃ b ∈ data, b ≠ 0 := by
  cases kind with
  | view => exact absurd rfl hkind
  | fixed => simp [boolean]
  | mutable => simp [boolean]

end Decode

/-! ## Decoders -/

/-- A decoder whose readings of a byte string in two buffers have the same value reads it alike in
both. -/
lemma toOption_map_congr {α : Type} {x y : Except ReadFault α} (f : α → Value)
    (h : x.toOption = y.toOption) : (x.map f).toOption = (y.map f).toOption := by
  have hmap (z : Except ReadFault α) : (z.map f).toOption = z.toOption.map f := by
    cases z <;> rfl
  rw [hmap, hmap, h]

/-- **Typed decoders and buffers.** A typed decoder reads a byte string alike in buffers of all
kinds, unless it is the decoder of truth values. -/
theorem Decoder.readsBuffersAlike_of_ne {d : Decoder} (hobject : d ≠ .object)
    (hboolean : d ≠ .boolean) (data : List UInt8) : d.ReadsBuffersAlike data := by
  intro kind other
  rw [d.apply_of_ne_null (by simp), d.apply_of_ne_null (by simp)]
  cases d with
  | int => rfl
  | long => rfl
  | short => rfl
  | string => rfl
  | boolean => exact absurd rfl hboolean
  | float => exact toOption_map_congr .real (Decode.toOption_real_bytes kind other data)
  | double => exact toOption_map_congr .real (Decode.toOption_real_bytes kind other data)
  | timestamp =>
    dsimp only
    rw [Decode.timestamp_bytes, Decode.timestamp_bytes]
  | object => exact absurd rfl hobject

/-- The truth value of a byte string does not depend on its buffer exactly when there are no bytes
or one of them differs from zero. -/
lemma Decoder.readsBuffersAlike_boolean_iff (data : List UInt8) :
    Decoder.boolean.ReadsBuffersAlike data ↔ data = [] ∨ ∃ b ∈ data, b ≠ 0 := by
  constructor
  · intro h
    have hsame : Decode.boolean (.bytes .view data) = Decode.boolean (.bytes .fixed data) :=
      Value.bool.inj (Option.some.inj (h .view .fixed))
    by_cases hnil : data = []
    · exact Or.inl hnil
    · rw [(Decode.boolean_view data).mpr hnil] at hsame
      exact Or.inr ((Decode.boolean_of_ne_view (by simp) data).mp hsame.symm)
  · rintro (rfl | hbyte) kind other
    · cases kind <;> cases other <;> rfl
    · have htrue (k : BufferKind) : Decode.boolean (.bytes k data) = true := by
        by_cases hk : k = .view
        · obtain ⟨b, hb, -⟩ := hbyte
          rw [hk]
          exact (Decode.boolean_view data).mpr (List.ne_nil_of_mem hb)
        · exact (Decode.boolean_of_ne_view hk data).mpr hbyte
      show some (Value.bool _) = some (Value.bool _)
      rw [htrue kind, htrue other]

/-- **Byte strings in buffers.** The text of a byte string never depends on its buffer. Its truth
value does not either, and zeros are false in every buffer, exactly when there are no bytes or one of
them differs from zero. -/
theorem readsBytesRightly_iff (data : List UInt8) :
    Decoder.string.ReadsBuffersAlike data ∧
      (ReadsBytesRightly data ↔ data = [] ∨ ∃ b ∈ data, b ≠ 0) := by
  have hstring := Decoder.readsBuffersAlike_of_ne (d := .string) (by simp) (by simp) data
  refine ⟨hstring, fun h => (Decoder.readsBuffersAlike_boolean_iff data).mp h.boolean, fun h => ?_⟩
  refine ⟨hstring, (Decoder.readsBuffersAlike_boolean_iff data).mpr h, fun hzeros kind => ?_⟩
  rcases h with rfl | ⟨b, hb, hne⟩
  · cases kind <;> rfl
  · exact absurd (hzeros b hb) hne

/-- A cleared bit that comes back in a view is taken for true, and for false in other buffers. -/
theorem not_readsBytesRightly_clearedBit :
    Decoder.boolean.apply (.bytes .view [0]) = .ok (.bool true) ∧
      Decoder.boolean.apply (.bytes .fixed [0]) = .ok (.bool false) ∧
        Decoder.boolean.apply (.bytes .mutable [0]) = .ok (.bool false) ∧
          ¬ReadsBytesRightly [0] := by
  refine ⟨rfl, rfl, rfl, fun h => ?_⟩
  have hfalse := h.zeros (by simp) .view
  exact absurd (Value.bool.inj (Except.ok.inj hfalse)) (by decide)

end SqlMapping
