import Mathlib.Data.List.Chain
import Mathlib.Tactic.Lemma
import Mathlib.Tactic.SplitIfs
import SqlMapping.Text.Utf8

/-!
# Spelled texts

A list of characters spells code points that are spelled by it (`spellingOf_codePoints`), and code
points are what their spelling spells, unless a guard stands loose among them
(`codePoints_spellingOf`). A text without stand-ins and guards is spelled by its own characters
(`codePoints_of_unguarded`).
-/

namespace SqlMapping.Text

/-- The guard is no stand-in. -/
lemma isStandIn_guardChar : isStandIn guardChar = false := by decide

/-- The guard is guarded itself. -/
lemma isGuarded_guardChar : isGuarded guardChar = true := by simp [isGuarded]

/-- The code point of a character without a guard is spelled by that character. -/
lemma spelling_ofUnguarded (c : Char) : (CodePoint.ofUnguarded c).spelling = [c] := by
  rw [CodePoint.ofUnguarded]
  split_ifs with hstand hguard
  · rfl
  · rw [hguard, CodePoint.spelling]
  · simp [CodePoint.spelling, isGuarded, hstand, hguard]

/-- The code point of a character is spelled by that character. -/
lemma face_ofUnguarded (c : Char) : (CodePoint.ofUnguarded c).face = c := by
  rw [CodePoint.ofUnguarded]
  split_ifs with hstand hguard
  · rfl
  · rw [hguard, CodePoint.face]
  · rfl

/-- A character that needs no guard spells itself. -/
lemma ofUnguarded_of_not_isGuarded {c : Char} (h : isGuarded c = false) :
    CodePoint.ofUnguarded c = .char c := by
  rw [isGuarded, Bool.or_eq_false_iff, beq_eq_false_iff_ne] at h
  rw [CodePoint.ofUnguarded, dif_neg (by simp [h.1]), if_neg h.2]

/-- **Code points are spelled back.** A list of characters spells code points that are spelled by
it. -/
theorem spellingOf_codePoints (cs : List Char) : spellingOf (codePoints cs) = cs := by
  induction cs using codePoints.induct with
  | case1 => rfl
  | case2 c => simp [codePoints, spellingOf, spelling_ofUnguarded]
  | case3 c d rest hguarded ih =>
    rw [codePoints, if_pos hguarded]
    obtain ⟨rfl, hd⟩ := hguarded
    rw [spellingOf, List.flatMap_cons, CodePoint.spelling, if_pos hd]
    exact congrArg ([guardChar, d] ++ ·) ih
  | case4 c d rest hguarded ih =>
    rw [codePoints, if_neg hguarded, spellingOf, List.flatMap_cons, spelling_ofUnguarded]
    exact congrArg (c :: ·) ih

/-- A character that is no guard spells its code point, whatever follows. -/
lemma codePoints_cons_of_ne {c : Char} (h : c ≠ guardChar) (cs : List Char) :
    codePoints (c :: cs) = .ofUnguarded c :: codePoints cs := by
  cases cs with
  | nil => rfl
  | cons d rest => rw [codePoints, if_neg fun both => h both.1]

/-- The code points of a list that begins with the spelling of a code point. -/
lemma codePoints_spelling_append {p : CodePoint} (hp : p ≠ .loose) (cs : List Char) :
    codePoints (p.spelling ++ cs) = p :: codePoints cs := by
  cases p with
  | loose => exact absurd rfl hp
  | half c =>
    have hne : c.val ≠ guardChar := fun h => by
      have hstand := c.property
      rw [h, isStandIn_guardChar] at hstand
      exact absurd hstand (by simp)
    rw [CodePoint.spelling, List.singleton_append, codePoints_cons_of_ne hne,
      CodePoint.ofUnguarded, dif_pos c.property]
  | char c =>
    rw [CodePoint.spelling]
    by_cases hc : isGuarded c = true
    · rw [if_pos hc, List.cons_append, List.singleton_append, codePoints, if_pos ⟨rfl, hc⟩]
    · have hne : c ≠ guardChar := fun h => hc (h ▸ isGuarded_guardChar)
      rw [if_neg hc, List.singleton_append, codePoints_cons_of_ne hne,
        ofUnguarded_of_not_isGuarded (Bool.eq_false_iff.mpr hc)]

/-- What may follow a code point in a text: after a loose guard comes a character that needs none. -/
def CodePoint.Precedes (p q : CodePoint) : Prop :=
  p = .loose → ∃ c, isGuarded c = false ∧ q = .char c

/-- A loose guard in a text is followed by a character that needs none. -/
lemma isChain_codePoints (cs : List Char) : (codePoints cs).IsChain CodePoint.Precedes := by
  induction cs using codePoints.induct with
  | case1 => exact .nil
  | case2 c => exact .singleton _
  | case3 c d rest hguarded ih =>
    rw [codePoints, if_pos hguarded]
    exact List.isChain_cons.mpr ⟨fun _ _ h => absurd h (by simp), ih⟩
  | case4 c d rest hguarded ih =>
    rw [codePoints, if_neg hguarded]
    refine List.isChain_cons.mpr ⟨fun q hq hloose => ?_, ih⟩
    obtain rfl : c = guardChar := by
      rw [← face_ofUnguarded c, hloose, CodePoint.face]
    have hd : isGuarded d = false := Bool.eq_false_iff.mpr fun h => hguarded ⟨rfl, h⟩
    have hne : d ≠ guardChar := fun h => absurd hd (by simp [h, isGuarded_guardChar])
    rw [codePoints_cons_of_ne hne, ofUnguarded_of_not_isGuarded hd] at hq
    exact ⟨d, hd, (Option.some.inj hq).symm⟩

/-- **Code points are read back.** They are what their spelling spells, unless a guard stands loose in
front of what it would guard. -/
theorem codePoints_spellingOf {ps : List CodePoint} (h : ps.IsChain CodePoint.Precedes) :
    codePoints (spellingOf ps) = ps := by
  induction ps with
  | nil => rfl
  | cons p ps ih =>
    obtain ⟨hfirst, hrest⟩ := List.isChain_cons.mp h
    have htail : codePoints (spellingOf ps) = ps := ih hrest
    rw [spellingOf, List.flatMap_cons]
    show codePoints (p.spelling ++ spellingOf ps) = p :: ps
    by_cases hp : p = .loose
    · subst hp
      cases ps with
      | nil => decide
      | cons q qs =>
        obtain ⟨c, hc, rfl⟩ := hfirst _ rfl rfl
        have hspelling : spellingOf (.char c :: qs) = c :: spellingOf qs := by
          rw [spellingOf, List.flatMap_cons, CodePoint.spelling, if_neg (by simp [hc])]
          rfl
        rw [hspelling] at htail ⊢
        rw [CodePoint.spelling, List.singleton_append, codePoints, if_neg (by simp [hc]), htail]
        rfl
    · rw [codePoints_spelling_append hp, htail]

/-- Characters that need no guard spell themselves, whatever follows. -/
lemma codePoints_append_of_unguarded {cs : List Char} (h : ∀ c ∈ cs, isGuarded c = false)
    (ds : List Char) : codePoints (cs ++ ds) = cs.map .char ++ codePoints ds := by
  induction cs with
  | nil => rfl
  | cons c cs ih =>
    have hc := h c List.mem_cons_self
    have hne : c ≠ guardChar := fun heq => absurd hc (by simp [heq, isGuarded_guardChar])
    rw [List.cons_append, codePoints_cons_of_ne hne, ofUnguarded_of_not_isGuarded hc,
      ih fun d hd => h d (List.mem_cons_of_mem _ hd), List.map_cons, List.cons_append]

/-- Characters that need no guard spell themselves. -/
lemma codePoints_of_unguarded {cs : List Char} (h : ∀ c ∈ cs, isGuarded c = false) :
    codePoints cs = cs.map .char := by
  simpa [codePoints] using codePoints_append_of_unguarded h []

/-- Characters that need no guard, with any one character among them, stand for themselves. -/
lemma faces_append_cons {cs ds : List Char} (hcs : ∀ c ∈ cs, isGuarded c = false) (c : Char)
    (hds : ∀ d ∈ ds, isGuarded d = false) : faces (cs ++ c :: ds) = cs ++ c :: ds := by
  have hpoint : codePoints (c :: ds) = .ofUnguarded c :: codePoints ds := by
    cases ds with
    | nil => rfl
    | cons d ds =>
      have hd := hds d List.mem_cons_self
      rw [codePoints, if_neg fun both => absurd both.2 (by simp [hd])]
  have hface : CodePoint.face ∘ CodePoint.char = id := rfl
  rw [faces, codePoints_append_of_unguarded hcs, hpoint, codePoints_of_unguarded hds,
    List.map_append, List.map_cons, face_ofUnguarded, List.map_map, List.map_map, hface,
    List.map_id, List.map_id]

/-- A character that needs no guard stands for itself, whatever follows. -/
lemma faces_cons_of_unguarded {c : Char} (h : isGuarded c = false) (cs : List Char) :
    faces (c :: cs) = c :: faces cs := by
  have hpoints : codePoints ([c] ++ cs) = [.char c] ++ codePoints cs :=
    codePoints_append_of_unguarded (by simpa using h) cs
  rw [faces, ← List.singleton_append, hpoints]
  rfl

/-- An ASCII character needs no guard. -/
lemma isGuarded_of_ascii {c : Char} (h : c.toNat < 128) : isGuarded c = false := by
  have hne : c ≠ guardChar := by
    rintro rfl
    exact absurd h (by decide)
  have hstand : isStandIn c = false := by
    rw [isStandIn, Bool.and_eq_false_iff, decide_eq_false_iff_not]
    exact Or.inl (by omega)
  rw [isGuarded, hstand, Bool.false_or, beq_eq_false_iff_ne]
  exact hne

/-- The number of a character is that of its code point. -/
lemma CodePoint.ofNumber_toNat (c : Char) : ofNumber c.toNat = .char c := by
  have hvalid : c.toNat < 0xd800 ∨ 0xdfff < c.toNat ∧ c.toNat < 0x110000 := c.valid
  have hnone : ¬(firstHalf ≤ c.toNat ∧
      isStandIn (Char.ofNat (firstStandIn + (c.toNat - firstHalf))) = true) := by
    rintro ⟨hle, hstand⟩
    simp only [isStandIn, Bool.and_eq_true, decide_eq_true_eq] at hstand
    by_cases hchar : (firstStandIn + (c.toNat - firstHalf)).isValidChar
    · have hnumber : (Char.ofNat (firstStandIn + (c.toNat - firstHalf))).toNat =
          firstStandIn + (c.toNat - firstHalf) := by
        rw [Char.ofNat, dif_pos hchar]
        rfl
      rw [hnumber] at hstand
      simp only [firstHalf, firstStandIn] at hle hstand
      omega
    · have hnumber : (Char.ofNat (firstStandIn + (c.toNat - firstHalf))).toNat = 0 := by
        rw [Char.ofNat, dif_neg hchar]
        rfl
      omega
  rw [ofNumber, dif_neg hnone, Char.ofNat_toNat]

/-- The number of a half is that of its code point. -/
lemma CodePoint.ofNumber_number (c : StandIn) : ofNumber c.number = .half c := by
  have hbounds := c.property
  simp only [isStandIn, Bool.and_eq_true, decide_eq_true_eq] at hbounds
  have hplace : firstStandIn + (c.number - firstHalf) = c.val.toNat := by
    simp only [StandIn.number, firstStandIn, firstHalf]
    omega
  have hchar : Char.ofNat (firstStandIn + (c.number - firstHalf)) = c.val := by
    rw [hplace, Char.ofNat_toNat]
  have hhalf : firstHalf ≤ c.number ∧
      isStandIn (Char.ofNat (firstStandIn + (c.number - firstHalf))) = true := by
    rw [hchar]
    exact ⟨Nat.le_add_right _ _, c.property⟩
  rw [ofNumber, dif_pos hhalf, half.injEq, Subtype.mk.injEq]
  exact hchar

/-- The numbers of the halves. -/
lemma StandIn.number_bounds (c : StandIn) : 0xd800 ≤ c.number ∧ c.number < 0xe000 := by
  have hbounds := c.property
  simp only [isStandIn, Bool.and_eq_true, decide_eq_true_eq] at hbounds
  simp only [number, firstStandIn, firstHalf]
  omega

/-- Each number that no character has is that of a half. -/
lemma CodePoint.exists_ofNumber_eq_half {n : Nat} (h : 0xd800 ≤ n ∧ n < 0xe000) :
    ∃ c : StandIn, c.number = n ∧ ofNumber n = .half c := by
  have hchar : (firstStandIn + (n - firstHalf)).isValidChar := by
    simp only [firstStandIn, firstHalf, Nat.isValidChar]
    omega
  have hnumber : (Char.ofNat (firstStandIn + (n - firstHalf))).toNat =
      firstStandIn + (n - firstHalf) := by
    rw [Char.ofNat, dif_pos hchar]
    rfl
  have hhalf : firstHalf ≤ n ∧ isStandIn (Char.ofNat (firstStandIn + (n - firstHalf))) = true := by
    refine ⟨h.1, ?_⟩
    simp only [isStandIn, hnumber, Bool.and_eq_true, decide_eq_true_eq]
    simp only [firstStandIn, firstHalf]
    omega
  refine ⟨⟨_, hhalf.2⟩, ?_, by rw [ofNumber, dif_pos hhalf]⟩
  rw [StandIn.number, hnumber, Nat.add_sub_cancel_left]
  exact Nat.add_sub_of_le h.1

/-- Code points are characters as long as no half is among them. -/
lemma isSome_mapM_char (ps : List CodePoint) :
    (ps.mapM CodePoint.char?).isSome = ps.all fun p => !p.isHalf := by
  induction ps with
  | nil => rfl
  | cons p ps ih =>
    rw [List.all_cons, ← ih, List.mapM_cons]
    cases p with
    | half c => rfl
    | char c => cases ps.mapM CodePoint.char? <;> rfl
    | loose => cases ps.mapM CodePoint.char? <;> rfl

/-- A text has bytes exactly when it is whole. -/
theorem isWhole_iff_encode {s : String} : isWhole s = true ↔ ∃ data, encode? s = some data := by
  rw [isWhole, ← isSome_mapM_char, ← Option.isSome_iff_exists, encode?, Option.isSome_map]

/-- A text of characters has no half. -/
theorem isWhole_spelled (cs : List Char) : isWhole (spelled cs) = true := by
  have hpoints : codePoints (spelled cs).toList = cs.map .char := by
    rw [spelled, String.toList_ofList, codePoints_spellingOf]
    have hnever : ∀ c d : Char, (CodePoint.char c).Precedes (.char d) :=
      fun _ _ h => absurd h (by simp)
    exact (List.isChain_map _).mpr (List.Pairwise.isChain (List.pairwise_of_forall hnever))
  simp [isWhole, hpoints, CodePoint.isHalf]

end SqlMapping.Text
