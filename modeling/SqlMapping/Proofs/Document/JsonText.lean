import Mathlib.Tactic.Lemma
import SqlMapping.Document.Json
import SqlMapping.Proofs.Text.Literal
import SqlMapping.Render.Json

/-!
# Reading quoted texts back

In the data text a text stands between double quotes, and every character outside printable ASCII is
escaped. A character beyond sixteen bits is written as a pair of escapes, and the reader of JSON
documents puts the two together again. It does so for any two halves of a pair that follow each
other, whether or not they were one character before. So the reader reads a quoted text back with
such halves joined (`readText_quotedText`), and a quoted text shows where it ends
(`quotedText_append_inj`). More than that is not lost: texts that are the same once halves are joined
are quoted alike (`quotedText_joinedText`).
-/

namespace SqlMapping.Document.Json

open SqlMapping.Render SqlMapping.Text

/-! ## Halves -/

/-- Code points in which any two halves of a pair that follow each other are joined. -/
def joinPairs : List CodePoint → List CodePoint
  | .half a :: .half b :: rest =>
    if isHighHalf a.number && isLowHalf b.number then
      .char (joinHalves a.number b.number) :: joinPairs rest
    else .half a :: joinPairs (.half b :: rest)
  | p :: rest => p :: joinPairs rest
  | [] => []

/-- A text in which any two halves of a pair that follow each other are joined. -/
def joinedText (s : String) : String :=
  String.ofList (spellingOf (joinPairs (codePoints s.toList)))

/-- A code point that is no half is not joined. -/
lemma joinPairs_cons_of_not_isHalf {p : CodePoint} (hp : p.isHalf = false) (ps : List CodePoint) :
    joinPairs (p :: ps) = p :: joinPairs ps := by
  cases p with
  | half a => exact absurd hp (by simp [CodePoint.isHalf])
  | char c => rw [joinPairs]; simp
  | loose => rw [joinPairs]; simp

/-- What may follow the code points of a text may follow them when halves are joined. -/
lemma isChain_joinPairs {ps : List CodePoint} (h : ps.IsChain CodePoint.Precedes) :
    (joinPairs ps).IsChain CodePoint.Precedes := by
  induction ps using joinPairs.induct with
  | case1 a b rest hpair ih =>
    rw [joinPairs, if_pos hpair]
    have hrest := (List.isChain_cons.mp (List.isChain_cons.mp h).2).2
    exact List.isChain_cons.mpr ⟨fun _ _ h => absurd h (by simp), ih hrest⟩
  | case2 a b rest hpair ih =>
    rw [joinPairs, if_neg hpair]
    exact List.isChain_cons.mpr
      ⟨fun _ _ h => absurd h (by simp), ih (List.isChain_cons.mp h).2⟩
  | case3 p rest hother ih =>
    obtain ⟨hfirst, hrest⟩ := List.isChain_cons.mp h
    rw [joinPairs.eq_2 _ _ hother]
    refine List.isChain_cons.mpr ⟨fun q hq hloose => ?_, ih hrest⟩
    -- what follows a loose guard is no half, so it stays where it is
    cases rest with
    | nil => exact absurd hq (by simp [joinPairs])
    | cons r rest =>
      obtain ⟨c, hc, rfl⟩ := hfirst r rfl hloose
      rw [joinPairs_cons_of_not_isHalf rfl] at hq
      exact ⟨c, hc, (Option.some.inj hq).symm⟩
  | case4 => exact .nil

/-- The code points of a text in which halves are joined. -/
lemma codePoints_joinedText (s : String) :
    codePoints (joinedText s).toList = joinPairs (codePoints s.toList) := by
  rw [joinedText, String.toList_ofList,
    codePoints_spellingOf (isChain_joinPairs (isChain_codePoints _))]

/-- A text without halves stays as it is. -/
lemma joinedText_of_isWhole {s : String} (h : isWhole s = true) : joinedText s = s := by
  have hkept : ∀ ps : List CodePoint, (ps.all fun p => !p.isHalf) = true → joinPairs ps = ps := by
    intro ps
    induction ps with
    | nil => exact fun _ => rfl
    | cons p ps ih =>
      intro hps
      rw [List.all_cons, Bool.and_eq_true, Bool.not_eq_true'] at hps
      rw [joinPairs_cons_of_not_isHalf hps.1, ih hps.2]
  rw [joinedText, hkept _ h, spellingOf_codePoints, String.ofList_toList]

/-! ## Escapes -/

/-- Four hexadecimal digits are read back. -/
lemma hexUnit_hexDigits {n : Nat} (h : n < 0x10000) (rest : List Char) :
    hexUnit? (hexDigits 4 n ++ rest) = some n := by
  have hvalue : ((n / 16 ^ 3 % 16 * 16 + n / 16 ^ 2 % 16) * 16 + n / 16 ^ 1 % 16) * 16 +
      n / 16 ^ 0 % 16 = n := by
    omega
  simp only [hexDigits_succ, List.cons_append, hexUnit?, hexValue_hexDigitAt, Option.bind_eq_bind,
    Option.bind_some, hvalue]
  rfl

/-- A character beyond sixteen bits is written as two escapes. -/
lemma escapeTextChar_of_large {c : Char} (h : 0x10000 ≤ c.toNat) :
    escapeTextChar c = escapeUnit (0xd800 + (c.toNat - 0x10000) / 0x400) ++
      escapeUnit (0xdc00 + (c.toNat - 0x10000) % 0x400) := by
  have hne (d : Char) (hd : d.toNat < 0x80) : (c == d) = false := by
    rw [beq_eq_false_iff_ne]
    rintro rfl
    omega
  simp only [escapeTextChar, hne '"' (by decide), hne '\\' (by decide), hne '\n' (by decide),
    hne '\r' (by decide), hne '\t' (by decide), Bool.or_self, Bool.false_eq_true, if_false]
  rw [if_neg (by omega), if_neg (by omega), if_neg (by simp; omega), if_neg (by omega)]

/-- A character inside a quoted text is escaped by one character, stands for itself, or is escaped
by its number, in one part or in two. -/
lemma escapeTextChar_cases (c : Char) :
    (∃ d, d ≠ 'u' ∧ simpleEscape? d = some c ∧ escapeTextChar c = ['\\', d]) ∨
      (0x20 ≤ c.toNat ∧ c.toNat < 0x7f ∧ c ≠ '"' ∧ c ≠ '\\' ∧ escapeTextChar c = [c]) ∨
      (c.toNat < 0x10000 ∧ escapeTextChar c = escapeUnit c.toNat) ∨ 0x10000 ≤ c.toNat := by
  have hcode {d : Char} (h : c.toNat = d.toNat) : c = d := Char.ext (UInt32.toNat_inj.mp h)
  generalize hescaped : escapeTextChar c = escaped
  rw [escapeTextChar] at hescaped
  split_ifs at hescaped with hself hlf hcr htab hbackspace hfeed hprintable hunit
  · left
    rcases (Bool.or_eq_true _ _).mp hself with h | h
    · obtain rfl := beq_iff_eq.mp h
      exact ⟨'"', by decide, rfl, hescaped.symm⟩
    · obtain rfl := beq_iff_eq.mp h
      exact ⟨'\\', by decide, rfl, hescaped.symm⟩
  · exact Or.inl ⟨'n', by decide, by rw [beq_iff_eq.mp hlf]; rfl, hescaped.symm⟩
  · exact Or.inl ⟨'r', by decide, by rw [beq_iff_eq.mp hcr]; rfl, hescaped.symm⟩
  · exact Or.inl ⟨'t', by decide, by rw [beq_iff_eq.mp htab]; rfl, hescaped.symm⟩
  · exact Or.inl ⟨'b', by decide, by rw [hcode (d := '\x08') hbackspace]; rfl, hescaped.symm⟩
  · exact Or.inl ⟨'f', by decide, by rw [hcode (d := '\x0c') hfeed]; rfl, hescaped.symm⟩
  · have hne : c ≠ '"' ∧ c ≠ '\\' := by simpa using hself
    have hrange : 0x20 ≤ c.toNat ∧ c.toNat < 0x7f := by simpa using hprintable
    exact Or.inr (Or.inl ⟨hrange.1, hrange.2, hne.1, hne.2, hescaped.symm⟩)
  · exact Or.inr (Or.inr (Or.inl ⟨hunit, hescaped.symm⟩))
  · exact Or.inr (Or.inr (Or.inr (Nat.le_of_not_lt hunit)))

/-- A character beyond sixteen bits is made up of the halves that it is written as. -/
lemma joinHalves_parts {c : Char} (hc : 0x10000 ≤ c.toNat) :
    joinHalves (0xd800 + (c.toNat - 0x10000) / 0x400) (0xdc00 + (c.toNat - 0x10000) % 0x400) =
      c := by
  have hnumber : 0x10000 + (0xd800 + (c.toNat - 0x10000) / 0x400 - 0xd800) * 0x400 +
      (0xdc00 + (c.toNat - 0x10000) % 0x400 - 0xdc00) = c.toNat := by
    omega
  rw [joinHalves, hnumber, Char.ofNat_toNat]

/-- Halves of a pair are the parts of the character that they make up. -/
lemma escapeTextChar_joinHalves {high low : Nat} (hhigh : isHighHalf high = true)
    (hlow : isLowHalf low = true) :
    escapeTextChar (joinHalves high low) = escapeUnit high ++ escapeUnit low := by
  simp only [isHighHalf, isLowHalf, Bool.and_eq_true, decide_eq_true_eq] at hhigh hlow
  have hvalid : (0x10000 + (high - 0xd800) * 0x400 + (low - 0xdc00)).isValidChar :=
    Or.inr (by omega)
  have hnumber : (joinHalves high low).toNat =
      0x10000 + (high - 0xd800) * 0x400 + (low - 0xdc00) := by
    rw [joinHalves, Char.ofNat, dif_pos hvalid]
    rfl
  have hfirst : 0xd800 + ((joinHalves high low).toNat - 0x10000) / 0x400 = high := by omega
  have hlast : 0xdc00 + ((joinHalves high low).toNat - 0x10000) % 0x400 = low := by omega
  rw [escapeTextChar_of_large (by omega), hfirst, hlast]

/-- A code point inside a quoted text is escaped by one character, stands for itself, or is escaped
by its number, in one part or in two. -/
lemma escapeTextPoint_cases (p : CodePoint) :
    (∃ d c, d ≠ 'u' ∧ simpleEscape? d = some c ∧ p = .char c ∧
        escapeTextPoint p = ['\\', d]) ∨
      (∃ c, 0x20 ≤ c.toNat ∧ c ≠ '"' ∧ c ≠ '\\' ∧ p.spelling = [c] ∧ escapeTextPoint p = [c]) ∨
      (∃ n, n < 0x10000 ∧ CodePoint.ofNumber n = p ∧ escapeTextPoint p = escapeUnit n) ∨
      (∃ high low, isHighHalf high = true ∧ isLowHalf low = true ∧
        p = .char (joinHalves high low) ∧
          escapeTextPoint p = escapeUnit high ++ escapeUnit low) := by
  cases p with
  | char c =>
    rcases escapeTextChar_cases c with
      ⟨d, hd, hsimple, heq⟩ | ⟨hlow, hhigh, hquote, hbackslash, heq⟩ | ⟨hunit, heq⟩ | hlarge
    · exact Or.inl ⟨d, c, hd, hsimple, rfl, heq⟩
    · have hplain : isGuarded c = false := isGuarded_of_ascii (by omega)
      exact Or.inr (Or.inl ⟨c, hlow, hquote, hbackslash,
        if_neg (Bool.eq_false_iff.mp hplain), heq⟩)
    · exact Or.inr (Or.inr (Or.inl ⟨c.toNat, hunit, CodePoint.ofNumber_toNat c, heq⟩))
    · have hvalid : c.toNat < 0xd800 ∨ 0xdfff < c.toNat ∧ c.toNat < 0x110000 := c.valid
      refine Or.inr (Or.inr (Or.inr ⟨_, _, ?_, ?_, ?_, escapeTextChar_of_large hlarge⟩))
      · simp only [isHighHalf, Bool.and_eq_true, decide_eq_true_eq]
        omega
      · simp only [isLowHalf, Bool.and_eq_true, decide_eq_true_eq]
        omega
      · rw [joinHalves_parts hlarge]
  | half c =>
    have hbounds := StandIn.number_bounds c
    exact Or.inr (Or.inr (Or.inl ⟨c.number, by omega, CodePoint.ofNumber_number c, rfl⟩))
  | loose => exact Or.inr (Or.inl ⟨guardChar, by decide, by decide, by decide, rfl, rfl⟩)

/-- Halves of a pair are escaped as the character that they make up. -/
lemma flatMap_pair {a b : StandIn} (h : (isHighHalf a.number && isLowHalf b.number) = true)
    (ps : List CodePoint) :
    (.half a :: .half b :: ps : List CodePoint).flatMap escapeTextPoint =
      escapeTextPoint (.char (joinHalves a.number b.number)) ++ ps.flatMap escapeTextPoint := by
  obtain ⟨hhigh, hlow⟩ := (Bool.and_eq_true _ _).mp h
  rw [escapeTextPoint, escapeTextChar_joinHalves hhigh hlow, List.append_assoc]
  rfl

/-- Code points are escaped alike before and after halves are joined. -/
lemma flatMap_joinPairs (ps : List CodePoint) :
    (joinPairs ps).flatMap escapeTextPoint = ps.flatMap escapeTextPoint := by
  induction ps using joinPairs.induct with
  | case1 a b rest hpair ih =>
    rw [joinPairs, if_pos hpair, List.flatMap_cons, ih, flatMap_pair hpair]
  | case2 a b rest hpair ih =>
    rw [joinPairs, if_neg hpair, List.flatMap_cons, ih]
    rfl
  | case3 p rest hother ih =>
    rw [joinPairs.eq_2 _ _ hother, List.flatMap_cons, ih, List.flatMap_cons]
  | case4 => rfl

/-- No code point is left out of a quoted text. -/
lemma length_le_flatMap (ps : List CodePoint) :
    ps.length ≤ (ps.flatMap escapeTextPoint).length := by
  induction ps with
  | nil => exact Nat.le_refl _
  | cons p ps ih =>
    have hpos : 0 < (escapeTextPoint p).length := by
      rcases escapeTextPoint_cases p with ⟨d, c, -, -, -, heq⟩ | ⟨c, -, -, -, -, heq⟩ |
        ⟨n, -, -, heq⟩ | ⟨high, low, -, -, -, heq⟩ <;> simp [heq, escapeUnit]
    rw [List.flatMap_cons, List.length_append, List.length_cons]
    omega

/-- What is left of a text does not begin with the escape of a half that comes second in a pair: an
escape by a number that it begins with is of another number. -/
def NoLowHalf (rest : List Char) : Prop :=
  ∀ more, rest = '\\' :: 'u' :: more →
    ∃ n after, n < 0x10000 ∧ isLowHalf n = false ∧ more = hexDigits 4 n ++ after

/-- The escape of a number is read back unless it is the first of a pair. -/
lemma readEscape_escapeUnit {n : Nat} (hn : n < 0x10000) {rest : List Char} (hrest : rest ≠ [])
    (hnext : isHighHalf n = true → NoLowHalf rest) (position : Nat) :
    readEscape ⟨'u' :: (hexDigits 4 n ++ rest), position⟩ = .ok (.ofNumber n, 5) := by
  have hlong : ¬(hexDigits 4 n ++ rest).length < 5 := by
    have := List.length_pos_of_ne_nil hrest
    simp only [List.length_append, length_hexDigits]
    omega
  have hdrop : (hexDigits 4 n ++ rest).drop 4 = rest := List.drop_left' (length_hexDigits 4 n)
  rw [readEscape]
  simp only [if_neg hlong, hexUnit_hexDigits hn, hdrop]
  split_ifs with hhigh
  · have hother := hnext ((Bool.and_eq_true _ _).mp hhigh).1
    split
    · next more =>
      obtain ⟨m, after, hm, hlow, rfl⟩ := hother _ rfl
      simp only [hexUnit_hexDigits hm, hlow, Bool.false_eq_true, if_false]
    · rfl
  · rfl

/-- Two escapes of halves of a pair are read as the character that they make up. -/
lemma readEscape_pair {high low : Nat} (hhigh : isHighHalf high = true)
    (hlow : isLowHalf low = true) {rest : List Char} (hrest : rest ≠ []) (position : Nat) :
    readEscape ⟨'u' :: (hexDigits 4 high ++ (escapeUnit low ++ rest)), position⟩ =
      .ok (.char (joinHalves high low), 11) := by
  have hbounds : high < 0x10000 ∧ low < 0x10000 := by
    simp only [isHighHalf, isLowHalf, Bool.and_eq_true, decide_eq_true_eq] at hhigh hlow
    omega
  have hlength := List.length_pos_of_ne_nil hrest
  have htotal : (hexDigits 4 high ++ (escapeUnit low ++ rest)).length = 10 + rest.length := by
    simp only [escapeUnit, List.length_append, List.length_cons, length_hexDigits]
    omega
  have hlong : ¬(10 + rest.length < 5) := by omega
  have hpair : (isHighHalf high && decide (11 ≤ 10 + rest.length)) = true := by
    rw [hhigh, Bool.true_and, decide_eq_true_eq]
    omega
  have hdrop : (hexDigits 4 high ++ (escapeUnit low ++ rest)).drop 4 =
      '\\' :: 'u' :: (hexDigits 4 low ++ rest) :=
    List.drop_left' (length_hexDigits 4 _)
  rw [readEscape]
  simp only [htotal, if_neg hlong, hexUnit_hexDigits hbounds.1, if_pos hpair, hdrop,
    hexUnit_hexDigits hbounds.2, hlow, if_true]

/-! ## Texts -/

/-- An escape that is read back gives one code point of the text. -/
lemma readTextFrom_escape {p : CodePoint} {start position size : Nat} {escaped rest : List Char}
    (hread : readEscape ⟨escaped ++ rest, position + 1⟩ = .ok (p, size))
    (hsize : escaped.length = size) (hrest : rest ≠ []) (fuel : Nat) :
    readTextFrom start (fuel + 1) ⟨'\\' :: (escaped ++ rest), position⟩ =
      (readTextFrom start fuel ⟨rest, position + (escaped.length + 1)⟩).map fun (cs, after) =>
        (p.spelling ++ cs, after) := by
  have hnonempty : ¬(escaped ++ rest).isEmpty = true := by
    simp [hrest]
  have hdrop : ('\\' :: (escaped ++ rest)).drop (size + 1) = rest := by
    rw [List.drop_succ_cons, ← hsize, List.drop_left]
  rw [readTextFrom]
  simp only [if_neg hnonempty, Cursor.advance, List.drop_one, List.tail_cons, hread]
  show Except.bind (readTextFrom start fuel ⟨_, position + (1 + size)⟩) _ = _
  rw [Nat.add_comm 1 size, hdrop, hsize]
  cases readTextFrom start fuel ⟨rest, position + (size + 1)⟩ with
  | error e => rfl
  | ok read => rfl

/-- One code point of a quoted text is read back, unless it is the first half of a pair. -/
lemma readTextFrom_escapeTextPoint (p : CodePoint) {rest : List Char} (hrest : rest ≠ [])
    (hnext : ∀ a, p = .half a → isHighHalf a.number = true → NoLowHalf rest)
    (start fuel position : Nat) :
    readTextFrom start (fuel + 1) ⟨escapeTextPoint p ++ rest, position⟩ =
      (readTextFrom start fuel ⟨rest, position + (escapeTextPoint p).length⟩).map
        fun (cs, after) => (p.spelling ++ cs, after) := by
  rcases escapeTextPoint_cases p with ⟨d, c, hd, hsimple, rfl, heq⟩ |
    ⟨c, hprintable, hquote, hbackslash, hspelling, heq⟩ | ⟨n, hunit, rfl, heq⟩ |
    ⟨high, low, hhigh, hlow, rfl, heq⟩
  · have hread : readEscape ⟨[d] ++ rest, position + 1⟩ = .ok (.char c, 1) := by
      rw [List.singleton_append, readEscape]
      simp only [hsimple]
    rw [heq]
    exact readTextFrom_escape hread rfl hrest fuel
  · have hcontrol : ¬c.toNat < 0x20 := Nat.not_lt.mpr hprintable
    rw [heq, hspelling, List.singleton_append, readTextFrom]
    simp only [if_neg hcontrol, Cursor.advance, List.drop_one, List.tail_cons,
      List.length_singleton]
    cases readTextFrom start fuel ⟨rest, position + 1⟩ with
    | error e => rfl
    | ok read => rfl
  · have hhalf : isHighHalf n = true → NoLowHalf rest := by
      intro hhigh
      have hbounds : 0xd800 ≤ n ∧ n < 0xdc00 := by
        simpa only [isHighHalf, Bool.and_eq_true, decide_eq_true_eq] using hhigh
      obtain ⟨a, rfl, ha⟩ := CodePoint.exists_ofNumber_eq_half (n := n) (by omega)
      exact hnext a ha hhigh
    have hread := readEscape_escapeUnit hunit hrest hhalf (position + 1)
    rw [heq]
    exact readTextFrom_escape hread (by simp) hrest fuel
  · have hread := readEscape_pair hhigh hlow hrest (position + 1)
    rw [← List.append_assoc] at hread
    rw [heq]
    exact readTextFrom_escape hread (by simp [escapeUnit]) hrest fuel

/-- A code point that is no half that comes second in a pair does not begin like one. -/
lemma noLowHalf_flatMap {ps : List CodePoint}
    (h : ∀ a, ps.head? = some (.half a) → isLowHalf a.number = false) (rest : List Char) :
    NoLowHalf (ps.flatMap escapeTextPoint ++ '"' :: rest) := by
  intro more hmore
  cases ps with
  | nil => exact absurd (List.cons.inj hmore).1 (by decide)
  | cons p ps =>
    rw [List.flatMap_cons, List.append_assoc] at hmore
    rcases escapeTextPoint_cases p with ⟨d, c, hd, -, rfl, heq⟩ | ⟨c, -, -, hbackslash, -, heq⟩ |
      ⟨n, hunit, rfl, heq⟩ | ⟨high, low, hhigh, -, rfl, heq⟩
    · rw [heq] at hmore
      exact absurd (List.cons.inj (List.cons.inj hmore).2).1 hd
    · rw [heq] at hmore
      exact absurd (List.cons.inj hmore).1 hbackslash
    · rw [heq] at hmore
      refine ⟨n, _, hunit, ?_, (List.cons.inj (List.cons.inj hmore).2).2.symm⟩
      by_contra hlow
      have hbounds : 0xdc00 ≤ n ∧ n < 0xe000 := by
        simpa only [isLowHalf, Bool.and_eq_true, decide_eq_true_eq, Bool.not_eq_false] using hlow
      obtain ⟨a, rfl, ha⟩ := CodePoint.exists_ofNumber_eq_half (n := n) (by omega)
      exact hlow (h a (congrArg some ha))
    · rw [heq, List.append_assoc] at hmore
      refine ⟨high, _, ?_, ?_, (List.cons.inj (List.cons.inj hmore).2).2.symm⟩
      · simp only [isHighHalf, Bool.and_eq_true, decide_eq_true_eq] at hhigh
        omega
      · simp only [isHighHalf, Bool.and_eq_true, decide_eq_true_eq] at hhigh
        simp only [isLowHalf, Bool.and_eq_false_iff, decide_eq_false_iff_not]
        omega

/-- The code points of a quoted text are read back, with halves joined, up to the quote that closes
it. -/
lemma readTextFrom_flatMap (ps : List CodePoint) (rest : List Char) (start position : Nat)
    {fuel : Nat} (h : ps.length < fuel) :
    readTextFrom start fuel ⟨ps.flatMap escapeTextPoint ++ '"' :: rest, position⟩ =
      .ok (spellingOf (joinPairs ps),
        ⟨rest, position + ((ps.flatMap escapeTextPoint).length + 1)⟩) := by
  induction ps using joinPairs.induct generalizing fuel position with
  | case1 a b others hpair ih =>
    obtain ⟨fuel, rfl⟩ := Nat.exists_eq_succ_of_ne_zero (Nat.ne_of_gt (Nat.zero_lt_of_lt h))
    have hothers : others.length < fuel := by
      simp only [List.length_cons] at h
      omega
    rw [joinPairs, if_pos hpair, flatMap_pair hpair, List.append_assoc,
      readTextFrom_escapeTextPoint _ (by simp) (fun _ h => absurd h (by simp)), ih _ hothers]
    simp [Except.map, Nat.add_assoc, spellingOf]
  | case2 a b others hpair ih =>
    obtain ⟨fuel, rfl⟩ := Nat.exists_eq_succ_of_ne_zero (Nat.ne_of_gt (Nat.zero_lt_of_lt h))
    have hnext : ∀ a', CodePoint.half a = .half a' → isHighHalf a'.number = true →
        NoLowHalf ((CodePoint.half b :: others).flatMap escapeTextPoint ++ '"' :: rest) := by
      intro a' ha hhigh
      obtain rfl := CodePoint.half.inj ha
      refine noLowHalf_flatMap (fun b' hb => ?_) rest
      obtain rfl := CodePoint.half.inj (Option.some.inj hb)
      exact Bool.eq_false_iff.mpr fun hlow => hpair (by rw [hhigh, hlow]; rfl)
    rw [joinPairs, if_neg hpair, List.flatMap_cons, List.append_assoc,
      readTextFrom_escapeTextPoint _ (by simp) hnext, ih _ (Nat.lt_of_succ_lt_succ h)]
    simp [Except.map, Nat.add_assoc, spellingOf]
  | case3 p others hother ih =>
    obtain ⟨fuel, rfl⟩ := Nat.exists_eq_succ_of_ne_zero (Nat.ne_of_gt (Nat.zero_lt_of_lt h))
    have hnext : ∀ a, p = .half a → isHighHalf a.number = true →
        NoLowHalf (others.flatMap escapeTextPoint ++ '"' :: rest) := by
      rintro a rfl -
      refine noLowHalf_flatMap (fun b hb => ?_) rest
      obtain ⟨more, rfl⟩ := List.head?_eq_some_iff.mp hb
      exact absurd rfl (hother a b more rfl)
    rw [joinPairs.eq_2 _ _ hother, List.flatMap_cons, List.append_assoc,
      readTextFrom_escapeTextPoint _ (by simp) hnext, ih _ (Nat.lt_of_succ_lt_succ h)]
    simp [Except.map, Nat.add_assoc, spellingOf]
  | case4 =>
    obtain ⟨fuel, rfl⟩ := Nat.exists_eq_succ_of_ne_zero (Nat.ne_of_gt h)
    rfl

/-- **Quoted texts are read back.** The reader of JSON documents reads the text, with halves joined,
and stands after the quote that closes it. -/
theorem readText_quotedText (s : String) (rest : List Char) (position : Nat) :
    readText ⟨quotedText s ++ rest, position⟩ =
      .ok (joinedText s, ⟨rest, position + (quotedText s).length⟩) := by
  have hfuel : (codePoints s.toList).length < (quotedText s ++ rest).length + 1 := by
    have hkept := length_le_flatMap (codePoints s.toList)
    rw [List.length_append, quotedText, List.length_cons, List.length_append]
    omega
  have htail : Cursor.advance 1 ⟨quotedText s ++ rest, position⟩ =
      ⟨(codePoints s.toList).flatMap escapeTextPoint ++ '"' :: rest, position + 1⟩ := by
    simp [Cursor.advance, quotedText]
  rw [readText, htail, readTextFrom_flatMap _ _ _ _ hfuel]
  simp [joinedText, quotedText, Bind.bind, Except.bind, pure, Except.pure]
  omega

/-- A quoted text shows where it ends, and what it was once halves are joined. -/
theorem quotedText_append_inj {s t : String} {rest rest' : List Char}
    (h : quotedText s ++ rest = quotedText t ++ rest') :
    joinedText s = joinedText t ∧ rest = rest' := by
  have hread := readText_quotedText s rest 0
  rw [h, readText_quotedText] at hread
  simp only [Except.ok.injEq, Prod.mk.injEq, Cursor.mk.injEq] at hread
  exact ⟨hread.1.symm, hread.2.1.symm⟩

/-- A text is quoted as it is once halves are joined. -/
theorem quotedText_joinedText (s : String) : quotedText (joinedText s) = quotedText s := by
  rw [quotedText, codePoints_joinedText, flatMap_joinPairs, quotedText]

end SqlMapping.Document.Json
