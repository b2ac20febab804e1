import SqlMapping.Proofs.Text.Words
import SqlMapping.Text.Identifier

/-!
# Identifiers of rendered modules

What a rendered module defines goes by an identifier that is no keyword (`IsUsable`). Texts of ASCII
characters are identifiers exactly when they are plain names, and in no script does an identifier
begin with a digit.

A safe identifier is an identifier and no taken word, as none of these ends in an underscore. So
nothing has to be changed about it: it is its own safe identifier (`safeIdentifier_safeIdentifier`).
Unless it begins with an underscore, it is the name itself or its snake case, with one underscore
behind a taken word.
-/

namespace SqlMapping.Text

/-- A text can be the name of something in a rendered module: it is an identifier and no keyword. -/
def IsUsable (s : String) : Prop :=
  isIdentifier s = true ∧ s ∉ moduleKeywords

instance : DecidablePred IsUsable :=
  fun s => inferInstanceAs (Decidable (isIdentifier s = true ∧ s ∉ moduleKeywords))

/-! ## Texts of ASCII characters -/

/-- The characters of plain names are ASCII characters. -/
lemma isAscii_of_isPlainPart {c : Char} (h : isPlainPart c = true) : c.toNat < 128 := by
  rcases (Bool.or_eq_true _ _).mp h with hletter | hunderscore
  · exact of_isAlphanum (p := fun c => c.toNat < 128) (by decide) hletter
  · rw [eq_of_beq hunderscore]
    decide

/-- An ASCII character starts an identifier exactly when it starts a plain name. -/
lemma isIdentifierStart_of_isAscii {c : Char} (h : c.toNat < 128) :
    isIdentifierStart c = isPlainStart c := by
  have hfirst : ¬0xaa ≤ c.toNat := by omega
  have hother : identifierStarts.contains c = false := if_neg hfirst
  rw [isIdentifierStart, hother, Bool.or_false, isPlainStart]

/-- An ASCII character continues an identifier exactly when it continues a plain name. -/
lemma isIdentifierPart_of_isAscii {c : Char} (h : c.toNat < 128) :
    isIdentifierPart c = isPlainPart c := by
  have hfirst : ¬0xaa ≤ c.toNat := by omega
  have hother : identifierParts.contains c = false := if_neg hfirst
  rw [isIdentifierPart, hother, Bool.or_false, isPlainPart]

/-- What starts a plain name also continues one. -/
lemma isPlainPart_of_isPlainStart {c : Char} (h : isPlainStart c = true) :
    isPlainPart c = true := by
  rw [isPlainStart, Bool.or_eq_true] at h
  rw [isPlainPart, Bool.or_eq_true, Char.isAlphanum, Bool.or_eq_true]
  exact h.imp_left Or.inl

/-- A text that is made of the characters of plain names is an identifier exactly when it is a plain
name. -/
lemma isIdentifier_eq_isPlainName {s : String} (h : ∀ c ∈ s.toList, isPlainPart c = true) :
    isIdentifier s = isPlainName s := by
  rw [isIdentifier, isPlainName]
  cases hs : s.toList with
  | nil => rfl
  | cons c rest =>
    rw [hs, List.forall_mem_cons] at h
    have hparts : rest.all isPlainPart = true := List.all_eq_true.mpr h.2
    have hothers : rest.all isIdentifierPart = true := by
      refine List.all_eq_true.mpr fun d hd => ?_
      rw [isIdentifierPart_of_isAscii (isAscii_of_isPlainPart (h.2 d hd))]
      exact h.2 d hd
    rw [isPlainNameList, hparts]
    dsimp only
    rw [hothers, isIdentifierStart_of_isAscii (isAscii_of_isPlainPart h.1)]

/-- The characters of a plain name. -/
lemma isPlainPart_of_isPlainName {s : String} (h : isPlainName s = true) :
    ∀ c ∈ s.toList, isPlainPart c = true := by
  rw [isPlainName] at h
  cases hs : s.toList with
  | nil => exact fun c hc => absurd hc List.not_mem_nil
  | cons c rest =>
    rw [hs, isPlainNameList, Bool.and_eq_true] at h
    exact List.forall_mem_cons.mpr
      ⟨isPlainPart_of_isPlainStart h.1, List.all_eq_true.mp h.2⟩

/-- A plain name is an identifier. -/
lemma isIdentifier_of_isPlainName {s : String} (h : isPlainName s = true) :
    isIdentifier s = true :=
  (isIdentifier_eq_isPlainName (isPlainPart_of_isPlainName h)).trans h

/-- A plain name with an underscore behind it is one. -/
lemma isPlainName_append_underscore {s : String} (h : isPlainName s = true) :
    isPlainName (s ++ "_") = true := by
  rw [isPlainName] at h ⊢
  rw [String.toList_append]
  cases hs : s.toList with
  | nil =>
    rw [hs] at h
    exact absurd h (by decide)
  | cons c rest =>
    rw [hs, isPlainNameList, Bool.and_eq_true] at h
    rw [List.cons_append, isPlainNameList, List.all_append, h.1, h.2]
    decide

/-! ## Letters and digits beyond ASCII -/

namespace CharSet

/-- Boundaries without the pairs at their beginning that lie at or below a code point. -/
def dropPairs (n : Nat) : List Nat → List Nat
  | b :: b' :: rest => if b ≤ n && b' ≤ n then dropPairs n rest else b :: b' :: rest
  | bounds => bounds

/-- Whether boundaries leave out every range that other boundaries enclose. Both are read once, as
what lies below one range does not matter to the later ones. -/
def leavesOut : List Nat → List Nat → Bool
  | _, [] => true
  | _, [_] => false
  | bounds, first :: stop :: rest =>
    let left := dropPairs first bounds
    left.head?.all (stop ≤ ·) && leavesOut left rest

/-- Pairs of boundaries at or below a code point do not matter to those that follow it. -/
lemma oddBelow_dropPairs {first n : Nat} (h : first ≤ n) (bounds : List Nat) :
    oddBelow (dropPairs first bounds) n = oddBelow bounds n := by
  induction bounds using dropPairs.induct first with
  | case1 b b' rest hpair ih =>
    have hle : b ≤ n ∧ b' ≤ n := by
      simp only [Bool.and_eq_true, decide_eq_true_eq] at hpair
      omega
    rw [dropPairs, if_pos hpair, ih, oddBelow, if_pos hle.1, oddBelow, if_pos hle.2, Bool.not_not]
  | case2 b b' rest hpair => rw [dropPairs, if_neg hpair]
  | case3 bounds hshort => rw [dropPairs.eq_2 _ _ hshort]

/-- No code point is in a set if no boundary lies at or below it. -/
lemma oddBelow_of_head {bounds : List Nat} {n : Nat} (h : ∀ b ∈ bounds.head?, n < b) :
    oddBelow bounds n = false := by
  cases bounds with
  | nil => rfl
  | cons b rest => exact if_neg (Nat.not_le_of_lt (h b rfl))

/-- Two sets are disjoint if one leaves out the ranges of the other. -/
lemma oddBelow_of_leavesOut {bounds others : List Nat} (h : leavesOut bounds others = true) {n : Nat}
    (hn : oddBelow others n = true) : oddBelow bounds n = false := by
  induction bounds, others using leavesOut.induct with
  | case1 => exact absurd hn Bool.false_ne_true
  | case2 => exact absurd h Bool.false_ne_true
  | case3 bounds first stop rest left ih =>
    obtain ⟨hhead, hrest⟩ := (Bool.and_eq_true _ _).mp h
    simp only [oddBelow] at hn
    split_ifs at hn with hfirst hstop
    · rw [← oddBelow_dropPairs hfirst]
      exact ih hrest (by simpa using hn)
    · rw [← oddBelow_dropPairs hfirst]
      refine oddBelow_of_head fun b hb => ?_
      have hle : stop ≤ b := of_decide_eq_true ((Option.all_eq_true ..).mp hhead b hb)
      omega

end CharSet

/-- No character beyond ASCII that may start an identifier stands for a digit. -/
lemma leavesOut_digitLikes :
    CharSet.leavesOut identifierStarts.boundaries digitLikes.boundaries = true := by
  decide +kernel

/-- No digit starts an identifier. -/
lemma isDigitLike_of_isIdentifierStart {c : Char} (h : isIdentifierStart c = true) :
    isDigitLike c = false := by
  by_cases hascii : c.toNat < 128
  · rw [isIdentifierStart_of_isAscii hascii] at h
    rcases (Bool.or_eq_true _ _).mp (isPlainPart_of_isPlainStart h) with hletter | hunderscore
    · exact of_isAlphanum (p := fun c => isPlainStart c = true → isDigitLike c = false) (by decide)
        hletter h
    · rw [eq_of_beq hunderscore]
      decide
  · have hplain : isPlainPart c = false := eq_false_of_ne_true (mt isAscii_of_isPlainPart hascii)
    simp only [isPlainPart, Char.isAlphanum, Bool.or_eq_false_iff] at hplain
    obtain ⟨⟨halpha, hdigit⟩, hunderscore⟩ := hplain
    rw [isIdentifierStart, halpha, hunderscore, Bool.false_or, Bool.false_or] at h
    rw [isDigitLike, hdigit, Bool.false_or]
    by_contra hlike
    have hother : identifierStarts.contains c = false :=
      CharSet.oddBelow_of_leavesOut leavesOut_digitLikes (eq_true_of_ne_false hlike)
    exact Bool.false_ne_true (hother.symm.trans h)

/-! ## Identifiers -/

/-- The characters of an identifier. -/
lemma isIdentifier_iff {s : String} :
    isIdentifier s = true ↔ ∃ c rest, s.toList = c :: rest ∧ isIdentifierStart c = true ∧
      ∀ d ∈ rest, isIdentifierPart d = true := by
  rw [isIdentifier]
  cases hs : s.toList with
  | nil => simp
  | cons c rest =>
    simp only [Bool.and_eq_true, List.all_eq_true, List.cons.injEq]
    constructor
    · rintro ⟨hstart, hrest⟩
      exact ⟨c, rest, ⟨rfl, rfl⟩, hstart, hrest⟩
    · rintro ⟨_, _, ⟨rfl, rfl⟩, hparts⟩
      exact hparts

/-- An identifier may be continued. -/
lemma isIdentifier_append {s ending : String} (hs : isIdentifier s = true)
    (hending : ∀ c ∈ ending.toList, isIdentifierPart c = true) :
    isIdentifier (s ++ ending) = true := by
  obtain ⟨c, rest, hlist, hstart, hrest⟩ := isIdentifier_iff.mp hs
  refine isIdentifier_iff.mpr ⟨c, rest ++ ending.toList, ?_, hstart, ?_⟩
  · rw [String.toList_append, hlist, List.cons_append]
  · exact List.forall_mem_append.mpr ⟨hrest, hending⟩

/-! ## Safe identifiers -/

/-- What a safe identifier is made from: a name, or its snake case if it is no identifier. -/
def identifierBase (name : String) : String :=
  if isIdentifier name then name else snakeCase name

/-- How a base becomes a safe identifier. -/
lemma safeIdentifier_eq (name : String) :
    safeIdentifier name = match (identifierBase name).toList with
      | [] => "_unnamed"
      | c :: _ =>
        let started := if isDigitLike c then "_" ++ identifierBase name else identifierBase name
        if isTakenWord started then started ++ "_" else started := rfl

/-- The taken words are the keywords and the hidden names. -/
lemma isTakenWord_iff {s : String} :
    isTakenWord s = true ↔ s ∈ moduleKeywords ∨ s ∈ hiddenBuiltins := by
  rw [isTakenWord, Bool.or_eq_true, List.contains_iff_mem, List.contains_iff_mem]

/-- What no keyword and no hidden name is, no taken word is. -/
lemma not_isTakenWord_of {p : String → Prop}
    (h : ∀ word ∈ moduleKeywords ++ hiddenBuiltins, ¬p word) {s : String} (hs : p s) :
    isTakenWord s = false :=
  eq_false_of_ne_true fun htaken => h s (List.mem_append.mpr (isTakenWord_iff.mp htaken)) hs

/-- The last character of a text with an underscore behind it. -/
lemma getLast?_append_underscore (s : String) : (s ++ "_").toList.getLast? = some '_' := by
  rw [String.toList_append]
  exact List.getLast?_concat

/-- With an underscore behind it if it is a taken word, a text is none. -/
lemma not_isTakenWord_ite (s : String) :
    isTakenWord (if isTakenWord s then s ++ "_" else s) = false := by
  split_ifs with htaken
  · exact not_isTakenWord_of (p := fun word => word.toList.getLast? = some '_') (by decide)
      (getLast?_append_underscore s)
  · exact eq_false_of_ne_true htaken

/-- A safe identifier is no taken word. -/
lemma not_isTakenWord_safeIdentifier (name : String) :
    isTakenWord (safeIdentifier name) = false := by
  rw [safeIdentifier_eq]
  cases (identifierBase name).toList with
  | nil => exact (by decide : isTakenWord "_unnamed" = false)
  | cons c rest => exact not_isTakenWord_ite _

/-- An identifier is its own safe identifier, unless it is a taken word. -/
lemma safeIdentifier_of_isIdentifier {s : String} (h : isIdentifier s = true) :
    safeIdentifier s = if isTakenWord s then s ++ "_" else s := by
  have hbase : identifierBase s = s := if_pos h
  obtain ⟨c, rest, hlist, hstart, -⟩ := isIdentifier_iff.mp h
  rw [safeIdentifier_eq, hbase, hlist]
  simp only [isDigitLike_of_isIdentifierStart hstart, Bool.false_eq_true, if_false]

/-- A plain name is its own safe identifier, unless it is a taken word. -/
lemma safeIdentifier_of_isPlainName {s : String} (h : isPlainName s = true) :
    safeIdentifier s = if isTakenWord s then s ++ "_" else s :=
  safeIdentifier_of_isIdentifier (isIdentifier_of_isPlainName h)

/-- An underscore may continue an identifier. -/
lemma isIdentifierPart_of_mem_underscore : ∀ c ∈ "_".toList, isIdentifierPart c = true := by
  have hlist : "_".toList = ['_'] := rfl
  rw [hlist, List.forall_mem_singleton]
  decide

/-- With an underscore behind it if it is a taken word, an identifier remains one. -/
lemma isIdentifier_ite {s : String} (h : isIdentifier s = true) :
    isIdentifier (if isTakenWord s then s ++ "_" else s) = true := by
  split_ifs
  · exact isIdentifier_append h isIdentifierPart_of_mem_underscore
  · exact h

/-- A snake case whose first character is no digit is a plain name. -/
lemma isPlainName_snakeCase {name : String} {c : Char} {rest : List Char}
    (hname : (snakeCase name).toList = c :: rest) (hdigit : isDigitLike c = false) :
    isPlainName (snakeCase name) = true := by
  have hparts : ∀ d ∈ (snakeCase name).toList,
      isPlainPart d = true ∧ (isDigitLike d = false → isPlainStart d = true) :=
    forall_mem_snakeCase (by decide) (fun d => of_isAlphanum (p := fun d =>
      isPlainPart d.toLower = true ∧
        (isDigitLike d.toLower = false → isPlainStart d.toLower = true)) (by decide)) name
  rw [hname, List.forall_mem_cons] at hparts
  obtain ⟨hfirst, hrest⟩ := hparts
  rw [isPlainName, hname, isPlainNameList, hfirst.2 hdigit, Bool.true_and]
  exact List.all_eq_true.mpr fun d hd => (hrest d hd).1

/-- The characters of a snake case may continue an identifier. -/
lemma isIdentifierPart_of_mem_snakeCase {name : String} :
    ∀ c ∈ (snakeCase name).toList, isIdentifierPart c = true :=
  forall_mem_snakeCase (by decide)
    (fun c => of_isAlphanum (p := fun c => isIdentifierPart c.toLower = true) (by decide)) name

/-- A safe identifier is an identifier. -/
lemma isIdentifier_safeIdentifier (name : String) : isIdentifier (safeIdentifier name) = true := by
  by_cases hname : isIdentifier name = true
  · rw [safeIdentifier_of_isIdentifier hname]
    exact isIdentifier_ite hname
  · have hbase : identifierBase name = snakeCase name := if_neg hname
    rw [safeIdentifier_eq, hbase]
    cases hlist : (snakeCase name).toList with
    | nil => exact (by decide : isIdentifier "_unnamed" = true)
    | cons c rest =>
      refine isIdentifier_ite ?_
      split_ifs with hdigit
      · exact isIdentifier_append (by decide) isIdentifierPart_of_mem_snakeCase
      · exact isIdentifier_of_isPlainName
          (isPlainName_snakeCase hlist (eq_false_of_ne_true hdigit))

/-- A text that can be the name of an argument: an identifier that is no keyword and hides no
built-in name. -/
structure IsSafeName (s : String) : Prop where
  /-- The text is an identifier. -/
  identifier : isIdentifier s = true
  /-- It is no keyword. -/
  keyword : s ∉ moduleKeywords
  /-- It is none of the built-in names. -/
  builtin : s ∉ hiddenBuiltins

/-- A safe identifier is a safe name. -/
lemma isSafeName_safeIdentifier (name : String) : IsSafeName (safeIdentifier name) := by
  have hword := mt isTakenWord_iff.mpr (Bool.eq_false_iff.mp (not_isTakenWord_safeIdentifier name))
  rw [not_or] at hword
  exact ⟨isIdentifier_safeIdentifier name, hword.1, hword.2⟩

/-- **Safe identifiers are stable.** A safe identifier is its own safe identifier. -/
theorem safeIdentifier_safeIdentifier (name : String) :
    safeIdentifier (safeIdentifier name) = safeIdentifier name := by
  rw [safeIdentifier_of_isIdentifier (isIdentifier_safeIdentifier name),
    not_isTakenWord_safeIdentifier, if_neg Bool.false_ne_true]

/-- A safe identifier that does not begin with an underscore is its base, with an underscore behind
a taken word. The base begins with a character that is no digit. -/
lemma safeIdentifier_of_head_ne {name : String}
    (h : (safeIdentifier name).toList.head? ≠ some '_') :
    (∃ c rest, (identifierBase name).toList = c :: rest ∧ isDigitLike c = false) ∧
      safeIdentifier name = if isTakenWord (identifierBase name) then identifierBase name ++ "_"
        else identifierBase name := by
  rw [safeIdentifier_eq] at h ⊢
  cases hbase : (identifierBase name).toList with
  | nil =>
    rw [hbase] at h
    exact absurd (by decide : "_unnamed".toList.head? = some '_') h
  | cons c rest =>
    rw [hbase] at h
    cases hdigit : isDigitLike c with
    | true =>
      -- a digit gets an underscore in front of it
      have hstarts (ending : String) :
          ("_" ++ identifierBase name ++ ending).toList.head? = some '_' := by
        rw [String.toList_append, String.toList_append]
        rfl
      simp only [hdigit, if_true] at h
      split_ifs at h
      · exact absurd (hstarts "_") h
      · exact absurd (String.append_empty (s := "_" ++ identifierBase name) ▸ hstarts "") h
    | false => exact ⟨⟨c, rest, rfl, hdigit⟩, by simp only [hdigit, Bool.false_eq_true, if_false]⟩

end SqlMapping.Text
