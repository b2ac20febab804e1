import SqlMapping.Proofs.Sql.Script
import SqlMapping.Proofs.Statement.Create

/-!
# The statement that creates a table is one statement

Whatever the names, the defaults and the references of a schema are, a script takes the text that
creates its table as it is: no comment begins in it, no semicolon cuts it, and no quote is left
open. What is written without quotes are keywords, the names of types, and numbers; a dash stands
in a number only, as its sign or as that of its exponent, and never beside another dash.
-/

namespace SqlMapping.Sql

open SqlMapping.Number SqlMapping.Text

/-! ## Dashes in numbers -/

instance (cs : List Char) : Decidable (NoDashPair cs) :=
  inferInstanceAs (Decidable (cs.IsChain _))

/-- A character in front of a text without dashes makes no pair of dashes. -/
lemma noDashPair_cons (c : Char) {cs : List Char} (h : '-' ∉ cs) : NoDashPair (c :: cs) := by
  induction cs generalizing c with
  | nil => exact List.isChain_singleton c
  | cons d cs ih =>
    rw [List.mem_cons, not_or] at h
    exact List.isChain_cons_cons.mpr ⟨fun _ hd => h.1 hd.symm, ih d h.2⟩

/-- A text without dashes in front of another makes no pair of dashes. -/
lemma noDashPair_append {front rest : List Char} (hfront : '-' ∉ front)
    (hrest : NoDashPair rest) : NoDashPair (front ++ rest) := by
  induction front with
  | nil => exact hrest
  | cons c front ih =>
    rw [List.mem_cons, not_or] at hfront
    exact List.isChain_cons.mpr ⟨fun _ _ hc => absurd hc.symm hfront.1, ih hfront.2⟩

/-- Decimal digits are no dashes. -/
lemma dash_notMem_toDigits (n : Nat) : '-' ∉ Nat.toDigits 10 n := by
  intro h
  have hdigit : '-'.isDigit = true := Nat.isDigit_of_mem_toDigits (by decide) (by decide) h
  exact absurd hdigit (by decide)

/-- Zeros are no dashes. -/
lemma dash_notMem_zeros (n : Nat) : '-' ∉ Real64.zeros n := by
  intro h
  exact absurd (List.eq_of_mem_replicate h) (by decide)

/-- The text of an integer has no pair of dashes. -/
lemma noDashPair_intText (n : Int) : NoDashPair (intText n).toList := by
  have hdigits : (natText n.natAbs).toList = Nat.toDigits 10 n.natAbs := String.toList_ofList
  rw [intText]
  split_ifs
  · rw [String.toList_append, hdigits]
    exact noDashPair_cons '-' (dash_notMem_toDigits _)
  · rw [hdigits, ← List.append_nil (Nat.toDigits 10 n.natAbs)]
    exact noDashPair_append (dash_notMem_toDigits _) List.isChain_nil

/-- An exponent has no pair of dashes. -/
lemma noDashPair_exponentText (e : Int) : NoDashPair (Real64.exponentText e) := by
  refine noDashPair_cons _ fun h => ?_
  rcases List.mem_append.mp h with h | h
  · exact dash_notMem_zeros _ h
  · exact dash_notMem_toDigits _ h

/-- Digits with a point or an exponent begin with characters other than dashes, and what follows
these has no pair of dashes. -/
lemma exists_front_layoutDigits {digits : List Char} (h : '-' ∉ digits) (point : Int) :
    ∃ front rest, Real64.layoutDigits digits point = front ++ rest ∧ front ≠ [] ∧
      '-' ∉ front ∧ NoDashPair rest := by
  have htake : ∀ n, '-' ∉ digits.take n := fun n hmem => h (List.mem_of_mem_take hmem)
  have hdrop : ∀ n, '-' ∉ digits.drop n := fun n hmem => h (List.mem_of_mem_drop hmem)
  unfold Real64.layoutDigits
  split_ifs with hplain hsmall hwhole
  · refine ⟨_, [], (List.append_nil _).symm, List.cons_ne_nil _ _, ?_, List.isChain_nil⟩
    simp [h, dash_notMem_zeros]
  · refine ⟨_, [], (List.append_nil _).symm, by simp, ?_, List.isChain_nil⟩
    simp [h, dash_notMem_zeros]
  · refine ⟨_, [], (List.append_nil _).symm, by simp, ?_, List.isChain_nil⟩
    simp [htake, hdrop]
  · refine ⟨digits.take 1 ++ (if (digits.drop 1).isEmpty then [] else '.' :: digits.drop 1) ++
      ['e'], Real64.exponentText (point - 1), by simp, by simp, ?_, noDashPair_exponentText _⟩
    have htail : '-' ∉ digits.tail := fun hmem => h (List.mem_of_mem_tail hmem)
    split_ifs <;> simp [htake, htail]

/-- The text of a floating-point number has no pair of dashes. -/
lemma noDashPair_realText (x : Real64) : NoDashPair x.text.toList := by
  cases x with
  | nan => decide
  | infinite negative => cases negative <;> decide
  | finite negative mantissa exponent =>
    obtain ⟨front, rest, hbody, hne, hfront, hrest⟩ : ∃ front rest,
        finiteBody mantissa exponent = front ++ rest ∧ front ≠ [] ∧ '-' ∉ front ∧
          NoDashPair rest := by
      rw [finiteBody]
      split_ifs
      · exact ⟨['0', '.', '0'], [], rfl, by decide, by decide, List.isChain_nil⟩
      · exact exists_front_layoutDigits
          (fun h => dash_notMem_toDigits _ (mem_of_mem_dropZeros h)) _
    have htext : (Real64.text (.finite negative mantissa exponent)).toList =
        (if negative then ['-'] else []) ++ finiteBody mantissa exponent := by
      cases negative <;> exact String.toList_ofList
    rw [htext, hbody]
    cases negative with
    | false =>
      rw [if_neg Bool.false_ne_true, List.nil_append]
      exact noDashPair_append hfront hrest
    | true =>
      obtain ⟨c, cs, rfl⟩ := List.exists_cons_of_ne_nil hne
      have hc : c ≠ '-' := fun hc => hfront (hc ▸ List.mem_cons_self)
      exact List.isChain_cons_cons.mpr ⟨fun _ => hc, noDashPair_append hfront hrest⟩

/-! ## Quiet tokens -/

instance (t : Token) : Decidable t.IsQuiet :=
  match t with
  | .word s => inferInstanceAs (Decidable (NoDashPair s.toList))
  | .quoted quote _ => inferInstanceAs (Decidable (isScriptQuote quote = true))
  | .unclosed _ _ => inferInstanceAs (Decidable False)
  | .mark => inferInstanceAs (Decidable True)
  | .symbol c => inferInstanceAs (Decidable (c ≠ ';'))

/-- The tokens of the clause of a column are quiet. -/
lemma isQuiet_of_mem_columnTokens {c : Column} {isPrimary : Bool} {t : Token}
    (h : t ∈ columnTokens c isPrimary) : t.IsQuiet := by
  have htype : Token.IsQuiet (.word c.type.name) := by
    cases c.type <;> decide
  have hsize : ∀ u ∈ sizeTokens c.size, u.IsQuiet := by
    cases c.size <;> simp [sizeTokens, Token.IsQuiet, noDashPair_intText]
  have hconstraints : ∀ isPrimary isUnique isNotNull,
      ∀ u ∈ constraintTokens isPrimary isUnique isNotNull, u.IsQuiet := by decide
  have hliteral : ∀ u ∈ literalToken? c.default, u.IsQuiet := by
    cases c.default with
    | none => simp [literalToken?]
    | integer width n => simp [literalToken?, Token.IsQuiet, noDashPair_intText]
    | whole precision n => simp [literalToken?, Token.IsQuiet, noDashPair_intText]
    | real precision x => simp [literalToken?, Token.IsQuiet, noDashPair_realText]
    | bool b => cases b <;> simp only [literalToken?, Option.mem_some_iff, forall_eq'] <;> decide
    | text s => simp [literalToken?, Token.IsQuiet, isScriptQuote]
  have hdefault : ∀ u ∈ defaultTokens c.default, u.IsQuiet := by
    rw [defaultTokens]
    cases hc : literalToken? c.default with
    | none => simp
    | some literal =>
      have hkeyword : Token.IsQuiet (.word "DEFAULT") := by decide
      simp [hkeyword, hliteral literal hc]
  rw [columnTokens, List.mem_cons, List.mem_cons, List.mem_append, List.mem_append] at h
  rcases h with rfl | rfl | h | h | h
  · rfl
  · exact htype
  · exact hsize t h
  · exact hconstraints _ _ _ t h
  · exact hdefault t h

/-- The tokens of the clause of a reference are quiet. -/
lemma isQuiet_of_mem_referenceTokens {column : String} {r : Reference} {t : Token}
    (h : t ∈ referenceTokens column r) : t.IsQuiet := by
  have hdelete : ∀ u ∈ eventTokens "DELETE" r.onDelete, u.IsQuiet := by
    cases r.onDelete <;> decide
  have hupdate : ∀ u ∈ eventTokens "UPDATE" r.onUpdate, u.IsQuiet := by
    cases r.onUpdate <;> decide
  rw [referenceTokens, List.mem_append, List.mem_append] at h
  rcases h with h | h | h
  · fin_cases h <;> first | rfl | decide
  · exact hdelete t h
  · exact hupdate t h

/-- The tokens of the statement that creates a table are quiet. -/
lemma isQuiet_of_mem_createTokens {s : Schema} {t : Token} (h : t ∈ createTokens s) :
    t.IsQuiet := by
  rw [createTokens, List.mem_append, List.mem_append] at h
  rcases h with (h | h) | h
  · fin_cases h <;> first | rfl | decide
  · by_cases hcomma : t = .symbol ','
    · rw [hcomma]
      decide
    · obtain ⟨ts, hts, ht⟩ : ∃ ts ∈ clauseTokens s, t ∈ ts := by
        by_contra hnone
        exact notMem_commaTokens hcomma (fun ts hts hmem => hnone ⟨ts, hts, hmem⟩) h
      rcases List.mem_append.mp hts with hts | hts
      · obtain ⟨c, -, rfl⟩ := List.mem_map.mp hts
        exact isQuiet_of_mem_columnTokens ht
      · obtain ⟨reference, -, rfl⟩ := List.mem_map.mp hts
        exact isQuiet_of_mem_referenceTokens ht
  · rw [List.mem_singleton.mp h]
    decide

/-! ## The statement -/

/-- **One statement.** A script takes the text that creates a table as it is, whatever the names,
the defaults and the references of the schema are. -/
theorem isWhole_createTable {s : Schema} {text : String} (h : s.createTable = .ok text) :
    IsWhole text.toList := by
  refine isWhole_of_tokens fun t ht => isQuiet_of_mem_createTokens (s := s) ?_
  rw [← tokens_createTable h]
  exact ht

/-- No blanks stand at the ends of the text that creates a table. -/
lemma trimWith_createTable {s : Schema} {text : String} (h : s.createTable = .ok text) :
    trimWith isBlank text.toList = text.toList := by
  obtain ⟨clauses, -, rfl⟩ := map_eq_ok.mp h
  have hlist : ("CREATE TABLE " ++ Statement.quoteName s.table ++ " (" ++
      commaList (clauses ++ s.referenceClauses) ++ ")").toList =
        'C' :: (("REATE TABLE " ++ Statement.quoteName s.table ++ " (" ++
          commaList (clauses ++ s.referenceClauses)).toList ++ [')']) := by
    simp
  rw [hlist]
  exact trimWith_of_ends (by decide) (by decide)

/-- The text that creates a table begins with a letter. -/
lemma head_createTable {s : Schema} {text : String} (h : s.createTable = .ok text) :
    text.toList.head? = some 'C' := by
  obtain ⟨clauses, -, rfl⟩ := map_eq_ok.mp h
  simp

end SqlMapping.Sql
