import Mathlib.Algebra.Group.Nat.Defs
import Mathlib.Tactic.Lemma
import SqlMapping.Proofs.Text.CodePoint
import SqlMapping.Proofs.Text.Identifier
import SqlMapping.Proofs.Text.Lines
import SqlMapping.Text.Quoted

/-!
# Reading a literal back

A literal of the rendered modules stands on one line between two equal quotes. Inside it a backslash
begins an escape, which stands for a quote, the backslash or a control character, or for the code
point of a number: two, four or eight hexadecimal digits, or up to three octal ones. Before any
other character the backslash stands for itself. Characters that are given by their names are not
read here, nor are literals between three quotes.

Reading the literal that is written for a text gives the text, whatever its code points are
(`readLiteral_quote`), and every literal stands on one line (`isOneLine_quote`).
-/

namespace SqlMapping.Text

/-! ## The rules -/

/-- What is being read inside a literal. -/
inductive LiteralState where
  /-- The text itself. -/
  | plain
  /-- An escape, after its backslash. -/
  | escape
  /-- A code with `left + 1` hexadecimal digits to come; `value` is that of the digits before. -/
  | code (left value : Nat)
  /-- An octal code with at most `left` digits to come; `value` is that of the digits before. -/
  | octal (left value : Nat)
deriving DecidableEq

/-- The escapes of one character, and what they stand for. -/
def simpleEscapes : List (Char × Char) :=
  [('\\', '\\'), ('\'', '\''), ('"', '"'), ('n', '\n'), ('r', '\r'), ('t', '\t'), ('a', '\x07'),
    ('b', '\x08'), ('v', '\x0b'), ('f', '\x0c')]

/-- The marks of codes, with the highest place of their digits. -/
def codeEscapes : List (Char × Nat) :=
  [('x', 1), ('u', 3), ('U', 7)]

/-- The value of an octal digit. -/
def octalValue? (c : Char) : Option Nat :=
  if '0' ≤ c && c ≤ '7' then some (c.toNat - 48) else none

namespace LiteralState

/-- Reads one character of the text itself. -/
def plainStep (c : Char) : Option (List Char × LiteralState) :=
  if c = '\\' then some ([], .escape)
  else if breaksLine c then none
  else some ([c], .plain)

/-- Reads the character after a backslash. -/
def escapeStep (c : Char) : Option (List Char × LiteralState) :=
  match simpleEscapes.lookup c, codeEscapes.lookup c, octalValue? c with
  | some d, _, _ => some ([d], .plain)
  | none, some place, _ => some ([], .code place 0)
  | none, none, some d => some ([], .octal 2 d)
  | none, none, none => if c = 'N' || breaksLine c then none else some (['\\', c], .plain)

/-- Reads one character: the characters of the text that are complete with it, and what is being read
next. -/
def step : LiteralState → Char → Option (List Char × LiteralState)
  | .plain, c => plainStep c
  | .escape, c => escapeStep c
  | .code left value, c => do
    let d ← hexValue? c
    match left with
    | left + 1 => some ([], .code left (16 * value + d))
    | 0 =>
      if 16 * value + d < 0x110000 then some ((CodePoint.ofNumber (16 * value + d)).spelling, .plain)
      else none
  | .octal left value, c =>
    match left, octalValue? c with
    | left + 1, some d => some ([], .octal left (8 * value + d))
    | _, _ => (plainStep c).map fun (text, next) => (Char.ofNat value :: text, next)

/-- The characters of the text that the closing quote completes, unless it cannot stand here. -/
def close? : LiteralState → Option (List Char)
  | .plain => some []
  | .octal _ value => some [Char.ofNat value]
  | .escape => none
  | .code _ _ => none

end LiteralState

/-- Reads a text up to the quote that closes its literal; what follows that quote is returned too. -/
def readText (quote : Char) : LiteralState → List Char → Option (List Char × List Char)
  | _, [] => none
  | state, c :: rest =>
    match if c = quote then state.close? else none with
    | some text => some (text, rest)
    | none => (state.step c).bind fun (text, next) =>
      (readText quote next rest).map (Prod.map (text ++ ·) id)

/-- Reads a literal: its text, and what follows it. -/
def readLiteral : List Char → Option (List Char × List Char)
  | [] => none
  | quote :: rest =>
    if (quote = '\'' ∨ quote = '"') ∧ ¬[quote, quote].isPrefixOf rest then readText quote .plain rest
    else none

/-! ## Codes -/

/-- The digits of a code, from the highest place on. -/
lemma hexDigits_succ (width n : Nat) :
    hexDigits (width + 1) n = hexDigitAt n width :: hexDigits width n := by
  rw [hexDigits, List.range_succ, List.reverse_append, List.reverse_singleton,
    List.singleton_append, List.map_cons, hexDigits]

/-- The value of a digit is read back. -/
lemma hexValue_hexDigitAt (n place : Nat) :
    hexValue? (hexDigitAt n place) = some (n / 16 ^ place % 16) := by
  have hread : ∀ d < 16, hexValue? (Nat.digitChar d) = some d := by decide
  exact hread _ (Nat.mod_lt _ (by decide))

/-- The digits of a code break no line. -/
lemma breaksLine_of_mem_hexDigits {width n : Nat} {c : Char} (h : c ∈ hexDigits width n) :
    breaksLine c = false := by
  have hdigit : ∀ d < 16, breaksLine (Nat.digitChar d) = false := by decide
  obtain ⟨place, -, rfl⟩ := List.mem_map.mp h
  exact hdigit _ (Nat.mod_lt _ (by decide))

/-- In a state in which no literal ends, a character is read. -/
lemma readText_step {quote c : Char} {state : LiteralState} (hclose : state.close? = none)
    (rest : List Char) :
    readText quote state (c :: rest) =
      (state.step c).bind fun (text, next) =>
        (readText quote next rest).map (Prod.map (text ++ ·) id) := by
  have hnone : (if c = quote then state.close? else none) = none := by
    rw [hclose, ite_self]
  rw [readText, hnone]

/-- The digits of the number of a code point are read from every place on. The value read before is
that of the digits at the higher places. -/
lemma readText_code (quote : Char) {n : Nat} (hn : n < 0x110000) (place : Nat) (rest : List Char) :
    readText quote (.code place (n / 16 ^ (place + 1))) (hexDigits (place + 1) n ++ rest) =
      (readText quote .plain rest).map (Prod.map ((CodePoint.ofNumber n).spelling ++ ·) id) := by
  -- the digits before a place, followed by the digit at that place
  have hvalue (place : Nat) : 16 * (n / 16 ^ (place + 1)) + n / 16 ^ place % 16 =
      n / 16 ^ place := by
    rw [Nat.pow_succ, ← Nat.div_div_eq_div_mul]
    omega
  induction place with
  | zero =>
    have hlast := hvalue 0
    rw [Nat.pow_zero, Nat.div_one] at hlast
    rw [hexDigits_succ, List.cons_append, readText_step rfl, LiteralState.step,
      hexValue_hexDigitAt]
    simp only [Option.bind_eq_bind, Option.bind_some, Nat.pow_zero, Nat.div_one, hlast, hn,
      if_true]
    rfl
  | succ place ih =>
    rw [hexDigits_succ, List.cons_append, readText_step rfl, LiteralState.step,
      hexValue_hexDigitAt]
    simp only [Option.bind_eq_bind, Option.bind_some, hvalue, ih]
    rw [Option.map_map]
    rfl

/-! ## Literals -/

/-- One of the two quotes that literals stand between. -/
def IsLiteralQuote (c : Char) : Prop :=
  c = '\'' ∨ c = '"'

/-- The quote of a literal is one of the two. -/
lemma isLiteralQuote_quoteFor (cs : List Char) : IsLiteralQuote (quoteFor cs) := by
  unfold quoteFor IsLiteralQuote
  split
  · exact Or.inr rfl
  · exact Or.inl rfl

/-- No character that is spelled with a guard is printable. -/
lemma not_isPrintable_of_isGuarded {c : Char} (h : isGuarded c = true) : isPrintable c = false := by
  have hbeyond : 0x10f000 ≤ c.toNat ∧ c.toNat < 0x110000 := by
    rcases (Bool.or_eq_true _ _).mp h with hstand | hguard
    · simp only [isStandIn, Bool.and_eq_true, decide_eq_true_eq] at hstand
      omega
    · rw [beq_iff_eq.mp hguard]
      decide
  have htable : CharSet.leavesOut printables.boundaries [0x10f000, 0x110000] = true := by
    decide +kernel
  have hrange : CharSet.oddBelow [0x10f000, 0x110000] c.toNat = true := by
    simp [CharSet.oddBelow, hbeyond.1, hbeyond.2]
  rw [isPrintable, if_neg (by omega)]
  exact CharSet.oddBelow_of_leavesOut htable hrange

/-- A character that needs no escape is read as itself. -/
lemma readText_unescaped {quote c : Char} (hne : c ≠ quote) (hbackslash : c ≠ '\\')
    (hbreak : breaksLine c = false) (rest : List Char) :
    readText quote .plain (c :: rest) =
      (readText quote .plain rest).map (Prod.map (c :: ·) id) := by
  rw [readText, if_neg hne]
  show (LiteralState.plainStep c).bind _ = _
  rw [LiteralState.plainStep, if_neg hbackslash, if_neg (Bool.eq_false_iff.mp hbreak)]
  rfl

section Escapes

variable {quote : Char} (hquote : IsLiteralQuote quote)

include hquote

/-- No literal stands between backslashes. -/
lemma IsLiteralQuote.ne_backslash : '\\' ≠ quote := by
  rcases hquote with rfl | rfl
  · decide
  · decide

/-- A backslash in a text begins an escape. -/
lemma readText_backslash (rest : List Char) :
    readText quote .plain ('\\' :: rest) = readText quote .escape rest := by
  rw [readText, if_neg hquote.ne_backslash]
  exact congrFun Option.map_id _

/-- A character inside a literal is escaped as one character, by its number, or not at all. -/
lemma escapeChar_cases (c : Char) :
    (∃ d, (d, c) ∈ simpleEscapes ∧ escapeChar quote c = ['\\', d]) ∨
      (∃ mark place, (mark, place) ∈ codeEscapes ∧ c.toNat < 16 ^ (place + 1) ∧
        escapeChar quote c = '\\' :: mark :: hexDigits (place + 1) c.toNat) ∨
      (c ≠ quote ∧ c ≠ '\\' ∧ breaksLine c = false ∧ isGuarded c = false ∧
        escapeChar quote c = [c]) := by
  unfold escapeChar
  split
  · next hself =>
    refine Or.inl ⟨c, ?_, rfl⟩
    rcases (Bool.or_eq_true _ _).mp hself with hc | hc
    · rw [beq_iff_eq.mp hc]
      rcases hquote with rfl | rfl
      · decide
      · decide
    · rw [beq_iff_eq.mp hc]
      decide
  · next hself =>
    have hne : c ≠ quote ∧ c ≠ '\\' := by
      simpa using hself
    split
    · next hlf => exact Or.inl ⟨'n', by rw [beq_iff_eq.mp hlf]; decide, rfl⟩
    · next hlf =>
      split
      · next hcr => exact Or.inl ⟨'r', by rw [beq_iff_eq.mp hcr]; decide, rfl⟩
      · next hcr =>
        split
        · next htab => exact Or.inl ⟨'t', by rw [beq_iff_eq.mp htab]; decide, rfl⟩
        · split
          · next hprintable =>
            have hbreak : breaksLine c = false := by
              rw [breaksLine, Bool.eq_false_iff.mpr hlf, Bool.eq_false_iff.mpr hcr, Bool.or_false]
            have hplain : isGuarded c = false := eq_false_of_ne_true fun hguarded =>
              Bool.false_ne_true ((not_isPrintable_of_isGuarded hguarded).symm.trans hprintable)
            exact Or.inr (Or.inr ⟨hne.1, hne.2, hbreak, hplain, rfl⟩)
          · right
            left
            split
            · next hsmall => exact ⟨'x', 1, by decide, hsmall, rfl⟩
            · split
              · next hsmall => exact ⟨'u', 3, by decide, hsmall, rfl⟩
              · exact ⟨'U', 7, by decide, c.val.toNat_lt, rfl⟩

/-- A code point inside a literal is escaped as one character, by its number, or not at all. -/
lemma escapePoint_cases (p : CodePoint) :
    (∃ d c, (d, c) ∈ simpleEscapes ∧ p.spelling = [c] ∧ escapePoint quote p = ['\\', d]) ∨
      (∃ mark place n, (mark, place) ∈ codeEscapes ∧ n < 16 ^ (place + 1) ∧ n < 0x110000 ∧
        CodePoint.ofNumber n = p ∧
          escapePoint quote p = '\\' :: mark :: hexDigits (place + 1) n) ∨
      (∃ c, c ≠ quote ∧ c ≠ '\\' ∧ breaksLine c = false ∧ p.spelling = [c] ∧
        escapePoint quote p = [c]) := by
  have hsimple : ∀ q ∈ simpleEscapes, isGuarded q.2 = false := by decide
  cases p with
  | char c =>
    have hone : isGuarded c = false → (CodePoint.char c).spelling = [c] := fun hplain =>
      if_neg (Bool.eq_false_iff.mp hplain)
    rcases escapeChar_cases hquote c with
      ⟨d, hd, heq⟩ | ⟨mark, place, hmark, hsmall, heq⟩ | ⟨hne, hbackslash, hbreak, hplain, heq⟩
    · exact Or.inl ⟨d, c, hd, hone (hsimple _ hd), heq⟩
    · have hbound : c.toNat < 0x110000 := by
        have hvalid : c.toNat < 0xd800 ∨ 0xdfff < c.toNat ∧ c.toNat < 0x110000 := c.valid
        omega
      exact Or.inr (Or.inl
        ⟨mark, place, _, hmark, hsmall, hbound, CodePoint.ofNumber_toNat c, heq⟩)
    · exact Or.inr (Or.inr ⟨c, hne, hbackslash, hbreak, hone hplain, heq⟩)
  | half c =>
    have hbounds := StandIn.number_bounds c
    have hsmall : c.number < 16 ^ 4 := by omega
    exact Or.inr (Or.inl ⟨'u', 3, c.number, by decide, hsmall, by omega,
      CodePoint.ofNumber_number c, rfl⟩)
  | loose =>
    refine Or.inr (Or.inr ⟨guardChar, ?_, by decide, by decide, rfl, rfl⟩)
    rcases hquote with rfl | rfl
    · decide
    · decide

/-- A code point inside a literal is read back as it is spelled. -/
lemma readText_escapePoint (p : CodePoint) (rest : List Char) :
    readText quote .plain (escapePoint quote p ++ rest) =
      (readText quote .plain rest).map (Prod.map (p.spelling ++ ·) id) := by
  have hsimple : ∀ p ∈ simpleEscapes, LiteralState.escapeStep p.1 = some ([p.2], .plain) := by
    decide
  have hcode : ∀ p ∈ codeEscapes, LiteralState.escapeStep p.1 = some ([], .code p.2 0) := by
    decide
  rcases escapePoint_cases hquote p with ⟨d, c, hd, hspelling, heq⟩ |
    ⟨mark, place, n, hmark, hsmall, hn, rfl, heq⟩ | ⟨c, hne, hbackslash, hbreak, hspelling, heq⟩
  · rw [heq, List.cons_append, readText_backslash hquote]
    rw [List.cons_append, readText_step rfl, LiteralState.step, hsimple _ hd, hspelling]
    rfl
  · rw [heq, List.cons_append, readText_backslash hquote]
    rw [List.cons_append, readText_step rfl, LiteralState.step, hcode _ hmark,
      ← readText_code quote hn place rest, Nat.div_eq_of_lt hsmall]
    exact congrFun Option.map_id _
  · rw [heq, hspelling]
    exact readText_unescaped hne hbackslash hbreak rest

/-- No code point inside a literal begins with the quote. -/
lemma head_escapePoint (p : CodePoint) : ∃ d ds, escapePoint quote p = d :: ds ∧ d ≠ quote := by
  rcases escapePoint_cases hquote p with
    ⟨d, c, -, -, heq⟩ | ⟨mark, place, n, -, -, -, -, heq⟩ | ⟨c, hne, -, -, -, heq⟩
  · exact ⟨_, _, heq, hquote.ne_backslash⟩
  · exact ⟨_, _, heq, hquote.ne_backslash⟩
  · exact ⟨_, _, heq, hne⟩

/-- No code point inside a literal breaks its line. -/
lemma breaksLine_of_mem_escapePoint {p : CodePoint} {d : Char} (h : d ∈ escapePoint quote p) :
    breaksLine d = false := by
  have hsimple : ∀ p ∈ simpleEscapes, breaksLine p.1 = false := by decide
  have hcode : ∀ p ∈ codeEscapes, breaksLine p.1 = false := by decide
  rcases escapePoint_cases hquote p with
    ⟨e, c, he, -, heq⟩ | ⟨mark, place, n, hmark, -, -, -, heq⟩ | ⟨c, -, -, hbreak, -, heq⟩
  · rw [heq] at h
    rcases List.mem_cons.mp h with rfl | h
    · rfl
    · rw [List.mem_singleton.mp h]
      exact hsimple _ he
  · rw [heq] at h
    rcases List.mem_cons.mp h with rfl | h
    · rfl
    · rcases List.mem_cons.mp h with rfl | h
      · exact hcode _ hmark
      · exact breaksLine_of_mem_hexDigits h
  · rw [heq, List.mem_singleton] at h
    rw [h, hbreak]

/-- The text of a literal is read up to its closing quote. -/
lemma readText_flatMap (ps : List CodePoint) (rest : List Char) :
    readText quote .plain (ps.flatMap (escapePoint quote) ++ quote :: rest) =
      some (spellingOf ps, rest) := by
  induction ps with
  | nil =>
    rw [List.flatMap_nil, List.nil_append, readText, if_pos rfl]
    rfl
  | cons p ps ih =>
    rw [List.flatMap_cons, List.append_assoc, readText_escapePoint hquote, ih]
    rfl

end Escapes

/-- The literal of a text is not the beginning of one between three quotes. -/
lemma not_isPrefixOf_body {quote : Char} (hquote : IsLiteralQuote quote) (ps : List CodePoint)
    {rest : List Char} (hrest : ∀ c ∈ rest.head?, ¬IsLiteralQuote c) :
    ¬[quote, quote].isPrefixOf (ps.flatMap (escapePoint quote) ++ quote :: rest) := by
  intro hprefix
  cases ps with
  | nil =>
    -- after the empty literal another quote would be the third one
    cases rest with
    | nil => simp at hprefix
    | cons c rest =>
      have hc : quote = c := by
        simpa using hprefix
      exact hrest c rfl (hc ▸ hquote)
  | cons p ps =>
    obtain ⟨d, ds, hd, hne⟩ := head_escapePoint hquote p
    rw [List.flatMap_cons, hd] at hprefix
    have hself : quote = d := by
      simp only [List.cons_append, List.isPrefixOf, Bool.and_eq_true, beq_iff_eq] at hprefix
      exact hprefix.1
    exact hne hself.symm

/-- **Literals are read back.** Reading the literal of a text gives the text and leaves what follows
the literal, unless a quote follows. -/
theorem readLiteral_quote (s : String) {rest : List Char}
    (hrest : ∀ c ∈ rest.head?, ¬IsLiteralQuote c) :
    readLiteral ((quote s).toList ++ rest) = some (s.toList, rest) := by
  have hquote := isLiteralQuote_quoteFor s.toList
  have hopen := not_isPrefixOf_body hquote (codePoints s.toList) hrest
  rw [quote, String.toList_ofList, quoteList]
  simp only [List.cons_append, List.append_assoc, List.nil_append]
  rw [readLiteral, if_pos ⟨hquote, hopen⟩, readText_flatMap hquote, spellingOf_codePoints]

/-- **Literals stand on one line**, whatever their texts hold. -/
theorem isOneLine_quote (s : String) : IsOneLine (quote s) := by
  have hquote := isLiteralQuote_quoteFor s.toList
  have hends : breaksLine (quoteFor s.toList) = false := by
    rcases hquote with h | h
    · rw [h]
      rfl
    · rw [h]
      rfl
  rw [IsOneLine, quote, String.toList_ofList, quoteList, List.all_eq_true]
  intro d hd
  rw [Bool.not_eq_true']
  rcases List.mem_append.mp hd with hd | hd
  · rcases List.mem_cons.mp hd with rfl | hd
    · exact hends
    · obtain ⟨p, -, hp⟩ := List.mem_flatMap.mp hd
      exact breaksLine_of_mem_escapePoint hquote hp
  · rw [List.mem_singleton.mp hd]
    exact hends

end SqlMapping.Text
