import SqlMapping.Proofs.Sql.Token

/-!
# Placeholders of statements

The scan of a driver takes the question marks outside quotes for placeholders. `partsFrom` cuts a
text at exactly these: the scan leaves the parts as they are but for doubled percent signs, and
writes the mark of the `k`-th placeholder between the parts `k - 1` and `k` (`adaptFrom_eq_parts`).

The reader of `SqlMapping.Proofs.Sql.Token` follows quotes in a way of its own. The two agree on
every text: the tokens of a text are the tokens of its parts with a placeholder between each two
(`lexFrom_eq_parts`), so the `k`-th placeholder among the tokens is the `k`-th one that the scan
sees.
-/

namespace SqlMapping.Sql

open SqlMapping.Text

/-- The part of a text in front of the first placeholder, and the parts that follow the
placeholders, for a scan with the given quote open at the beginning. -/
def partsFrom : Option Char → List Char → List Char × List (List Char)
  | _, [] => ([], [])
  | open?, c :: rest =>
    if open?.isNone && c == '?' then
      ([], (partsFrom none rest).1 :: (partsFrom none rest).2)
    else
      (c :: (partsFrom (quoteAfter open? c) rest).1, (partsFrom (quoteAfter open? c) rest).2)

/-- The parts of a text between its placeholders. -/
def parts (sql : String) : List Char × List (List Char) :=
  partsFrom none sql.toList

/-- The number of placeholders that the scan sees in a text. -/
def placeholderCount (sql : String) : Nat :=
  (parts sql).2.length

/-- The parts that follow placeholders, each with the mark of its placeholder in front. The number
of placeholders before is given. -/
def joinMarks (mark : Nat → List Char) : Nat → List (List Char) → List Char
  | _, [] => []
  | k, part :: rest => mark (k + 1) ++ part ++ joinMarks mark (k + 1) rest

/-- A part as a style writes it. -/
def written (style : ParameterStyle) (part : List Char) : List Char :=
  part.flatMap fun c => if c == '%' && style.doublesPercent then ['%', '%'] else [c]

/-! ## What the scan does to a text -/

/-- A character is written twice if it is a percent sign and the style doubles these. -/
lemma written_singleton (style : ParameterStyle) (c : Char) :
    written style [c] = if c == '%' && style.doublesPercent then ['%', '%'] else [c] :=
  List.flatMap_singleton _ c

/-- A part is written character by character. -/
lemma written_cons (style : ParameterStyle) (c : Char) (part : List Char) :
    written style (c :: part) = written style [c] ++ written style part := by
  rw [written_singleton]
  rfl

/-- The scan writes a mark for a question mark outside quotes. -/
lemma adaptFrom_cons_mark {style : ParameterStyle} {open? : Option Char} {c : Char} {k : Nat}
    {mark : List Char} (hc : (open?.isNone && c == '?') = true)
    (hmark : style.mark (k + 1) = .ok mark) (rest : List Char) :
    adaptFrom style open? k (c :: rest) = (adaptFrom style none (k + 1) rest).map (mark ++ ·) := by
  rw [adaptFrom, if_pos hc, hmark]
  rfl

/-- The scan keeps any other character, as its style writes it. -/
lemma adaptFrom_cons_kept {style : ParameterStyle} {open? : Option Char} {c : Char}
    (hc : ¬(open?.isNone && c == '?') = true) (k : Nat) (rest : List Char) :
    adaptFrom style open? k (c :: rest) =
      (adaptFrom style (quoteAfter open? c) k rest).map (written style [c] ++ ·) := by
  rw [adaptFrom, if_neg hc, written_singleton]
  cases adaptFrom style (quoteAfter open? c) k rest with
  | error message => rfl
  | ok others =>
    show Except.ok (if _ then _ else _) = Except.ok _
    split_ifs <;> rfl

/-- The scan writes every part as its style asks for, and the `k`-th mark for the `k`-th
placeholder. -/
theorem adaptFrom_eq_parts {style : ParameterStyle} {mark : Nat → List Char}
    (hmark : ∀ k, style.mark k = .ok (mark k)) (open? : Option Char) (k : Nat) (cs : List Char) :
    adaptFrom style open? k cs =
      .ok (written style (partsFrom open? cs).1 ++
        joinMarks mark k ((partsFrom open? cs).2.map (written style))) := by
  induction cs generalizing open? k with
  | nil => rfl
  | cons c rest ih =>
    by_cases hc : (open?.isNone && c == '?') = true
    · rw [adaptFrom_cons_mark hc (hmark _), ih none (k + 1), partsFrom, if_pos hc]
      show Except.ok _ = Except.ok _
      simp [written, joinMarks]
    · have hfirst := written_cons style c (partsFrom (quoteAfter open? c) rest).1
      rw [adaptFrom_cons_kept hc, ih (quoteAfter open? c) k, partsFrom, if_neg hc, hfirst,
        List.append_assoc]
      rfl

/-! ## The scan and the reader -/

/-- The quote that is open in a state of the reader. -/
def LexState.openQuote : LexState → Option Char
  | .quoted quote _ => some quote
  | _ => none

/-- No placeholder is at hand. -/
lemma count_mark_pending (state : LexState) : state.pending.count .mark = 0 := by
  cases state <;> simp [LexState.pending]

/-- A character outside quotes opens a quoted part for the reader exactly when it does for the
scan. -/
lemma openQuote_start (c : Char) : (start c).1.openQuote = quoteAfter none c := by
  unfold start quoteAfter
  split_ifs <;> rfl

/-- A character outside quotes is a placeholder for the reader exactly when it is a question mark.
-/
lemma count_mark_start (c : Char) : (start c).2.count .mark = if c = '?' then 1 else 0 := by
  unfold start
  split_ifs with hquote hmark hmark' <;> simp_all [isStatementQuote]

/-- The state of a quoted part is one of a quote of statements. -/
def LexState.IsProper : LexState → Prop
  | .quoted quote _ => isStatementQuote quote = true
  | .closed quote _ => isStatementQuote quote = true
  | _ => True

/-- Between tokens there is no quoted part. -/
lemma isProper_between : LexState.IsProper .between :=
  trivial

/-- What a character outside quotes begins is a state of a quote of statements. -/
lemma isProper_start (c : Char) : (start c).1.IsProper := by
  unfold start
  split_ifs with hquote <;> first | exact hquote | trivial

/-- One character leaves the state proper. -/
lemma isProper_step {state : LexState} (h : state.IsProper) (c : Char) :
    (step state c).1.IsProper := by
  cases state with
  | between => exact isProper_start c
  | word read =>
    by_cases hc : isWordChar c = true
    · rw [step_word read hc]
      trivial
    · rw [step_word_start read hc]
      exact isProper_start c
  | quoted quote read =>
    by_cases hc : c = quote
    · rw [hc, step_quoted]
      exact h
    · rw [step_quoted_ne read hc]
      exact h
  | closed quote read =>
    by_cases hc : c = quote
    · rw [hc, step_closed]
      exact h
    · rw [step_closed_ne read hc]
      exact isProper_start c

/-- One character opens and closes the same quotes for the reader and for the scan. -/
lemma openQuote_step {state : LexState} (h : state.IsProper) (c : Char) :
    (step state c).1.openQuote = quoteAfter state.openQuote c := by
  cases state with
  | between => exact openQuote_start c
  | word read =>
    by_cases hc : isWordChar c = true
    · have hquote : isStatementQuote c = false := by
        simp only [isWordChar, Bool.and_eq_true, Bool.not_eq_true'] at hc
        exact hc.1.1.1
      rw [step_word read hc]
      simp [LexState.openQuote, quoteAfter, hquote]
    · rw [step_word_start read hc]
      exact openQuote_start c
  | quoted quote read =>
    by_cases hc : c = quote
    · rw [hc, step_quoted]
      simp [LexState.openQuote, quoteAfter]
    · rw [step_quoted_ne read hc]
      simp [LexState.openQuote, quoteAfter, hc]
  | closed quote read =>
    -- for the scan the quoted part is over, and a second quote begins the next one
    by_cases hc : c = quote
    · have hquote : isStatementQuote quote = true := h
      rw [hc, step_closed]
      simp [LexState.openQuote, quoteAfter, hquote]
    · rw [step_closed_ne read hc]
      exact openQuote_start c

/-- The question mark is no quote. -/
lemma ne_of_isStatementQuote {quote : Char} (h : isStatementQuote quote = true) : '?' ≠ quote := by
  rintro rfl
  exact absurd h (by decide)

/-- One character is a placeholder for the reader exactly when it is one for the scan. -/
lemma count_mark_step {state : LexState} (h : state.IsProper) (c : Char) :
    (step state c).2.count .mark = if state.openQuote.isNone && c == '?' then 1 else 0 := by
  cases state with
  | between => simpa [step, LexState.openQuote] using count_mark_start c
  | word read =>
    by_cases hc : isWordChar c = true
    · have hmark : c ≠ '?' := by
        rintro rfl
        exact absurd hc (by decide)
      rw [step_word read hc]
      simp [hmark]
    · rw [step_word_start read hc]
      simpa [LexState.openQuote] using count_mark_start c
  | quoted quote read =>
    by_cases hc : c = quote
    · rw [hc, step_quoted]
      simp [LexState.openQuote]
    · rw [step_quoted_ne read hc]
      simp [LexState.openQuote]
  | closed quote read =>
    by_cases hc : c = quote
    · rw [hc, step_closed]
      simp [(ne_of_isStatementQuote h).symm]
    · rw [step_closed_ne read hc]
      simpa [LexState.openQuote] using count_mark_start c

/-- The reader sees as many placeholders as the scan. -/
theorem count_mark_lexFrom {state : LexState} (h : state.IsProper) (cs : List Char) :
    (lexFrom state cs).count .mark = (partsFrom state.openQuote cs).2.length := by
  induction cs generalizing state with
  | nil => exact count_mark_pending state
  | cons c rest ih =>
    rw [lexFrom_cons, List.count_append, ih (isProper_step h c), count_mark_step h c,
      openQuote_step h c]
    by_cases hc : (state.openQuote.isNone && c == '?') = true
    · rw [partsFrom, if_pos hc, if_pos hc]
      simp only [Bool.and_eq_true, Option.isNone_iff_eq_none, beq_iff_eq] at hc
      rw [hc.1, hc.2, Nat.add_comm]
      rfl
    · rw [partsFrom, if_neg hc, if_neg hc, Nat.zero_add]

/-- A placeholder outside quotes completes the token at hand. -/
lemma step_mark {state : LexState} (h : state.IsProper) (hopen : state.openQuote = none) :
    step state '?' = (.between, state.pending ++ [.mark]) := by
  cases state with
  | between => rfl
  | word read => rfl
  | quoted quote read => exact absurd hopen (by simp [LexState.openQuote])
  | closed quote read =>
    rw [step_closed_ne read (ne_of_isStatementQuote h)]
    rfl

/-- **The reader follows the scan.** The tokens of a text are those of its parts, with a placeholder
in front of each part that the scan cuts off. -/
theorem lexFrom_eq_parts {state : LexState} (h : state.IsProper) (cs : List Char) :
    lexFrom state cs = lexFrom state (partsFrom state.openQuote cs).1 ++
      (partsFrom state.openQuote cs).2.flatMap fun part => .mark :: lex part := by
  induction cs generalizing state with
  | nil => simp [partsFrom]
  | cons c rest ih =>
    have hrest := ih (isProper_step h c)
    rw [openQuote_step h c] at hrest
    by_cases hc : (state.openQuote.isNone && c == '?') = true
    · rw [partsFrom, if_pos hc, lexFrom_cons, hrest]
      simp only [Bool.and_eq_true, Option.isNone_iff_eq_none, beq_iff_eq] at hc
      obtain ⟨hopen, rfl⟩ := hc
      have hnone : quoteAfter none '?' = none := rfl
      rw [step_mark h hopen, hopen, hnone]
      simp [lexFrom, lex]
    · rw [partsFrom, if_neg hc, lexFrom_cons, hrest, lexFrom_cons, List.append_assoc]

/-- The tokens of a statement, cut at its placeholders. -/
theorem tokens_eq_parts (sql : String) :
    tokens sql = lex (parts sql).1 ++ (parts sql).2.flatMap fun part => .mark :: lex part :=
  lexFrom_eq_parts isProper_between sql.toList

/-- A part holds no placeholder of its own. -/
lemma partsFrom_part (open? : Option Char) (cs : List Char) :
    partsFrom open? (partsFrom open? cs).1 = ((partsFrom open? cs).1, []) ∧
      ∀ part ∈ (partsFrom open? cs).2, partsFrom none part = (part, []) := by
  induction cs generalizing open? with
  | nil => simp [partsFrom]
  | cons c rest ih =>
    by_cases hc : (open?.isNone && c == '?') = true
    · rw [partsFrom, if_pos hc]
      refine ⟨rfl, fun part hpart => ?_⟩
      rcases List.mem_cons.mp hpart with rfl | hpart
      · exact (ih none).1
      · exact (ih none).2 part hpart
    · rw [partsFrom, if_neg hc]
      refine ⟨?_, (ih (quoteAfter open? c)).2⟩
      rw [partsFrom, if_neg hc, (ih (quoteAfter open? c)).1]

/-- No placeholder is among the tokens of a text that the scan takes for one part. -/
lemma mark_notMem_lex {part : List Char} (h : partsFrom none part = (part, [])) :
    Token.mark ∉ lex part := by
  have hcount : (lex part).count .mark = (partsFrom none part).2.length :=
    count_mark_lexFrom isProper_between part
  rw [h] at hcount
  exact List.count_eq_zero.mp hcount

/-- Lists without a token that follow each other, each but the first behind that token. -/
lemma splitOn_flatMap {t : Token} {first : List Token} {others : List (List Token)}
    (hfirst : t ∉ first) (hothers : ∀ ts ∈ others, t ∉ ts) :
    (first ++ others.flatMap (t :: ·)).splitOn t = first :: others := by
  induction others generalizing first with
  | nil => rw [List.flatMap_nil, List.append_nil, List.splitOn_eq_singleton hfirst]
  | cons second others ih =>
    have hsecond : t ∉ second := hothers second List.mem_cons_self
    have hrest : ∀ ts ∈ others, t ∉ ts := fun ts hts => hothers ts (List.mem_cons_of_mem _ hts)
    rw [List.flatMap_cons, List.cons_append, List.splitOn_append_cons_self_of_not_mem hfirst,
      ih hsecond hrest]

/-- The tokens of the parts of a text are its tokens, cut at the placeholders. -/
theorem splitOn_mark_tokens (sql : String) :
    (tokens sql).splitOn .mark = lex (parts sql).1 :: (parts sql).2.map lex := by
  have hfirst : Token.mark ∉ lex (parts sql).1 := mark_notMem_lex (partsFrom_part none _).1
  have hothers : ∀ ts ∈ (parts sql).2.map lex, Token.mark ∉ ts := by
    intro ts hts
    obtain ⟨part, hpart, rfl⟩ := List.mem_map.mp hts
    exact mark_notMem_lex ((partsFrom_part none _).2 part hpart)
  rw [tokens_eq_parts, ← splitOn_flatMap hfirst hothers, List.flatMap_map]

/-- The number of placeholders among the tokens of a statement. -/
theorem count_mark_tokens (sql : String) : (tokens sql).count .mark = placeholderCount sql :=
  count_mark_lexFrom isProper_between sql.toList

end SqlMapping.Sql
