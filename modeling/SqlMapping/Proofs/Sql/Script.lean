import Mathlib.Algebra.GroupWithZero.Nat
import Mathlib.Data.List.Chain
import SqlMapping.Proofs.Sql.Placeholder
import SqlMapping.Proofs.Text.Trimming

/-!
# Statements of scripts

A script is a text of several statements. A line comment begins with two dashes outside quotes and
ends with its line. What is left without the comments (`readCode`) is cut at the semicolons outside
quotes (`cut`), and the pieces that are not blank are the statements of the script. Quotes are
single quotes and back quotes.

Blanks and semicolons add no statement (`nonblank_cut_of_inert`), and any other character outside a
comment is part of one: the weight of a text counts these characters in the text (`weight_cons`) as
in its statements (`sum_visible_nonblank`).

A text is whole (`IsWhole`) when it stays as it is in front of a semicolon: no comment begins in it,
no semicolon cuts it, and no quote is left open. The tokens of a text tell whether it is whole
(`isWhole_of_tokens`).
-/

namespace SqlMapping.Sql

open SqlMapping.Text

/-! ## The reader -/

/-- Whether a character opens a quoted part of a script. -/
def isScriptQuote (c : Char) : Bool :=
  c == '\'' || c == '\x60'

/-- The quote of a script that is open after a character. -/
def scriptQuoteAfter (open? : Option Char) (c : Char) : Option Char :=
  match open? with
  | some quote => if c = quote then none else some quote
  | none => if isScriptQuote c then some c else none

/-- Where the reader of a script is. -/
inductive ScriptState where
  /-- In a comment. -/
  | comment
  /-- In the code, with a quote that is open or with none. -/
  | code (open? : Option Char)
deriving DecidableEq

/-- The quote that is open in a state. -/
def ScriptState.openQuote : ScriptState → Option Char
  | .comment => none
  | .code open? => open?

/-- Whether a comment begins with the first character of a text. -/
def beginsComment (open? : Option Char) (cs : List Char) : Bool :=
  open?.isNone && ['-', '-'].isPrefixOf cs

/-- What is left of a text without its comments, and the state at the end of the text. -/
def readCode : ScriptState → List Char → List Char × ScriptState
  | state, [] => ([], state)
  | .comment, c :: rest =>
    if c = '\n' then (c :: (readCode (.code none) rest).1, (readCode (.code none) rest).2)
    else readCode .comment rest
  | .code open?, c :: rest =>
    if beginsComment open? (c :: rest) then readCode .comment rest
    else
      let next := readCode (.code (scriptQuoteAfter open? c)) rest
      (c :: next.1, next.2)

/-- The pieces of a text between the semicolons outside quotes. -/
def cut : Option Char → List Char → List (List Char)
  | _, [] => [[]]
  | open?, c :: rest =>
    if open?.isNone && c == ';' then [] :: cut none rest
    else (cut (scriptQuoteAfter open? c) rest).modifyHead (c :: ·)

/-- The pieces that are not blank, without the blanks around them. -/
def nonblank (pieces : List (List Char)) : List (List Char) :=
  (pieces.map (trimWith isBlank)).filter (· ≠ [])

/-- The statements of a script. -/
def scriptStatements (script : String) : List String :=
  (nonblank (cut none (readCode (.code none) script.toList).1)).map String.ofList

example : scriptStatements "-- it's\nSET `a;b` = ';--'; ;\n-- x;y\nDROP `c`" =
    ["SET `a;b` = ';--'", "DROP `c`"] := by decide

/-! ## Texts that follow each other -/

/-- A comment begins in a text wherever it begins in front of other text, unless a dash follows. -/
lemma beginsComment_append (open? : Option Char) (c : Char) (cs : List Char) {rest : List Char}
    (hrest : rest.head? ≠ some '-') :
    beginsComment open? (c :: (cs ++ rest)) = beginsComment open? (c :: cs) := by
  cases cs with
  | cons d cs => rfl
  | nil =>
    cases rest with
    | nil => rfl
    | cons d rest =>
      have hd : ('-' == d) = false := by
        rw [beq_eq_false_iff_ne]
        exact fun h => hrest (congrArg some h.symm)
      simp [beginsComment, List.isPrefixOf, hd]

/-- A text is read as its parts are, unless a dash begins the second part. -/
lemma readCode_append (state : ScriptState) (cs : List Char) {rest : List Char}
    (hrest : rest.head? ≠ some '-') :
    readCode state (cs ++ rest) =
      ((readCode state cs).1 ++ (readCode (readCode state cs).2 rest).1,
        (readCode (readCode state cs).2 rest).2) := by
  induction cs generalizing state with
  | nil => simp [readCode]
  | cons c cs ih =>
    rw [List.cons_append]
    cases state with
    | comment =>
      rw [readCode, readCode, ih, ih]
      split <;> rfl
    | code open? =>
      rw [readCode, readCode, beginsComment_append open? c cs hrest, ih, ih]
      split <;> rfl

/-- The quote that is open at the end of a text is the one that its code leaves open. -/
lemma foldl_readCode (state : ScriptState) (cs : List Char) :
    (readCode state cs).1.foldl scriptQuoteAfter state.openQuote =
      (readCode state cs).2.openQuote := by
  induction cs generalizing state with
  | nil => rfl
  | cons c cs ih =>
    cases state with
    | comment =>
      rw [readCode]
      split_ifs with hc
      · subst hc
        exact ih (.code none)
      · exact ih .comment
    | code open? =>
      rw [readCode]
      split_ifs with hcomment
      · rw [beginsComment, Bool.and_eq_true, Option.isNone_iff_eq_none] at hcomment
        obtain ⟨rfl, -⟩ := hcomment
        exact ih .comment
      · exact ih (.code (scriptQuoteAfter open? c))

/-- There is at least one piece. -/
lemma cut_ne_nil (open? : Option Char) (cs : List Char) : cut open? cs ≠ [] := by
  induction cs generalizing open? with
  | nil => simp [cut]
  | cons c cs ih =>
    rw [cut]
    split_ifs
    · simp
    · cases hcut : cut (scriptQuoteAfter open? c) cs with
      | nil => exact absurd hcut (ih _)
      | cons piece pieces => simp

/-- A text that is one piece adds to the first piece of what follows it. -/
lemma cut_append_of_single {open? : Option Char} {cs : List Char} (h : cut open? cs = [cs])
    (rest : List Char) :
    cut open? (cs ++ rest) =
      (cut (cs.foldl scriptQuoteAfter open?) rest).modifyHead (cs ++ ·) := by
  induction cs generalizing open? with
  | nil =>
    cases hcut : cut open? rest <;> simp [hcut]
  | cons c cs ih =>
    rw [cut] at h
    rw [List.cons_append, cut, List.foldl_cons]
    split_ifs at h ⊢ with hc
    · exact absurd (List.cons.inj h).1 (by simp)
    · obtain ⟨piece, pieces, hcut⟩ :=
        List.exists_cons_of_ne_nil (cut_ne_nil (scriptQuoteAfter open? c) cs)
      rw [hcut, List.modifyHead_cons] at h
      obtain ⟨hpiece, hpieces⟩ := List.cons.inj h
      rw [(List.cons.inj hpiece).2, hpieces] at hcut
      rw [ih hcut, List.modifyHead_modifyHead]
      rfl

/-! ## Pieces that are not blank -/

/-- Nothing is left of a blank piece. -/
lemma nonblank_cons_of_blank {piece : List Char} (pieces : List (List Char))
    (h : trimWith isBlank piece = []) : nonblank (piece :: pieces) = nonblank pieces := by
  simp [nonblank, h]

/-- A piece that is not blank stays, without the blanks around it. -/
lemma nonblank_cons_of_ne_nil {piece : List Char} (pieces : List (List Char))
    (h : trimWith isBlank piece ≠ []) :
    nonblank (piece :: pieces) = trimWith isBlank piece :: nonblank pieces := by
  simp [nonblank, h]

/-- A text with no blanks at its ends stays as it is. -/
lemma trimWith_of_ends {first last : Char} {cs : List Char} (hfirst : isBlank first = false)
    (hlast : isBlank last = false) :
    trimWith isBlank (first :: (cs ++ [last])) = first :: (cs ++ [last]) := by
  rw [trimWith_cons_of_neg hfirst, trimEndWith_concat cs hlast]

/-- A blank opens no quote. -/
lemma scriptQuoteAfter_of_blank {c : Char} (hc : isBlank c = true) :
    scriptQuoteAfter none c = none := by
  have hquote : isScriptQuote c = false := by
    by_contra h
    rw [Bool.not_eq_false, isScriptQuote, Bool.or_eq_true, beq_iff_eq, beq_iff_eq] at h
    rcases h with rfl | rfl <;> exact absurd hc (by decide)
  simp [scriptQuoteAfter, hquote]

/-- Blanks and semicolons in front of a text add no statement. -/
lemma nonblank_cut_of_inert {inert : List Char}
    (h : ∀ c ∈ inert, isBlank c = true ∨ c = ';') (rest : List Char) :
    nonblank (cut none (inert ++ rest)) = nonblank (cut none rest) := by
  induction inert with
  | nil => rfl
  | cons c inert ih =>
    have hih := ih fun d hd => h d (List.mem_cons_of_mem _ hd)
    rw [List.cons_append, cut]
    split_ifs with hcuts
    · rw [nonblank_cons_of_blank _ (trimWith_nil isBlank), hih]
    · have hblank : isBlank c = true := by
        rcases h c List.mem_cons_self with hc | rfl
        · exact hc
        · exact absurd rfl hcuts
      obtain ⟨piece, pieces, hcut⟩ := List.exists_cons_of_ne_nil (cut_ne_nil none (inert ++ rest))
      rw [scriptQuoteAfter_of_blank hblank, ← hih, hcut, List.modifyHead_cons, nonblank, nonblank,
        List.map_cons, List.map_cons, trimWith_cons_of_pos hblank]

/-! ## Characters that are not blank -/

/-- The number of characters that are not blank. -/
def visible (cs : List Char) : Nat :=
  cs.countP fun c => !isBlank c

/-- The number of characters of the pieces of a text that are not blank. -/
def weight (open? : Option Char) (cs : List Char) : Nat :=
  ((cut open? cs).map visible).sum

/-- A semicolon outside quotes has no weight, and neither has a blank. -/
lemma weight_cons (open? : Option Char) (c : Char) (cs : List Char) :
    weight open? (c :: cs) =
      if open?.isNone && c == ';' then weight none cs
      else visible [c] + weight (scriptQuoteAfter open? c) cs := by
  rw [weight, cut]
  split_ifs with hcuts
  · exact Nat.zero_add _
  · obtain ⟨piece, pieces, hcut⟩ :=
      List.exists_cons_of_ne_nil (cut_ne_nil (scriptQuoteAfter open? c) cs)
    have hcons : visible ([c] ++ piece) = visible [c] + visible piece := List.countP_append
    rw [weight, hcut, List.modifyHead_cons, List.map_cons, List.map_cons, List.sum_cons,
      List.sum_cons, ← List.singleton_append, hcons, Nat.add_assoc]

/-- The weight of a text is that of its parts. -/
lemma weight_append (open? : Option Char) (cs rest : List Char) :
    weight open? (cs ++ rest) =
      weight open? cs + weight (cs.foldl scriptQuoteAfter open?) rest := by
  induction cs generalizing open? with
  | nil =>
    have hnil : weight open? [] = 0 := rfl
    rw [hnil, Nat.zero_add]
    rfl
  | cons c cs ih =>
    rw [List.cons_append, weight_cons, weight_cons, List.foldl_cons]
    split_ifs with hcuts
    · rw [Bool.and_eq_true, Option.isNone_iff_eq_none, beq_iff_eq] at hcuts
      obtain ⟨rfl, rfl⟩ := hcuts
      exact ih none
    · rw [ih, Nat.add_assoc]

/-- A text without weight holds nothing but blanks and semicolons. -/
lemma inert_of_weight_eq_zero {cs : List Char} (h : weight none cs = 0) :
    ∀ c ∈ cs, isBlank c = true ∨ c = ';' := by
  induction cs with
  | nil => simp
  | cons c cs ih =>
    rw [weight_cons] at h
    split_ifs at h with hcuts
    · rw [Option.isNone_none, Bool.true_and, beq_iff_eq] at hcuts
      exact List.forall_mem_cons.mpr ⟨Or.inr hcuts, ih h⟩
    · have hblank : isBlank c = true := by
        simpa [visible] using (Nat.add_eq_zero_iff.mp h).1
      rw [scriptQuoteAfter_of_blank hblank] at h
      exact List.forall_mem_cons.mpr ⟨Or.inl hblank, ih (Nat.add_eq_zero_iff.mp h).2⟩

/-- The blanks at the beginning of a text are no visible characters of it. -/
lemma visible_dropWhile (cs : List Char) : visible (cs.dropWhile isBlank) = visible cs := by
  induction cs with
  | nil => rfl
  | cons c cs ih =>
    rw [List.dropWhile_cons]
    split_ifs with hc
    · simpa [visible, hc] using ih
    · rfl

/-- The blanks around a text are no visible characters of it. -/
lemma visible_trimWith (cs : List Char) : visible (trimWith isBlank cs) = visible cs := by
  have hreverse : ∀ ds : List Char, visible ds.reverse = visible ds := fun ds =>
    List.countP_reverse
  rw [trimWith, hreverse, visible_dropWhile, hreverse, visible_dropWhile]

/-- The pieces that are not blank have all visible characters. -/
lemma sum_visible_nonblank (pieces : List (List Char)) :
    ((nonblank pieces).map visible).sum = (pieces.map visible).sum := by
  induction pieces with
  | nil => rfl
  | cons piece pieces ih =>
    have hpiece := visible_trimWith piece
    by_cases h : trimWith isBlank piece = []
    · rw [h] at hpiece
      rw [nonblank_cons_of_blank _ h, ih, List.map_cons, List.sum_cons, ← hpiece]
      exact (Nat.zero_add _).symm
    · rw [nonblank_cons_of_ne_nil _ h, List.map_cons, List.map_cons, List.sum_cons, List.sum_cons,
        hpiece, ih]

/-! ## Whole texts -/

/-- A text that a script takes as it is, up to a semicolon behind it. -/
structure IsWhole (cs : List Char) : Prop where
  /-- No comment begins in the text, and no quote is left open. -/
  code : readCode (.code none) cs = (cs, .code none)
  /-- No semicolon cuts the text. -/
  single : cut none cs = [cs]

/-- A whole text leaves no quote open. -/
lemma IsWhole.foldl_eq_none {cs : List Char} (h : IsWhole cs) :
    cs.foldl scriptQuoteAfter none = none := by
  have hfold := foldl_readCode (.code none) cs
  rw [h.code] at hfold
  exact hfold

/-- A whole text in front of a semicolon is the first piece. -/
lemma IsWhole.cut_append {cs : List Char} (h : IsWhole cs) (rest : List Char) :
    cut none (cs ++ ';' :: rest) = cs :: cut none rest := by
  have hsemicolon : cut none (';' :: rest) = [] :: cut none rest := rfl
  rw [cut_append_of_single h.single, h.foldl_eq_none, hsemicolon, List.modifyHead_cons,
    List.append_nil]

/-- The weight of a whole text is the number of its visible characters. -/
lemma IsWhole.weight_eq {cs : List Char} (h : IsWhole cs) : weight none cs = visible cs := by
  rw [weight, h.single]
  exact Nat.add_zero _

/-! ## Tokens of whole texts -/

/-- No two dashes stand side by side. -/
def NoDashPair (cs : List Char) : Prop :=
  cs.IsChain fun a b => a = '-' → b ≠ '-'

/-- A token that leaves a script in one piece: a word without two dashes side by side, a quoted part
that is closed, or a character other than the semicolon. -/
def Token.IsQuiet : Token → Prop
  | .word s => NoDashPair s.toList
  | .quoted quote _ => isScriptQuote quote = true
  | .unclosed _ _ => False
  | .mark => True
  | .symbol c => c ≠ ';'

/-- The reader of tokens completes a word that it has begun. -/
lemma exists_word_mem (read cs : List Char) :
    ∃ word, read <+: word ∧ .word (String.ofList word) ∈ lexFrom (.word read) cs := by
  induction cs generalizing read with
  | nil => exact ⟨read, List.prefix_refl read, List.mem_singleton_self _⟩
  | cons c cs ih =>
    rw [lexFrom_cons]
    by_cases hc : isWordChar c = true
    · rw [step_word read hc]
      obtain ⟨word, hprefix, hmem⟩ := ih (read ++ [c])
      exact ⟨word, (List.prefix_append read [c]).trans hprefix, hmem⟩
    · rw [step_word_start read hc]
      exact ⟨read, List.prefix_refl read, by simp⟩

/-- The reader of tokens completes a quoted part that it has begun, or leaves it open. -/
lemma exists_quoted_mem (quote : Char) (read cs : List Char) :
    (∃ s, .quoted quote s ∈ lexFrom (.quoted quote read) cs ∨
        .unclosed quote s ∈ lexFrom (.quoted quote read) cs) ∧
      ∃ s, .quoted quote s ∈ lexFrom (.closed quote read) cs ∨
        .unclosed quote s ∈ lexFrom (.closed quote read) cs := by
  induction cs generalizing read with
  | nil =>
    exact ⟨⟨String.ofList read, Or.inr (List.mem_singleton_self _)⟩,
      String.ofList read, Or.inl (List.mem_singleton_self _)⟩
  | cons c cs ih =>
    rw [lexFrom_cons, lexFrom_cons]
    by_cases hc : c = quote
    · rw [hc, step_quoted, step_closed]
      exact ⟨(ih read).2, (ih (read ++ [quote])).1⟩
    · rw [step_quoted_ne read hc, step_closed_ne read hc]
      exact ⟨(ih (read ++ [c])).1, String.ofList read, Or.inl (by simp)⟩

/-- A double quote outside quotes opens a quoted part for the reader of tokens. -/
lemma step_doubleQuote {state : LexState} (hopen : state.openQuote = none) :
    ∃ read, (step state '"').1 = .quoted '"' read := by
  cases state with
  | between => exact ⟨[], rfl⟩
  | word read => exact ⟨[], rfl⟩
  | quoted quote read => exact absurd hopen (by simp [LexState.openQuote])
  | closed quote read =>
    by_cases hquote : '"' = quote
    · subst hquote
      exact ⟨read ++ ['"'], by rw [step_closed]⟩
    · exact ⟨[], by rw [step_closed_ne read hquote]; rfl⟩

/-- A semicolon outside quotes is a token by itself. -/
lemma step_semicolon {state : LexState} (h : state.IsProper) (hopen : state.openQuote = none) :
    .symbol ';' ∈ (step state ';').2 := by
  cases state with
  | between => exact List.mem_singleton_self _
  | word read => exact List.mem_cons_of_mem _ (List.mem_singleton_self _)
  | quoted quote read => exact absurd hopen (by simp [LexState.openQuote])
  | closed quote read =>
    have hquote : ';' ≠ quote := by
      rintro rfl
      have hproper : isStatementQuote ';' = true := h
      exact absurd hproper (by decide)
    rw [step_closed_ne read hquote]
    exact List.mem_cons_of_mem _ (List.mem_singleton_self _)

/-- Two dashes outside quotes belong to one word. -/
lemma exists_dashes_mem {state : LexState} (h : state.IsProper) (hopen : state.openQuote = none)
    (cs : List Char) :
    ∃ front word, front ++ ['-', '-'] <+: word ∧
      .word (String.ofList word) ∈ lexFrom state ('-' :: '-' :: cs) := by
  have hword : ∀ read, ∃ word, read ++ ['-', '-'] <+: word ∧
      .word (String.ofList word) ∈ lexFrom (.word read) ('-' :: '-' :: cs) := by
    intro read
    obtain ⟨word, hprefix, hmem⟩ := exists_word_mem (read ++ ['-', '-']) cs
    refine ⟨word, hprefix, ?_⟩
    rw [lexFrom_cons, step_word read rfl, lexFrom_cons, step_word _ rfl, List.append_assoc]
    exact hmem
  obtain ⟨word, hprefix, hmem⟩ := exists_word_mem ['-', '-'] cs
  cases state with
  | between => exact ⟨[], word, hprefix, hmem⟩
  | word read => exact ⟨read, hword read⟩
  | quoted quote read => exact absurd hopen (by simp [LexState.openQuote])
  | closed quote read =>
    have hquote : '-' ≠ quote := by
      rintro rfl
      have hproper : isStatementQuote '-' = true := h
      exact absurd hproper (by decide)
    refine ⟨[], word, hprefix, ?_⟩
    rw [lexFrom_cons, step_closed_ne read hquote]
    exact List.mem_append_right _ hmem

section Quiet

variable {state : LexState} {c : Char} {cs : List Char}

/-- In front of quiet tokens, a script and the reader of tokens see the same quotes. -/
lemma scriptQuoteAfter_of_quiet (h : state.IsProper)
    (hquiet : ∀ t ∈ lexFrom state (c :: cs), t.IsQuiet) :
    scriptQuoteAfter state.openQuote c = (step state c).1.openQuote := by
  rw [openQuote_step h c]
  cases hopen : state.openQuote with
  | some quote => rfl
  | none =>
    have hc : c ≠ '"' := by
      rintro rfl
      obtain ⟨read, hread⟩ := step_doubleQuote hopen
      obtain ⟨s, hs | hs⟩ := (exists_quoted_mem '"' read cs).1
      · have hmem := List.mem_append_right (step state '"').2 (hread ▸ hs)
        exact absurd (hquiet _ hmem) (by simp [Token.IsQuiet, isScriptQuote])
      · have hmem := List.mem_append_right (step state '"').2 (hread ▸ hs)
        exact hquiet _ hmem
    simp [scriptQuoteAfter, quoteAfter, isScriptQuote, isStatementQuote, hc]

/-- No comment begins with quiet tokens. -/
lemma not_beginsComment_of_quiet (h : state.IsProper)
    (hquiet : ∀ t ∈ lexFrom state (c :: cs), t.IsQuiet) :
    ¬beginsComment state.openQuote (c :: cs) = true := by
  intro hcomment
  rw [beginsComment, Bool.and_eq_true, Option.isNone_iff_eq_none] at hcomment
  obtain ⟨rest, hrest⟩ := List.isPrefixOf_iff_prefix.mp hcomment.2
  rw [← hrest] at hquiet
  obtain ⟨front, word, hprefix, hmem⟩ := exists_dashes_mem h hcomment.1 rest
  have hchain : NoDashPair word := by simpa [Token.IsQuiet] using hquiet _ hmem
  have hpair : NoDashPair (front ++ ['-', '-']) := List.IsChain.prefix hchain hprefix
  exact absurd (List.isChain_append.mp hpair).2.1 (by decide)

/-- No semicolon cuts quiet tokens. -/
lemma not_cuts_of_quiet (h : state.IsProper)
    (hquiet : ∀ t ∈ lexFrom state (c :: cs), t.IsQuiet) :
    ¬(state.openQuote.isNone && c == ';') = true := by
  intro hcuts
  rw [Bool.and_eq_true, Option.isNone_iff_eq_none, beq_iff_eq] at hcuts
  obtain ⟨hopen, rfl⟩ := hcuts
  exact hquiet _ (List.mem_append_left _ (step_semicolon h hopen)) rfl

/-- The code of quiet tokens is the text itself, in one piece. -/
lemma code_of_quiet (h : state.IsProper) (hquiet : ∀ t ∈ lexFrom state cs, t.IsQuiet) :
    readCode (.code state.openQuote) cs = (cs, .code none) ∧ cut state.openQuote cs = [cs] := by
  induction cs generalizing state with
  | nil =>
    have hopen : state.openQuote = none := by
      cases state with
      | quoted quote read => exact (hquiet _ (List.mem_singleton_self _)).elim
      | _ => rfl
    rw [hopen]
    exact ⟨rfl, rfl⟩
  | cons c cs ih =>
    obtain ⟨hcode, hcut⟩ := ih (isProper_step h c) fun t ht =>
      hquiet t (List.mem_append_right _ ht)
    rw [← scriptQuoteAfter_of_quiet h hquiet] at hcode hcut
    constructor
    · rw [readCode, if_neg (not_beginsComment_of_quiet h hquiet), hcode]
    · rw [cut, if_neg (not_cuts_of_quiet h hquiet), hcut]
      rfl

end Quiet

/-- **Whole texts by their tokens.** A text of quiet tokens is whole. -/
theorem isWhole_of_tokens {s : String} (h : ∀ t ∈ tokens s, t.IsQuiet) : IsWhole s.toList :=
  ⟨(code_of_quiet isProper_between h).1, (code_of_quiet isProper_between h).2⟩

end SqlMapping.Sql
