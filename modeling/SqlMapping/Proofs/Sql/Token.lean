import Mathlib.Data.List.Forall2
import Mathlib.Tactic.Lemma
import SqlMapping.Statement.Name
import SqlMapping.Statement.Placeholder
import SqlMapping.Text.Layout

/-!
# Tokens of statements

A statement is read as a sequence of words, quoted parts, placeholders and single characters. A
quoted part is one token, whatever it holds: a quote that is written twice inside it stands for one
quote. The reader is a state machine over characters (`step`, `lexFrom`).

Statements are put together from pieces. `Spells s ts` says that the piece `s` adds the tokens `ts`
in front of every text that begins with a break, and `Closes s ts` that it does so in front of every
text. Both are closed under concatenation (`Spells.append`, `Closes.append` and their mixed forms),
so the tokens of a statement are found by following the way in which it was written.
-/

namespace SqlMapping.Sql

open SqlMapping.Text SqlMapping.Statement

/-- A token of a statement. -/
inductive Token where
  /-- A word: a keyword, the name of a type, a number. -/
  | word (s : String)
  /-- A quoted part, with the quotes inside it written once. -/
  | quoted (quote : Char) (content : String)
  /-- A quoted part that the text leaves open. -/
  | unclosed (quote : Char) (content : String)
  /-- A placeholder. -/
  | mark
  /-- A character that is a token by itself. -/
  | symbol (c : Char)
deriving DecidableEq

/-- A name between back quotes. -/
@[match_pattern]
abbrev Token.name (s : String) : Token :=
  .quoted '\x60' s

/-- A text between single quotes. -/
@[match_pattern]
abbrev Token.text (s : String) : Token :=
  .quoted '\'' s

/-- The name that a token stands for. -/
def Token.name? : Token → Option String
  | .name s => some s
  | _ => none

/-- The characters that are tokens by themselves. -/
def isSymbol (c : Char) : Bool :=
  c == '(' || c == ')' || c == ',' || c == '=' || c == ';'

/-- The characters that words consist of. -/
def isWordChar (c : Char) : Bool :=
  !isStatementQuote c && c != '?' && !isSymbol c && !isBlank c

/-! ## The reader -/

/-- What the reader has of the token at hand. -/
inductive LexState where
  /-- There is no token at hand. -/
  | between
  /-- A word of which these characters are read. -/
  | word (read : List Char)
  /-- An open quoted part of which these characters are read. -/
  | quoted (quote : Char) (read : List Char)
  /-- A quoted part after a quote, which closes the part unless the same quote follows. -/
  | closed (quote : Char) (read : List Char)

/-- The token at hand as the end of the text leaves it. -/
def LexState.pending : LexState → List Token
  | .between => []
  | .word read => [.word (String.ofList read)]
  | .quoted quote read => [.unclosed quote (String.ofList read)]
  | .closed quote read => [.quoted quote (String.ofList read)]

/-- The state after a character that continues no token, and the token that it makes by itself. -/
def start (c : Char) : LexState × List Token :=
  if isStatementQuote c then (.quoted c [], [])
  else if c == '?' then (.between, [.mark])
  else if isSymbol c then (.between, [.symbol c])
  else if isBlank c then (.between, [])
  else (.word [c], [])

/-- The state after one more character, and the tokens that are complete by then. -/
def step : LexState → Char → LexState × List Token
  | .between, c => start c
  | .word read, c =>
    if isWordChar c then (.word (read ++ [c]), [])
    else ((start c).1, .word (String.ofList read) :: (start c).2)
  | .quoted quote read, c =>
    if c = quote then (.closed quote read, []) else (.quoted quote (read ++ [c]), [])
  | .closed quote read, c =>
    if c = quote then (.quoted quote (read ++ [c]), [])
    else ((start c).1, .quoted quote (String.ofList read) :: (start c).2)

/-- The tokens of a text that the reader meets in a given state. -/
def lexFrom : LexState → List Char → List Token
  | state, [] => state.pending
  | state, c :: rest => (step state c).2 ++ lexFrom (step state c).1 rest

/-- The tokens of a list of characters. -/
def lex (cs : List Char) : List Token :=
  lexFrom .between cs

/-- The tokens of a text. -/
def tokens (s : String) : List Token :=
  lex s.toList

/-- Lists of tokens with commas between them. -/
def commaTokens (items : List (List Token)) : List Token :=
  [Token.symbol ','].intercalate items

example : tokens "SET `a``b` = ?, `c` = 'it''s'" =
    [.word "SET", .name "a`b", .symbol '=', .mark, .symbol ',', .name "c", .symbol '=',
      .text "it's"] := by decide

/-! ## Single characters -/

/-- A word goes on with a character of words. -/
lemma step_word {c : Char} (read : List Char) (hc : isWordChar c = true) :
    step (.word read) c = (.word (read ++ [c]), []) := by
  rw [step, if_pos hc]

/-- Any other character completes a word. -/
lemma step_word_start {c : Char} (read : List Char) (hc : ¬isWordChar c = true) :
    step (.word read) c = ((start c).1, .word (String.ofList read) :: (start c).2) := by
  rw [step, if_neg hc]

/-- The quote of a quoted part may close it. -/
lemma step_quoted (quote : Char) (read : List Char) :
    step (.quoted quote read) quote = (.closed quote read, []) := by
  rw [step, if_pos rfl]

/-- Any other character belongs to the quoted part. -/
lemma step_quoted_ne {quote c : Char} (read : List Char) (hc : c ≠ quote) :
    step (.quoted quote read) c = (.quoted quote (read ++ [c]), []) := by
  rw [step, if_neg hc]

/-- A quote that follows a quote belongs to the quoted part. -/
lemma step_closed (quote : Char) (read : List Char) :
    step (.closed quote read) quote = (.quoted quote (read ++ [quote]), []) := by
  rw [step, if_pos rfl]

/-- Any other character completes the quoted part. -/
lemma step_closed_ne {quote c : Char} (read : List Char) (hc : c ≠ quote) :
    step (.closed quote read) c =
      ((start c).1, .quoted quote (String.ofList read) :: (start c).2) := by
  rw [step, if_neg hc]

/-- The reader goes on from the state after the first character. -/
lemma lexFrom_cons (state : LexState) (c : Char) (rest : List Char) :
    lexFrom state (c :: rest) = (step state c).2 ++ lexFrom (step state c).1 rest :=
  rfl

/-! ## Single tokens -/

/-- Whether a text ends the word or the quoted part in front of it. -/
def breaks : List Char → Bool
  | [] => true
  | c :: _ => !isWordChar c && !isStatementQuote c

/-- A text that begins with a break breaks together with whatever follows it. -/
lemma breaks_append {cs rest : List Char} (h : breaks cs = true) (hrest : breaks rest = true) :
    breaks (cs ++ rest) = true := by
  cases cs with
  | nil => exact hrest
  | cons c cs => exact h

/-- The reader goes through the characters of a word. -/
lemma lexFrom_word (read word rest : List Char) (h : word.all isWordChar = true) :
    lexFrom (.word read) (word ++ rest) = lexFrom (.word (read ++ word)) rest := by
  induction word generalizing read with
  | nil => simp
  | cons c word ih =>
    rw [List.all_cons, Bool.and_eq_true] at h
    rw [List.cons_append, lexFrom, step_word read h.1, ih (read ++ [c]) h.2, List.append_assoc]
    rfl

/-- The reader goes through the inside of a quoted part: doubled quotes count once, and the quote
after the content closes the part. -/
lemma lexFrom_quoted (quote : Char) (read content rest : List Char) :
    lexFrom (.quoted quote read) (doubled quote content ++ quote :: rest) =
      lexFrom (.closed quote (read ++ content)) rest := by
  induction content generalizing read with
  | nil => simp [lexFrom, step_quoted]
  | cons c content ih =>
    have hcons : doubled quote (c :: content) =
        (if c = quote then [c, c] else [c]) ++ doubled quote content := rfl
    have hread : read ++ c :: content = read ++ [c] ++ content := by simp
    rw [hcons, hread]
    by_cases hc : c = quote
    · -- the first of the two quotes closes the part, and the second one opens it again
      subst hc
      rw [← ih (read ++ [c])]
      simp [lexFrom, step_quoted, step_closed]
    · rw [← ih (read ++ [c])]
      simp [lexFrom, step_quoted_ne read hc, hc]

/-- After a word, a break completes it. -/
lemma lexFrom_word_of_breaks (read rest : List Char) (h : breaks rest = true) :
    lexFrom (.word read) rest = .word (String.ofList read) :: lex rest := by
  cases rest with
  | nil => rfl
  | cons c rest =>
    have hc : ¬isWordChar c = true := by
      simp only [breaks, Bool.and_eq_true, Bool.not_eq_true'] at h
      simp [h.1]
    rw [lexFrom, step_word_start read hc]
    rfl

/-- After a closing quote, a break completes the quoted part. -/
lemma lexFrom_closed_of_breaks {quote : Char} (hquote : isStatementQuote quote = true)
    (read rest : List Char) (h : breaks rest = true) :
    lexFrom (.closed quote read) rest = .quoted quote (String.ofList read) :: lex rest := by
  cases rest with
  | nil => rfl
  | cons c rest =>
    have hc : c ≠ quote := by
      rintro rfl
      simp [breaks, hquote] at h
    rw [lexFrom, step_closed_ne read hc]
    rfl

/-! ## Pieces of statements -/

/-- A piece of text adds tokens in front of every text that begins with a break. -/
def Spells (s : String) (ts : List Token) : Prop :=
  ∀ rest : List Char, breaks rest = true → lex (s.toList ++ rest) = ts ++ lex rest

/-- A piece of text adds tokens in front of every text. -/
def Closes (s : String) (ts : List Token) : Prop :=
  ∀ rest : List Char, lex (s.toList ++ rest) = ts ++ lex rest

/-- What a piece adds in front of every text it adds in front of a break. -/
lemma Closes.spells {s : String} {ts : List Token} (h : Closes s ts) : Spells s ts :=
  fun rest _ => h rest

/-- The tokens of a piece on its own. -/
lemma Spells.tokens_eq {s : String} {ts : List Token} (h : Spells s ts) : tokens s = ts := by
  have hs : lex (s.toList ++ []) = ts ++ lex [] := h [] rfl
  rw [List.append_nil] at hs
  rw [tokens, hs]
  exact List.append_nil ts

/-- The empty piece adds nothing. -/
lemma spells_empty : Spells "" [] :=
  fun _ _ => rfl

/-- Two pieces, the second of which begins with a break. -/
lemma Spells.append {a b : String} {s t : List Token} (ha : Spells a s) (hb : Spells b t)
    (hbreak : breaks b.toList = true) : Spells (a ++ b) (s ++ t) := by
  intro rest hrest
  rw [String.toList_append, List.append_assoc, ha _ (breaks_append hbreak hrest), hb rest hrest,
    List.append_assoc]

/-- Two pieces, the second of which begins with a break and is complete by itself. -/
lemma Spells.append_closes {a b : String} {s t : List Token} (ha : Spells a s) (hb : Closes b t)
    (hbreak : ∀ rest, breaks (b.toList ++ rest) = true) : Closes (a ++ b) (s ++ t) := by
  intro rest
  rw [String.toList_append, List.append_assoc, ha _ (hbreak rest), hb rest, List.append_assoc]

/-- Two pieces, the first of which is complete by itself. -/
lemma Closes.append {a b : String} {s t : List Token} (ha : Closes a s) (hb : Spells b t) :
    Spells (a ++ b) (s ++ t) := by
  intro rest hrest
  rw [String.toList_append, List.append_assoc, ha, hb rest hrest, List.append_assoc]

/-- A word is one token. -/
lemma spells_word {s : String} (hne : s ≠ "") (h : s.toList.all isWordChar = true) :
    Spells s [.word s] := by
  intro rest hrest
  obtain ⟨c, cs, hs⟩ : ∃ c cs, s.toList = c :: cs := by
    cases hs : s.toList with
    | nil => exact absurd (String.toList_eq_nil_iff.mp hs) hne
    | cons c cs => exact ⟨c, cs, rfl⟩
  rw [hs, List.all_cons, Bool.and_eq_true] at h
  have hstart : start c = (.word [c], []) := by
    have hc := h.1
    simp only [isWordChar, Bool.and_eq_true, Bool.not_eq_true', bne_iff_ne, ne_eq] at hc
    simp [start, hc]
  have hfirst : lex (c :: (cs ++ rest)) = lexFrom (.word [c]) (cs ++ rest) := by
    simp [lex, lexFrom, step, hstart]
  have hword : String.ofList (c :: cs) = s := by
    rw [← hs, String.ofList_toList]
  rw [hs, List.cons_append, hfirst, lexFrom_word [c] cs rest h.2, List.singleton_append,
    lexFrom_word_of_breaks _ rest hrest, hword]
  rfl

/-- A delimited text is one token, whatever it holds. -/
lemma spells_delimit {quote : Char} (hquote : isStatementQuote quote = true) (s : String) :
    Spells (delimit quote s) [.quoted quote s] := by
  intro rest hrest
  have hopen : ∀ cs, lex (quote :: cs) = lexFrom (.quoted quote []) cs := by
    intro cs
    simp [lex, lexFrom, step, start, hquote]
  rw [toList_delimit, delimitList, List.cons_append, List.append_assoc, hopen,
    List.singleton_append, lexFrom_quoted, List.nil_append,
    lexFrom_closed_of_breaks hquote _ _ hrest, String.ofList_toList]
  rfl

/-- A quoted name is one token, whatever it holds. -/
lemma spells_quoteName (s : String) : Spells (quoteName s) [.name s] :=
  spells_delimit rfl s

/-- The only tokens that commas add to lists of tokens are the commas. -/
lemma notMem_commaTokens {t : Token} (ht : t ≠ .symbol ',') {tss : List (List Token)}
    (h : ∀ ts ∈ tss, t ∉ ts) : t ∉ commaTokens tss := by
  induction tss with
  | nil => exact List.not_mem_nil
  | cons first tss ih =>
    have hfirst : t ∉ first := h first List.mem_cons_self
    have hrest := ih fun ts hts => h ts (List.mem_cons_of_mem _ hts)
    cases tss with
    | nil =>
      rw [commaTokens, List.intercalate_singleton]
      exact hfirst
    | cons second tss =>
      rw [commaTokens, List.intercalate_cons_cons, List.mem_append, List.mem_append,
        List.mem_singleton]
      rintro ((hmem | hmem) | hmem)
      · exact hfirst hmem
      · exact ht hmem
      · exact hrest hmem

/-- A list of pieces with commas between them. -/
lemma spells_commaList {items : List String} {tss : List (List Token)}
    (h : List.Forall₂ Spells items tss) : Spells (commaList items) (commaTokens tss) := by
  induction h with
  | nil => exact spells_empty
  | @cons a s items tss ha hrest ih =>
    cases hrest with
    | nil =>
      have hitems : commaList [a] = a := String.intercalate_singleton
      have htokens : commaTokens [s] = s := List.intercalate_singleton
      rw [hitems, htokens]
      exact ha
    | @cons b t items tss hb hrest =>
      have hitems : commaList (a :: b :: items) = a ++ (", " ++ commaList (b :: items)) := by
        rw [← String.append_assoc]
        exact String.intercalate_cons_cons
      have htokens : commaTokens (s :: t :: tss) =
          s ++ ([.symbol ','] ++ commaTokens (t :: tss)) := by
        rw [← List.append_assoc]
        exact List.intercalate_cons_cons
      have hcomma : Closes ", " [.symbol ','] := fun _ => rfl
      -- the comma is the break that the first piece needs
      rw [hitems, htokens]
      refine ha.append (hcomma.append ih) ?_
      rw [String.toList_append]
      rfl

/-- A list of pieces with commas between them, one for each member of a list. -/
lemma spells_commaList_map {α : Type} {f : α → String} {g : α → List Token} {xs : List α}
    (h : ∀ x ∈ xs, Spells (f x) (g x)) :
    Spells (commaList (xs.map f)) (commaTokens (xs.map g)) := by
  apply spells_commaList
  rw [List.forall₂_map_left_iff, List.forall₂_map_right_iff, List.forall₂_same]
  exact h

end SqlMapping.Sql
