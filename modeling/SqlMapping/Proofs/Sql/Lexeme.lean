import Mathlib.Data.List.Infix
import SqlMapping.Proofs.Sql.Adaptation
import SqlMapping.Text.Delimited

/-!
# Comments and placeholders

By its lexical structure, a statement consists of quoted parts, comments and other characters
(`Lexeme`). Its placeholders are the question marks among the other characters (`freeMarks`). The
scan of a driver knows quotes but no comments.

On a quoted part and on any other character the scan is right, as long as it comes to them with no
quote open. So what it makes of a statement hangs on what it makes of each comment by itself
(`bindsAlike_iff`): a question mark outside quotes there is taken for a placeholder, and a quote that
a comment leaves open hides the placeholder that follows.
-/

namespace SqlMapping.Sql

open SqlMapping.Text

/-! ## Lexical structure -/

/-- A part of the text of a statement. -/
inductive Lexeme where
  /-- A literal or an identifier between quotes; the quotes inside it are written twice. -/
  | quoted (quote : Char) (content : List Char)
  /-- A comment from two dashes to the end of the line. -/
  | lineComment (content : List Char)
  /-- A comment between a slash with an asterisk and an asterisk with a slash. -/
  | blockComment (content : List Char)
  /-- A character that is in no quoted part and in no comment. -/
  | other (c : Char)
deriving DecidableEq

namespace Lexeme

/-- The text of a lexeme. -/
def text : Lexeme → List Char
  | quoted quote content => delimitList quote content
  | lineComment content => '-' :: '-' :: content
  | blockComment content => '/' :: '*' :: (content ++ ['*', '/'])
  | other c => [c]

/-- Whether a lexeme is a comment. -/
def isComment : Lexeme → Bool
  | lineComment _ | blockComment _ => true
  | _ => false

/-- A lexeme ends where the rest of the text begins: the rest does not continue it, and it does not
end before. -/
def IsComplete (rest : List Char) : Lexeme → Prop
  | quoted quote _ => isStatementQuote quote = true ∧ rest.head? ≠ some quote
  | lineComment content => '\n' ∉ content ∧ (rest = [] ∨ rest.head? = some '\n')
  | blockComment content => ¬['*', '/'] <:+: content
  | other c => isStatementQuote c = false ∧ ¬['-', '-'] <+: c :: rest ∧ ¬['/', '*'] <+: c :: rest

instance (rest : List Char) : (t : Lexeme) → Decidable (t.IsComplete rest)
  | quoted _ _ => inferInstanceAs (Decidable (_ ∧ _))
  | lineComment _ => inferInstanceAs (Decidable (_ ∧ _))
  | blockComment _ => inferInstanceAs (Decidable (¬_))
  | other _ => inferInstanceAs (Decidable (_ ∧ _))

end Lexeme

/-- The text that consists of lexemes. -/
def spelled (ts : List Lexeme) : List Char :=
  ts.flatMap Lexeme.text

/-- Lexemes are complete when each of them is, in front of the text of those that follow. -/
def AreComplete : List Lexeme → Prop
  | [] => True
  | t :: ts => t.IsComplete (spelled ts) ∧ AreComplete ts

instance decidableAreComplete : (ts : List Lexeme) → Decidable (AreComplete ts)
  | [] => .isTrue trivial
  | t :: ts =>
    have : Decidable (AreComplete ts) := decidableAreComplete ts
    inferInstanceAs (Decidable (t.IsComplete (spelled ts) ∧ AreComplete ts))

/-- The characters of a text that is in no quoted part and in no comment. -/
def others (s : String) : List Lexeme :=
  s.toList.map .other

/-- The places of the placeholders of a lexeme: only a question mark by itself is one. -/
def Lexeme.freeMarks (t : Lexeme) : Finset Nat :=
  if t = .other '?' then {0} else ∅

/-- The places of the question marks that are in no quoted part and in no comment. -/
def freeMarks : List Lexeme → Finset Nat
  | [] => ∅
  | t :: ts => t.freeMarks ∪ shiftPlaces t.text.length (freeMarks ts)

/-- A statement binds the same placeholders under every driver: one that takes question marks gets
the text as it is, and any other one gets its marks exactly at the question marks that are in no
quoted part and in no comment. -/
structure BindsAlike (ts : List Lexeme) : Prop where
  /-- A driver that takes question marks gets the text as it is. -/
  asWritten : adaptPlaceholders (String.ofList (spelled ts)) (.ofName "qmark") =
    .ok (String.ofList (spelled ts))
  /-- The other drivers get their marks at the placeholders. -/
  adapts : AdaptsAt (String.ofList (spelled ts)) (freeMarks ts)

/-! ## One lexeme -/

namespace Lexeme

/-- The scan leaves no quote open behind a lexeme. -/
def ClosesQuotes (t : Lexeme) : Prop :=
  t.text.foldl quoteAfter none = none

/-- The scan sees no placeholder in a lexeme. -/
def HidesMarks (t : Lexeme) : Prop :=
  unquotedMarks none t.text = ∅

instance (t : Lexeme) : Decidable t.ClosesQuotes :=
  inferInstanceAs (Decidable (_ = _))

instance (t : Lexeme) : Decidable t.HidesMarks :=
  inferInstanceAs (Decidable (_ = _))

end Lexeme

/-- Inside a quoted part, the scan sees no placeholder, and the quote stays open. -/
lemma scan_doubled {quote : Char} (hquote : isStatementQuote quote = true) (content : List Char) :
    (doubled quote content).foldl quoteAfter (some quote) = some quote ∧
      unquotedMarks (some quote) (doubled quote content) = ∅ := by
  induction content with
  | nil => exact ⟨rfl, rfl⟩
  | cons c content ih =>
    have hmark : quote ≠ '?' := (ne_of_isStatementQuote hquote).symm
    have hcons : doubled quote (c :: content) =
        (if c = quote then [c, c] else [c]) ++ doubled quote content := rfl
    rw [hcons, List.foldl_append, unquotedMarks_append]
    by_cases hc : c = quote
    · -- the first quote closes the part for the scan, and the second one opens it again
      have hreopened : [c, c].foldl quoteAfter (some quote) = some quote := by
        simp [quoteAfter, hc, hquote]
      have hnone : unquotedMarks (some quote) [c, c] = ∅ := by
        rw [← List.singleton_append, unquotedMarks_append, unquotedMarks_singleton,
          unquotedMarks_singleton, hc]
        simp [hmark, shiftPlaces]
      rw [if_pos hc, hreopened, hnone, ih.2]
      exact ⟨ih.1, rfl⟩
    · have hkept : [c].foldl quoteAfter (some quote) = some quote := by simp [quoteAfter, hc]
      have hnone : unquotedMarks (some quote) [c] = ∅ := by
        rw [unquotedMarks_singleton, if_neg (by simp)]
      rw [if_neg hc, hkept, hnone, ih.2]
      exact ⟨ih.1, rfl⟩

/-- The scan is right about a quoted part. -/
lemma scan_delimitList {quote : Char} (hquote : isStatementQuote quote = true)
    (content : List Char) :
    (delimitList quote content).foldl quoteAfter none = none ∧
      unquotedMarks none (delimitList quote content) = ∅ := by
  obtain ⟨hopen, hnone⟩ := scan_doubled hquote content
  have hmark : quote ≠ '?' := (ne_of_isStatementQuote hquote).symm
  have hfirst : [quote].foldl quoteAfter none = some quote := by simp [quoteAfter, hquote]
  have hlist : delimitList quote content = [quote] ++ (doubled quote content ++ [quote]) := rfl
  constructor
  · rw [hlist, List.foldl_append, hfirst, List.foldl_append, hopen]
    simp [quoteAfter]
  · rw [hlist, unquotedMarks_append, hfirst, unquotedMarks_append, hnone, hopen,
      unquotedMarks_singleton, unquotedMarks_singleton]
    simp [hmark, shiftPlaces]

/-- The scan is right about every lexeme but comments. -/
lemma Lexeme.scan_of_not_isComment {t : Lexeme} {rest : List Char} (hcomplete : t.IsComplete rest)
    (hcomment : ¬t.isComment = true) :
    t.ClosesQuotes ∧ unquotedMarks none t.text = t.freeMarks := by
  cases t with
  | quoted quote content => exact scan_delimitList hcomplete.1 content
  | lineComment content => exact absurd rfl hcomment
  | blockComment content => exact absurd rfl hcomment
  | other c =>
    have hquote : isStatementQuote c = false := hcomplete.1
    constructor
    · simp [Lexeme.ClosesQuotes, Lexeme.text, quoteAfter, hquote]
    · rw [Lexeme.text, unquotedMarks_singleton, Lexeme.freeMarks]
      simp

/-- A comment has no placeholder. -/
lemma Lexeme.freeMarks_of_isComment {t : Lexeme} (hcomment : t.isComment = true) :
    t.freeMarks = ∅ := by
  cases t with
  | lineComment content => rfl
  | blockComment content => rfl
  | quoted quote content => exact absurd hcomment (by simp [Lexeme.isComment])
  | other c => exact absurd hcomment (by simp [Lexeme.isComment])

/-! ## All lexemes -/

/-- The scan takes exactly the placeholders of the lexemes for placeholders, when the given quote is
open in front of them. -/
def ScansRightly (open? : Option Char) (ts : List Lexeme) : Prop :=
  unquotedMarks open? (spelled ts) = freeMarks ts

instance (open? : Option Char) (ts : List Lexeme) : Decidable (ScansRightly open? ts) :=
  inferInstanceAs (Decidable (_ = _))

/-- Drivers bind a statement alike exactly when the scan is right about its lexemes. -/
lemma bindsAlike_iff_scansRightly {ts : List Lexeme} :
    BindsAlike ts ↔ ScansRightly none ts := by
  have hadapts : AdaptsAt (String.ofList (spelled ts)) (freeMarks ts) ↔ ScansRightly none ts := by
    rw [adaptsAt_iff, placeholderPlaces, String.toList_ofList]
    exact eq_comm
  constructor
  · exact fun h => hadapts.mp h.adapts
  · exact fun h => ⟨adaptPlaceholders_questionMark _, hadapts.mpr h⟩

/-- The places of the first text and those behind it can be told apart. -/
lemma union_shiftPlaces_inj {n : Nat} {here here' behind behind' : Finset Nat}
    (hhere : ∀ i ∈ here, i < n) (hhere' : ∀ i ∈ here', i < n) :
    here ∪ shiftPlaces n behind = here' ∪ shiftPlaces n behind' ↔
      here = here' ∧ behind = behind' := by
  constructor
  · intro h
    have hmem : ∀ i, (i ∈ here ∨ ∃ k ∈ behind, n + k = i) ↔
        (i ∈ here' ∨ ∃ k ∈ behind', n + k = i) := by
      intro i
      have hi : i ∈ here ∪ shiftPlaces n behind ↔ i ∈ here' ∪ shiftPlaces n behind' := by rw [h]
      unfold shiftPlaces at hi
      rwa [Finset.mem_union, Finset.mem_union, Finset.mem_image, Finset.mem_image] at hi
    constructor
    · ext i
      have hi := hmem i
      constructor
      · intro hmem
        rcases hi.mp (Or.inl hmem) with hmem' | ⟨k, -, rfl⟩
        · exact hmem'
        · exact absurd (hhere _ hmem) (by omega)
      · intro hmem'
        rcases hi.mpr (Or.inl hmem') with hmem | ⟨k, -, rfl⟩
        · exact hmem
        · exact absurd (hhere' _ hmem') (by omega)
    · ext k
      have hk := hmem (n + k)
      constructor
      · intro hmem
        rcases hk.mp (Or.inr ⟨k, hmem, rfl⟩) with hmem' | ⟨j, hj, hjk⟩
        · exact absurd (hhere' _ hmem') (by omega)
        · rwa [← Nat.add_left_cancel hjk]
      · intro hmem'
        rcases hk.mpr (Or.inr ⟨k, hmem', rfl⟩) with hmem | ⟨j, hj, hjk⟩
        · exact absurd (hhere _ hmem) (by omega)
        · rwa [← Nat.add_left_cancel hjk]
  · rintro ⟨rfl, rfl⟩
    rfl

/-- A lexeme has text, so its placeholder lies inside it. -/
lemma Lexeme.lt_of_mem_freeMarks {t : Lexeme} : ∀ i ∈ t.freeMarks, i < t.text.length := by
  intro i hi
  unfold Lexeme.freeMarks at hi
  split_ifs at hi with ht
  · rw [Finset.mem_singleton] at hi
    rw [hi, ht]
    exact Nat.succ_pos _
  · exact absurd hi (Finset.notMem_empty i)

/-- The scan is right about lexemes exactly when it is right about the first one, and about the
others with the quote that is open behind the first one. -/
lemma scansRightly_cons {open? : Option Char} {t : Lexeme} {ts : List Lexeme} :
    ScansRightly open? (t :: ts) ↔
      unquotedMarks open? t.text = t.freeMarks ∧
        ScansRightly (t.text.foldl quoteAfter open?) ts := by
  have hinside : ∀ i ∈ unquotedMarks open? t.text, i < t.text.length := by
    intro i hi
    exact Finset.mem_range.mp (Finset.mem_filter.mp hi).1
  have hspelled : spelled (t :: ts) = t.text ++ spelled ts := List.flatMap_cons
  unfold ScansRightly
  rw [hspelled, unquotedMarks_append, freeMarks]
  exact union_shiftPlaces_inj hinside Lexeme.lt_of_mem_freeMarks

/-- Behind lexemes whose comments leave no quote open, the scan goes on as it began; about these
lexemes it is right exactly when it sees no placeholder in their comments. -/
lemma scansRightly_append {front rest : List Lexeme} (hcomplete : AreComplete (front ++ rest))
    (hcloses : ∀ t ∈ front, t.isComment = true → t.ClosesQuotes) :
    ScansRightly none (front ++ rest) ↔
      (∀ t ∈ front, t.isComment = true → t.HidesMarks) ∧ ScansRightly none rest := by
  induction front with
  | nil => simp
  | cons t front ih =>
    have hih := ih hcomplete.2 fun u hu => hcloses u (List.mem_cons_of_mem _ hu)
    have hclosed : t.ClosesQuotes := by
      by_cases hcomment : t.isComment = true
      · exact hcloses t List.mem_cons_self hcomment
      · exact (Lexeme.scan_of_not_isComment hcomplete.1 hcomment).1
    have hmarks : unquotedMarks none t.text = t.freeMarks ↔
        (t.isComment = true → t.HidesMarks) := by
      by_cases hcomment : t.isComment = true
      · rw [Lexeme.freeMarks_of_isComment hcomment]
        exact ⟨fun h _ => h, fun h => h hcomment⟩
      · exact ⟨fun _ h => absurd h hcomment,
          fun _ => (Lexeme.scan_of_not_isComment hcomplete.1 hcomment).2⟩
    unfold Lexeme.ClosesQuotes at hclosed
    rw [List.cons_append, scansRightly_cons, hclosed, hih, hmarks, List.forall_mem_cons, and_assoc]

/-- What is open behind a text is a quote of statements. -/
lemma isStatementQuote_of_open {cs : List Char} {open? : Option Char}
    (hopen : ∀ quote, open? = some quote → isStatementQuote quote = true) :
    ∀ quote, cs.foldl quoteAfter open? = some quote → isStatementQuote quote = true := by
  induction cs generalizing open? with
  | nil => exact hopen
  | cons c cs ih =>
    apply ih
    intro quote hquote
    unfold quoteAfter at hquote
    cases open? with
    | none =>
      dsimp only at hquote
      split_ifs at hquote with hc
      rwa [← Option.some.inj hquote]
    | some first =>
      dsimp only at hquote
      split_ifs at hquote with hc
      rw [← Option.some.inj hquote]
      exact hopen first rfl

/-- A quote that is open in front of single characters, none of them a quote, hides the placeholder
behind them. -/
lemma not_scansRightly_of_open {quote : Char} (hquote : isStatementQuote quote = true)
    {gap back : List Lexeme} (hcomplete : AreComplete (gap ++ .other '?' :: back))
    (hgap : ∀ t ∈ gap, ∃ c, t = .other c) :
    ¬ScansRightly (some quote) (gap ++ .other '?' :: back) := by
  induction gap with
  | nil =>
    intro h
    rw [List.nil_append, scansRightly_cons, Lexeme.text, unquotedMarks_singleton] at h
    exact absurd h.1 (by simp [Lexeme.freeMarks])
  | cons t gap ih =>
    intro h
    obtain ⟨c, rfl⟩ := hgap t List.mem_cons_self
    have hc : c ≠ quote := by
      rintro rfl
      have hother : isStatementQuote c = false := hcomplete.1.1
      exact absurd (hother.symm.trans hquote) (by decide)
    have hopen : (Lexeme.other c).text.foldl quoteAfter (some quote) = some quote := by
      simp [Lexeme.text, quoteAfter, hc]
    rw [List.cons_append, scansRightly_cons, hopen] at h
    exact ih hcomplete.2 (fun u hu => hgap u (List.mem_cons_of_mem _ hu)) h.2

/-- A comment that leaves a quote open hides the placeholder that follows it, if no quote stands
between. -/
lemma not_scansRightly_of_comment {comment : Lexeme} {gap back : List Lexeme}
    (hcomplete : AreComplete (comment :: (gap ++ .other '?' :: back)))
    (hopen : ¬comment.ClosesQuotes) (hgap : ∀ t ∈ gap, ∃ c, t = .other c) :
    ¬ScansRightly none (comment :: (gap ++ .other '?' :: back)) := by
  intro h
  obtain ⟨quote, hquote⟩ := Option.ne_none_iff_exists'.mp hopen
  have hstatement : isStatementQuote quote = true :=
    isStatementQuote_of_open (fun _ h => absurd h (by simp)) quote hquote
  rw [scansRightly_cons, hquote] at h
  exact not_scansRightly_of_open hstatement hcomplete.2 hgap h.2

/-- The lexemes behind others are complete if all of them are. -/
lemma AreComplete.behind {front rest : List Lexeme} (h : AreComplete (front ++ rest)) :
    AreComplete rest := by
  induction front with
  | nil => exact h
  | cons t front ih => exact ih h.2

/-- **When drivers bind alike.** If no comment leaves a quote open, the drivers bind the same
placeholders exactly when the scan sees none in the comments. The first comment that leaves a quote
open hides the next placeholder, unless a quote or a comment stands between. -/
theorem bindsAlike_iff {ts : List Lexeme} (hcomplete : AreComplete ts) :
    ((∀ t ∈ ts, t.isComment = true → t.ClosesQuotes) →
      (BindsAlike ts ↔ ∀ t ∈ ts, t.isComment = true → t.HidesMarks)) ∧
    ∀ front comment gap back, ts = front ++ comment :: (gap ++ .other '?' :: back) →
      (∀ t ∈ front, t.isComment = true → t.ClosesQuotes) → ¬comment.ClosesQuotes →
      (∀ t ∈ gap, ∃ c, t = .other c) → ¬BindsAlike ts := by
  constructor
  · intro hcloses
    have hend : ScansRightly none [] := rfl
    have hall : ScansRightly none (ts ++ []) ↔
        (∀ t ∈ ts, t.isComment = true → t.HidesMarks) ∧ ScansRightly none [] :=
      scansRightly_append (by rwa [List.append_nil]) hcloses
    rw [List.append_nil] at hall
    rw [bindsAlike_iff_scansRightly, hall]
    exact and_iff_left hend
  · rintro front comment gap back rfl hcloses hopen hgap h
    rw [bindsAlike_iff_scansRightly, scansRightly_append hcomplete hcloses] at h
    exact not_scansRightly_of_comment hcomplete.behind hopen hgap h.2

/-- A statement with a question mark between quotes in a comment. -/
def quoting : List Lexeme :=
  others "SELECT a " ++ .lineComment " is it 'a?' or \"b?\"".toList :: others "\nWHERE c = ?"

/-- A statement with a quote in a comment. -/
def contracting : List Lexeme :=
  .blockComment " it's ".toList :: others " a = ?"

/-- Quotes that are closed in a comment do no harm, and one that is left open does. -/
theorem bindsAlike_quoting :
    AreComplete quoting ∧ BindsAlike quoting ∧ AreComplete contracting ∧
      ¬BindsAlike contracting := by
  have hquoting : AreComplete quoting := by decide
  have hcontracting : AreComplete contracting := by decide
  refine ⟨hquoting, ?_, hcontracting, ?_⟩
  · exact ((bindsAlike_iff hquoting).1 (by decide)).mpr (by decide)
  · refine (bindsAlike_iff hcontracting).2 [] (.blockComment " it's ".toList) (others " a = ") []
      rfl (by decide) (by decide) ?_
    intro t ht
    obtain ⟨c, -, rfl⟩ := List.mem_map.mp ht
    exact ⟨c, rfl⟩

/-- A statement with an apostrophe in a comment, and a placeholder on the next line. -/
def remarked : List Lexeme :=
  others "SELECT a " ++ .lineComment " don't ask".toList :: others "\nFROM t WHERE b = ?"

/-- Drivers do not bind every statement alike: here the placeholder is left as it is, because the
scan takes it for a character between quotes. -/
theorem not_bindsAlike_remarked :
    AreComplete remarked ∧ freeMarks remarked = {39} ∧
      adaptPlaceholders (String.ofList (spelled remarked)) (.ofName "format") =
        .ok "SELECT a -- don't ask\nFROM t WHERE b = ?" ∧
      ¬BindsAlike remarked := by
  refine ⟨by decide, by decide, by decide, ?_⟩
  rw [bindsAlike_iff_scansRightly]
  decide

end SqlMapping.Sql
