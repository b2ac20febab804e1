import SqlMapping.Proofs.Text.SnakeCase
import SqlMapping.Proofs.Text.Trimming
import SqlMapping.Text.Case

/-!
# Snake case by substitutions

Snake case is also made by substitutions, one after the other, each of which goes through the text
from left to right. The first two put an underscore before the last letter of an acronym and before
every other upper-case letter that starts a segment. The third puts one in the place of every
character that is no letter or digit, the fourth makes one of several in a row, and the last drops
those at the ends.

The text is the one that is read off the segments of the name (`snakeCase_eq_substituted`). The
first two substitutions put in underscores where a change of case cuts the text, like one pass that
looks at three characters at a time (`separate_separate`), and after the third one the segments are
the parts between underscores (`segments_separate`).
-/

namespace SqlMapping.Text

/-! ## Matching from left to right -/

/-- Replaces the matches of a rule from left to right. The rule is given the text from a character
on; of a match it tells how many more characters the match takes, and what takes its place. -/
def substitute (rule : List Char → Option (Nat × List Char)) : List Char → List Char
  | [] => []
  | c :: rest =>
    match rule (c :: rest) with
    | some (more, text) => text ++ substitute rule (rest.drop more)
    | none => c :: substitute rule rest
termination_by cs => cs.length

section Matching

variable {rule : List Char → Option (Nat × List Char)} {c : Char} {rest : List Char}

lemma substitute_of_none (h : rule (c :: rest) = none) :
    substitute rule (c :: rest) = c :: substitute rule rest := by
  rw [substitute, h]

lemma substitute_of_some {more : Nat} {text : List Char}
    (h : rule (c :: rest) = some (more, text)) :
    substitute rule (c :: rest) = text ++ substitute rule (rest.drop more) := by
  rw [substitute, h]

end Matching

/-- How many characters of a kind a text begins with. -/
def runLength (p : Char → Bool) (cs : List Char) : Nat :=
  (cs.takeWhile p).length

/-- Up to its length, a run consists of characters of its kind. -/
lemma forall_mem_take {p : Char → Bool} {cs : List Char} {n : Nat} (h : n ≤ runLength p cs) :
    ∀ c ∈ cs.take n, p c = true := by
  have htake : (cs.takeWhile p ++ cs.dropWhile p).take n = (cs.takeWhile p).take n :=
    List.take_append_of_le_length h
  rw [List.takeWhile_append_dropWhile] at htake
  rw [htake]
  exact fun c hc => List.all_eq_true.mp List.all_takeWhile c (List.mem_of_mem_take hc)

/-- What follows a run. -/
lemma drop_runLength (p : Char → Bool) (cs : List Char) :
    cs.drop (runLength p cs) = cs.dropWhile p := by
  have hsplit : (cs.takeWhile p ++ cs.dropWhile p).drop (runLength p cs) = cs.dropWhile p :=
    List.drop_left
  rwa [List.takeWhile_append_dropWhile] at hsplit

/-- Upper-case letters, as many as possible, then an upper-case letter and a lower-case one:
`([A-Z]+)([A-Z][a-z])`. The underscore is put between the two parts. -/
def acronymRule (cs : List Char) : Option (Nat × List Char) :=
  (List.range (runLength Char.isUpper cs)).reverse.findSome? fun n =>
    match cs.drop (n + 1) with
    | d :: e :: _ =>
      if d.isUpper && e.isLower then some (n + 2, cs.take (n + 1) ++ ['_', d, e]) else none
    | _ => none

/-- A lower-case letter or digit, then an upper-case letter: `([a-z0-9])([A-Z])`. The underscore is
put between them. -/
def caseRule : List Char → Option (Nat × List Char)
  | c :: d :: _ => if (c.isLower || c.isDigit) && d.isUpper then some (1, [c, '_', d]) else none
  | _ => none

/-- A character that is no letter or digit: `[^a-zA-Z0-9]`. A mark takes its place. -/
def otherRule (mark : Char) : List Char → Option (Nat × List Char)
  | c :: _ => if c.isAlphanum then none else some (0, [mark])
  | [] => none

/-- Whether a character is an underscore. -/
def isUnderscore (c : Char) : Bool :=
  c == '_'

/-- Two or more underscores, as many as possible: `_{2,}`. One takes their place. -/
def repeatedRule (cs : List Char) : Option (Nat × List Char) :=
  let count := runLength isUnderscore cs
  if 2 ≤ count then some (count - 1, ['_']) else none

/-- What the five substitutions make of a name, in lower case. The last one drops the underscores at
both ends: `^_+|_+$`. -/
def substituted (name : String) : String :=
  let separated := substitute caseRule (substitute acronymRule name.toList)
  let collapsed := substitute repeatedRule (substitute (otherRule '_') separated)
  lower (String.ofList (trimWith isUnderscore collapsed))

/-! ## Where the case changes -/

/-- Puts an underscore before each `d` that follows `c` and precedes `next` with `cut c d next`. -/
def separate (cut : Char → Char → Option Char → Bool) : List Char → List Char
  | [] => []
  | [c] => [c]
  | c :: d :: rest =>
    if cut c d rest.head? then c :: '_' :: separate cut (d :: rest)
    else c :: separate cut (d :: rest)

/-- Where an acronym ends. -/
def cutsAtAcronym (c d : Char) (next : Option Char) : Bool :=
  c.isUpper && d.isUpper && (next.map Char.isLower).getD false

/-- Where an upper-case letter follows a lower-case letter or digit. -/
def cutsAtHump (c d : Char) (_ : Option Char) : Bool :=
  (c.isLower || c.isDigit) && d.isUpper

/-- Nothing is put behind a character that nothing is cut from. -/
lemma separate_cons {cut : Char → Char → Option Char → Bool} {c : Char} {rest : List Char}
    (h : ∀ d more, rest = d :: more → cut c d more.head? = false) :
    separate cut (c :: rest) = c :: separate cut rest := by
  cases rest with
  | nil => rfl
  | cons d more => rw [separate, if_neg (Bool.eq_false_iff.mp (h d more rfl))]

/-- A match of the acronym rule: one underscore is put in. -/
lemma separate_acronym {run : List Char} (hrun : run ≠ []) (hupper : ∀ c ∈ run, c.isUpper = true)
    {d e : Char} (hd : d.isUpper = true) (he : e.isLower = true) (after : List Char) :
    separate cutsAtAcronym (run ++ d :: e :: after) =
      run ++ '_' :: d :: e :: separate cutsAtAcronym after := by
  obtain ⟨-, he', -⟩ := of_isLower he
  induction run with
  | nil => exact absurd rfl hrun
  | cons c run ih =>
    obtain ⟨hc, hothers⟩ := List.forall_mem_cons.mp hupper
    cases run with
    | nil =>
      have hcut : cutsAtAcronym c d (some e) = true := by
        simp [cutsAtAcronym, hc, hd, he]
      have hsecond : separate cutsAtAcronym (d :: e :: after) =
          d :: separate cutsAtAcronym (e :: after) :=
        separate_cons fun _ _ heq => by
          simp [cutsAtAcronym, ← (List.cons.inj heq).1, he']
      have hthird : separate cutsAtAcronym (e :: after) = e :: separate cutsAtAcronym after :=
        separate_cons fun _ _ _ => by
          simp [cutsAtAcronym, he']
      rw [List.singleton_append, separate, List.head?_cons, if_pos hcut, hsecond, hthird]
      rfl
    | cons c' run =>
      have hnext : ∀ next ∈ (run ++ d :: e :: after).head?, next.isUpper = true := by
        cases run with
        | nil => simpa using hd
        | cons next run => simpa using hothers next (by simp)
      have hjoined : cutsAtAcronym c c' (run ++ d :: e :: after).head? = false := by
        cases hhead : (run ++ d :: e :: after).head? with
        | none => simp [cutsAtAcronym]
        | some next => simp [cutsAtAcronym, (of_isUpper (hnext next hhead)).2.1]
      rw [List.cons_append, List.cons_append, separate, if_neg (Bool.eq_false_iff.mp hjoined),
        ← List.cons_append, ih (List.cons_ne_nil c' run) hothers]
      rfl

/-- A match of the acronym rule consists of upper-case letters, the last two of them before a
lower-case one. -/
lemma acronymRule_eq_some {cs : List Char} {more : Nat} {text : List Char}
    (h : acronymRule cs = some (more, text)) :
    ∃ run d e after, cs = run ++ d :: e :: after ∧ run ≠ [] ∧ (∀ c ∈ run, c.isUpper = true) ∧
      d.isUpper = true ∧ e.isLower = true ∧ more = run.length + 1 ∧ text = run ++ ['_', d, e] := by
  obtain ⟨n, hn, hmatch⟩ := List.exists_of_findSome?_eq_some h
  have hlong : n < runLength Char.isUpper cs := by simpa using hn
  split at hmatch
  · next d e after hdrop =>
    split at hmatch
    · next hends =>
      simp only [Option.some.injEq, Prod.mk.injEq] at hmatch
      obtain ⟨rfl, rfl⟩ := hmatch
      obtain ⟨hd, he⟩ := (Bool.and_eq_true _ _).mp hends
      have hlength : (cs.take (n + 1)).length = n + 1 := by
        have htwo := congrArg List.length hdrop
        rw [List.length_drop, List.length_cons] at htwo
        rw [List.length_take]
        omega
      refine ⟨cs.take (n + 1), d, e, after, ?_, ?_, forall_mem_take hlong, hd, he, ?_, rfl⟩
      · rw [← hdrop, List.take_append_drop]
      · exact List.ne_nil_of_length_eq_add_one hlength
      · rw [hlength]
    · exact absurd hmatch (by simp)
  · exact absurd hmatch (by simp)

/-- Where the acronym rule does not match, no acronym ends. -/
lemma cutsAtAcronym_of_none {c d : Char} {rest : List Char}
    (h : acronymRule (c :: d :: rest) = none) : cutsAtAcronym c d rest.head? = false := by
  by_contra hcut
  cases rest with
  | nil => simp [cutsAtAcronym] at hcut
  | cons e after =>
    obtain ⟨hc, hd, he⟩ : c.isUpper = true ∧ d.isUpper = true ∧ e.isLower = true := by
      simpa [cutsAtAcronym] using hcut
    have hnone := List.findSome?_eq_none_iff.mp h 0 (by simp [runLength, hc])
    simp [hd, he] at hnone

/-- The first substitution separates acronyms from what follows them. -/
lemma substitute_acronymRule (cs : List Char) :
    substitute acronymRule cs = separate cutsAtAcronym cs := by
  induction cs using substitute.induct acronymRule with
  | case1 => rw [substitute, separate]
  | case2 c rest more text h ih =>
    obtain ⟨run, d, e, after, hcs, hrun, hupper, hd, he, hmore, rfl⟩ := acronymRule_eq_some h
    have hafter : rest.drop more = after := by
      rw [← List.drop_succ_cons (a := c), hcs, hmore, Nat.add_assoc, List.drop_length_add_append]
      rfl
    rw [substitute_of_some h, ih, hafter, hcs, separate_acronym hrun hupper hd he]
    simp
  | case3 c rest h ih =>
    rw [substitute_of_none h, ih, separate_cons]
    rintro d more rfl
    exact cutsAtAcronym_of_none h

/-- The second substitution separates upper-case letters from lower-case letters and digits before
them. -/
lemma substitute_caseRule (cs : List Char) : substitute caseRule cs = separate cutsAtHump cs := by
  induction cs using substitute.induct caseRule with
  | case1 => rw [substitute, separate]
  | case2 c rest more text h ih =>
    cases rest with
    | nil => exact absurd h (by simp [caseRule])
    | cons d after =>
      have hrule := substitute_of_some h
      rw [caseRule] at h
      split_ifs at h with hcut
      simp only [Option.some.injEq, Prod.mk.injEq] at h
      obtain ⟨rfl, rfl⟩ := h
      have hsecond : separate cutsAtHump (d :: after) = d :: separate cutsAtHump after :=
        separate_cons fun _ _ _ => by
          have hd := of_isUpper ((Bool.and_eq_true _ _).mp hcut).2
          simp [cutsAtHump, hd]
      rw [hrule, ih, separate, if_pos (show cutsAtHump c d after.head? = true from hcut), hsecond]
      rfl
  | case3 c rest h ih =>
    rw [substitute_of_none h, ih, separate_cons]
    rintro d after rfl
    rw [caseRule] at h
    split_ifs at h with hcut
    exact Bool.eq_false_iff.mpr hcut

/-- A change of case cuts a text where an acronym ends and where an upper-case letter follows. -/
lemma cutsAtCase_eq (c d : Char) (next : Option Char) :
    cutsAtCase c d next = (cutsAtHump c d next || cutsAtAcronym c d next) := by
  rw [cutsAtCase, cutsAtHump, cutsAtAcronym]
  cases d.isUpper <;> simp

/-- The first character stays the first one. -/
lemma exists_separate_eq_cons (cut : Char → Char → Option Char → Bool) (c : Char)
    (rest : List Char) : ∃ tail, separate cut (c :: rest) = c :: tail := by
  cases rest with
  | nil => exact ⟨_, rfl⟩
  | cons d rest =>
    rw [separate]
    split_ifs
    · exact ⟨_, rfl⟩
    · exact ⟨_, rfl⟩

/-- The first two substitutions separate the segments of a run of letters and digits. -/
lemma separate_separate (cs : List Char) :
    separate cutsAtHump (separate cutsAtAcronym cs) = separate cutsAtCase cs := by
  induction cs using separate.induct cutsAtAcronym with
  | case1 => rfl
  | case2 c => rfl
  | case3 c d rest hcut ih =>
    have hfirst (tail : List Char) :
        separate cutsAtHump (c :: '_' :: tail) = c :: '_' :: separate cutsAtHump tail := by
      rw [separate_cons fun _ _ heq => by simp [cutsAtHump, ← (List.cons.inj heq).1],
        separate_cons fun _ _ _ => by simp [cutsAtHump]]
    rw [separate, if_pos hcut, hfirst, ih, separate, if_pos]
    rw [cutsAtCase_eq, hcut, Bool.or_true]
  | case4 c d rest hcut ih =>
    obtain ⟨tail, htail⟩ := exists_separate_eq_cons cutsAtAcronym d rest
    have hcase : cutsAtCase c d rest.head? = cutsAtHump c d tail.head? := by
      rw [cutsAtCase_eq, Bool.eq_false_iff.mpr hcut, Bool.or_false]
      rfl
    rw [htail] at ih
    rw [separate, if_neg hcut, htail, separate, ih, separate, hcase]

/-! ## Separators -/

/-- A letter or digit itself, and a mark in place of any other character. -/
def masked (mark c : Char) : Char :=
  if c.isAlphanum then c else mark

/-- The third substitution masks the characters one by one. -/
lemma substitute_otherRule (mark : Char) (cs : List Char) :
    substitute (otherRule mark) cs = cs.map (masked mark) := by
  induction cs with
  | nil => rw [substitute, List.map_nil]
  | cons c rest ih =>
    rw [List.map_cons]
    by_cases hc : c.isAlphanum = true
    · have hrule : otherRule mark (c :: rest) = none := by rw [otherRule, if_pos hc]
      rw [substitute_of_none hrule, ih, masked, if_pos hc]
    · have hrule : otherRule mark (c :: rest) = some (0, [mark]) := by rw [otherRule, if_neg hc]
      rw [substitute_of_some hrule, List.drop_zero, ih, masked, if_neg hc]
      rfl

/-- Nowhere. -/
def cutsNowhere (_ _ : Char) (_ : Option Char) : Bool :=
  false

/-- A text whose segments are separated has the same segments as before. -/
lemma segments_separate (cut : Char → Char → Option Char → Bool) (cs : List Char) :
    segments cutsNowhere ((separate cut cs).map (masked '_')) = segments cut cs := by
  have hunderscore (rest : List Char) :
      segments cutsNowhere ('_' :: rest) = segments cutsNowhere rest :=
    segments_of_not rfl rest
  have hmasked {c : Char} (hc : ¬c.isAlphanum = true) : masked '_' c = '_' := if_neg hc
  have hkept {c : Char} (hc : c.isAlphanum = true) : masked '_' c = c := if_pos hc
  induction cs using separate.induct cut with
  | case1 => rfl
  | case2 c =>
    by_cases hc : c.isAlphanum = true
    · simp [separate, hkept hc, segments, hc]
    · simp [separate, hmasked hc, segments, hc]
  | case3 c d rest hcut ih =>
    rw [separate, if_pos hcut, List.map_cons, List.map_cons, hmasked (c := '_') (by decide)]
    by_cases hc : c.isAlphanum = true
    · rw [hkept hc, segments_cut hc fun h => absurd h (by decide), hunderscore, ih,
        segments_cut hc fun _ => hcut]
    · rw [hmasked hc, hunderscore, hunderscore, ih, segments_of_not (Bool.eq_false_iff.mpr hc)]
  | case4 c d rest hcut ih =>
    obtain ⟨tail, htail⟩ := exists_separate_eq_cons cut d rest
    rw [htail, List.map_cons] at ih
    rw [separate, if_neg hcut, htail, List.map_cons, List.map_cons]
    by_cases hc : c.isAlphanum = true
    · rw [hkept hc]
      by_cases hd : d.isAlphanum = true
      · rw [hkept hd] at ih ⊢
        rw [segments_joined hc hd rfl, ih, segments_joined hc hd (Bool.eq_false_iff.mpr hcut)]
      · rw [hmasked hd] at ih ⊢
        rw [segments_cut hc fun h => absurd h (by decide), ih, segments_cut hc fun h => absurd h hd]
    · rw [hmasked hc, hunderscore, ih, segments_of_not (Bool.eq_false_iff.mpr hc)]

/-- Behind an underscore the fourth substitution drops the others. -/
lemma collapse_underscore (rest : List Char) :
    substitute repeatedRule ('_' :: rest) =
      '_' :: substitute repeatedRule (rest.dropWhile isUnderscore) := by
  have hlength : runLength isUnderscore ('_' :: rest) = runLength isUnderscore rest + 1 := rfl
  rw [← drop_runLength]
  by_cases hrun : runLength isUnderscore rest = 0
  · have hrule : repeatedRule ('_' :: rest) = none := by
      rw [repeatedRule, hlength, hrun]
      rfl
    rw [substitute_of_none hrule, hrun, List.drop_zero]
  · have hrule : repeatedRule ('_' :: rest) = some (runLength isUnderscore rest, ['_']) := by
      rw [repeatedRule, hlength]
      exact if_pos (by omega)
    rw [substitute_of_some hrule]
    rfl

/-- Any other character stays. -/
lemma collapse_cons {c : Char} (hc : isUnderscore c = false) (rest : List Char) :
    substitute repeatedRule (c :: rest) = c :: substitute repeatedRule rest := by
  have hrule : repeatedRule (c :: rest) = none := by
    simp [repeatedRule, runLength, hc]
  exact substitute_of_none hrule

/-- The segments of a text are not those of the underscores before them. -/
lemma segments_dropWhile (cut : Char → Char → Option Char → Bool) (cs : List Char) :
    segments cut (cs.dropWhile isUnderscore) = segments cut cs := by
  induction cs with
  | nil => rfl
  | cons c cs ih =>
    by_cases hc : isUnderscore c = true
    · have hother : c.isAlphanum = false := by
        rw [beq_iff_eq.mp hc]
        rfl
      rw [List.dropWhile_cons_of_pos hc, ih, segments_of_not hother]
    · rw [List.dropWhile_cons_of_neg hc]

/-- A text does not begin with an underscore after those before it are dropped. -/
lemma head_dropWhile (cs : List Char) :
    ∀ c ∈ (cs.dropWhile isUnderscore).head?, isUnderscore c = false := by
  intro c hc
  have hhead := List.head?_dropWhile_not isUnderscore cs
  rw [Option.mem_def.mp hc] at hhead
  simpa using hhead

/-- A text that does not begin with an underscore begins with the same character when the repeated
underscores are dropped. -/
lemma dropWhile_collapse {cs : List Char} (h : ∀ c ∈ cs.head?, isUnderscore c = false) :
    (substitute repeatedRule cs).dropWhile isUnderscore = substitute repeatedRule cs := by
  cases cs with
  | nil => rw [substitute, List.dropWhile_nil]
  | cons c cs =>
    have hc := h c rfl
    rw [collapse_cons hc, List.dropWhile_cons_of_neg (Bool.eq_false_iff.mp hc)]

/-- A character in front of a text stands in front of its first part. -/
lemma intercalate_prependToFirst (c : Char) (parts : List (List Char)) :
    ['_'].intercalate (prependToFirst c parts) = c :: ['_'].intercalate parts := by
  cases parts with
  | nil => rfl
  | cons part parts =>
    cases parts with
    | nil => rfl
    | cons next parts => rfl

/-- A character and an underscore stand in front of the parts that follow, if there are any. -/
lemma intercalate_cons_singleton (c : Char) {parts : List (List Char)}
    (h : ∀ part ∈ parts, part ≠ []) :
    ['_'].intercalate ([c] :: parts) =
      c :: if ['_'].intercalate parts = [] then [] else '_' :: ['_'].intercalate parts := by
  cases parts with
  | nil => rfl
  | cons part rest =>
    obtain ⟨d, others, rfl⟩ := List.exists_cons_of_ne_nil (h part List.mem_cons_self)
    have hne : ['_'].intercalate ((d :: others) :: rest) ≠ [] := by
      cases rest with
      | nil => exact List.cons_ne_nil _ _
      | cons next rest => exact List.cons_ne_nil _ _
    rw [if_neg hne, List.intercalate_cons_cons]
    rfl

/-- What the last two substitutions leave of letters, digits and underscores, if the first of these
characters is no underscore. -/
lemma trimEndWith_collapse {cs : List Char}
    (h : ∀ c ∈ cs, isUnderscore c = true ∨ c.isAlphanum = true)
    (hhead : ∀ c ∈ cs.head?, isUnderscore c = false) :
    trimEndWith isUnderscore (substitute repeatedRule cs) =
      ['_'].intercalate (segments cutsNowhere cs) := by
  -- the induction is on the length, as a run of underscores is skipped at once
  induction hlength : cs.length using Nat.strong_induction_on generalizing cs with
  | _ length ih =>
    cases cs with
    | nil =>
      rw [substitute]
      rfl
    | cons c rest =>
      obtain ⟨hc, hrest⟩ := List.forall_mem_cons.mp h
      have hkept : c.isAlphanum = true := hc.resolve_left (Bool.eq_false_iff.mp (hhead c rfl))
      rw [collapse_cons (hhead c rfl), trimEndWith_cons, if_neg (by simp [hhead c rfl])]
      cases rest with
      | nil =>
        rw [substitute]
        simp [trimEndWith, segments, hkept]
      | cons d more =>
        by_cases hd : isUnderscore d = true
        · obtain rfl := beq_iff_eq.mp hd
          have hshort : (more.dropWhile isUnderscore).length < length := by
            have := (List.dropWhile_sublist (l := more) isUnderscore).length_le
            simp only [List.length_cons] at hlength
            omega
          have hlater := ih _ hshort
            (fun e he => hrest e (List.mem_cons_of_mem _ ((List.dropWhile_sublist _).subset he)))
            (head_dropWhile more) rfl
          rw [collapse_underscore, trimEndWith_cons, hlater, segments_dropWhile,
            segments_cut hkept fun h => absurd h (by decide), segments_of_not rfl,
            intercalate_cons_singleton c fun part hpart =>
              (segments_alphanum cutsNowhere more part hpart).1]
          simp [hd]
        · have hkept' : d.isAlphanum = true := (hrest d List.mem_cons_self).resolve_left hd
          have hlater := ih _ (by simp [← hlength]) hrest
            (fun e he => by rw [← Option.some_inj.mp he]; exact Bool.eq_false_iff.mpr hd) rfl
          rw [hlater, segments_joined hkept hkept' rfl, intercalate_prependToFirst]

/-- What the last two substitutions leave of letters, digits and underscores. -/
lemma trimWith_collapse {cs : List Char}
    (h : ∀ c ∈ cs, isUnderscore c = true ∨ c.isAlphanum = true) :
    trimWith isUnderscore (substitute repeatedRule cs) =
      ['_'].intercalate (segments cutsNowhere cs) := by
  have hdropped : (substitute repeatedRule cs).dropWhile isUnderscore =
      substitute repeatedRule (cs.dropWhile isUnderscore) := by
    cases cs with
    | nil => rw [List.dropWhile_nil, substitute, List.dropWhile_nil]
    | cons c rest =>
      by_cases hc : isUnderscore c = true
      · rw [List.dropWhile_cons_of_pos hc, beq_iff_eq.mp hc, collapse_underscore,
          List.dropWhile_cons_of_pos rfl, dropWhile_collapse (head_dropWhile rest)]
      · rw [List.dropWhile_cons_of_neg hc, collapse_cons (Bool.eq_false_iff.mpr hc),
          List.dropWhile_cons_of_neg hc]
  show trimEndWith isUnderscore ((substitute repeatedRule cs).dropWhile isUnderscore) = _
  rw [hdropped, trimEndWith_collapse, segments_dropWhile]
  · exact fun c hc => h c ((List.dropWhile_sublist _).subset hc)
  · exact head_dropWhile cs

/-- The lower-case form of a text of ASCII characters. -/
lemma lower_of_ascii {cs : List Char} (h : ∀ c ∈ cs, c.toNat < 128) :
    lower (String.ofList cs) = String.ofList (cs.map Char.toLower) := by
  have hafter (before : List Char) : lowerAfter before cs = cs.map Char.toLower := by
    induction cs generalizing before with
    | nil => rfl
    | cons c cs ih =>
      obtain ⟨hc, hcs⟩ := List.forall_mem_cons.mp h
      have hsigma : c.toNat ≠ 0x3a3 := by omega
      rw [lowerAfter, if_neg hsigma, lowerChar, if_pos hc, ih hcs]
      rfl
  rw [lower, String.toList_ofList, hafter]

/-- Lower case leaves the underscores between parts. -/
lemma map_toLower_intercalate (parts : List (List Char)) :
    (['_'].intercalate parts).map Char.toLower =
      ['_'].intercalate (parts.map (List.map Char.toLower)) := by
  induction parts with
  | nil => rfl
  | cons part rest ih =>
    cases rest with
    | nil => rw [List.intercalate_singleton, List.map_singleton, List.intercalate_singleton]
    | cons next rest =>
      rw [List.map_cons] at ih
      rw [List.map_cons, List.map_cons, List.intercalate_cons_cons, List.intercalate_cons_cons,
        List.map_append, List.map_append, ih]
      rfl

/-- Letters and digits are ASCII characters. -/
lemma toNat_lt_of_isAlphanum {c : Char} (h : c.isAlphanum = true) : c.toNat < 128 :=
  of_isAlphanum (p := fun c => c.toNat < 128) (by decide) h

/-- **Snake case by substitutions.** The snake case of a name is what the five substitutions make of
it. -/
theorem snakeCase_eq_substituted (name : String) : snakeCase name = substituted name := by
  have hmasked : ∀ c ∈ (separate cutsAtCase name.toList).map (masked '_'),
      isUnderscore c = true ∨ c.isAlphanum = true := by
    intro c hc
    obtain ⟨d, -, rfl⟩ := List.mem_map.mp hc
    by_cases hd : d.isAlphanum = true
    · exact Or.inr (by rwa [masked, if_pos hd])
    · exact Or.inl (by rw [masked, if_neg hd]; rfl)
  rw [substituted, substitute_acronymRule, substitute_caseRule, separate_separate,
    substitute_otherRule, trimWith_collapse hmasked, segments_separate, lower_of_ascii, map_toLower_intercalate,
    ← String.toList_inj, toList_snakeCase, String.toList_ofList, foldedSegments]
  refine forall_mem_intercalate (by decide) fun segment hsegment c hc => ?_
  have hall := (segments_alphanum cutsAtCase name.toList segment hsegment).2
  exact toNat_lt_of_isAlphanum (List.all_eq_true.mp hall c hc)

end SqlMapping.Text
