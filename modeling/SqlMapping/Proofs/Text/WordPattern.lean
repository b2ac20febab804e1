import SqlMapping.Proofs.Text.Substitution

/-!
# Words by pattern matching

The words of a name are also the matches of an alternation of four patterns, after spaces have taken
the place of the characters that are no letters or digits (`words_eq_matchedWords`). A match is a
segment: nothing cuts it, and it is cut from what follows it (`isSegment_of_wordRule`). An upper-case
run has to end where one may end, which leaves its last letter to the lower-case letters behind it.
-/

namespace SqlMapping.Text

/-! ## The alternation -/

/-- The matches of a rule from left to right. -/
def findAll (rule : List Char → Option Nat) : List Char → List (List Char)
  | [] => []
  | c :: rest =>
    match rule (c :: rest) with
    | some more => (c :: rest.take more) :: findAll rule (rest.drop more)
    | none => findAll rule rest
termination_by cs => cs.length

/-- Whether an upper-case run may end before a text: at an upper-case letter that a lower-case one
follows, at a digit, or where no letter or digit follows. The text holds ASCII letters, digits and
spaces only, so that no other digit and no other character of a word can follow. -/
def endsUpperRun : List Char → Bool
  | [] => true
  | d :: more => d.isUpper && (more.head?.map Char.isLower).getD false || d.isDigit || !d.isAlphanum

/-- A lower-case run, with an upper-case letter before it if there is one, `[A-Z]?[a-z]+`; an
upper-case run up to the last place where it may end, `[A-Z]+(?=[A-Z][a-z]|\d|\b)`; an upper-case
letter, `[A-Z]`; a run of digits, `\d+`. The first of the four that matches counts. -/
def wordRule : List Char → Option Nat
  | [] => none
  | c :: rest =>
    if c.isUpper && 0 < runLength Char.isLower rest then some (runLength Char.isLower rest)
    else if c.isLower then some (runLength Char.isLower rest)
    else
      ((List.range (runLength Char.isUpper (c :: rest))).reverse.find? fun n =>
        endsUpperRun (rest.drop n)).or
      (if c.isUpper then some 0
      else if c.isDigit then some (runLength Char.isDigit rest)
      else none)

/-- The matches of the alternation in a name, in lower case, after spaces have taken the place of the
characters that are no letters or digits. -/
def matchedWords (name : String) : List String :=
  (findAll wordRule (substitute (otherRule ' ') name.toList)).map fun w => lower (String.ofList w)

/-! ## Runs -/

/-- The characters of a run. -/
lemma take_runLength (p : Char → Bool) (cs : List Char) :
    cs.take (runLength p cs) = cs.takeWhile p := by
  have hsplit : (cs.takeWhile p ++ cs.dropWhile p).take (runLength p cs) = cs.takeWhile p :=
    List.take_left
  rwa [List.takeWhile_append_dropWhile] at hsplit

/-- No character of its kind follows a run. -/
lemma not_of_drop_runLength {p : Char → Bool} {cs more : List Char} {c : Char}
    (h : cs.drop (runLength p cs) = c :: more) : p c = false := by
  have hhead := List.head?_dropWhile_not p cs
  rw [← drop_runLength, h] at hhead
  simpa using hhead

/-! ## Matches are words -/

/-- Lower-case letters are a word if no lower-case letter follows. -/
lemma isSegment_of_isLower {segment rest : List Char} (hne : segment ≠ [])
    (hlower : ∀ c ∈ segment, c.isLower = true)
    (hrest : ∀ d more, rest = d :: more → d.isLower = false) :
    IsSegment cutsAtWord segment rest := by
  refine isSegment_of_forall hne (fun c hc => (of_isLower (hlower c hc)).1) ?_ ?_
  · intro c hc d hd next _
    simp [cutsAtWord, cutsAtCase, of_isLower (hlower c hc), of_isLower (hlower d hd)]
  · rintro c hc d more rfl hd
    have hother := hrest d more rfl
    rcases isAlphanum_cases hd with hupper | hlow | hdigit
    · simp [cutsAtWord, cutsAtCase, hupper, hlower c hc]
    · exact absurd hlow (Bool.eq_false_iff.mp hother)
    · simp [cutsAtWord, hdigit, of_isLower (hlower c hc)]

/-- Digits are a word if no digit follows. -/
lemma isSegment_of_isDigit {segment rest : List Char} (hne : segment ≠ [])
    (hdigits : ∀ c ∈ segment, c.isDigit = true)
    (hrest : ∀ d more, rest = d :: more → d.isDigit = false) :
    IsSegment cutsAtWord segment rest := by
  refine isSegment_of_forall hne (fun c hc => (of_isDigit (hdigits c hc)).1) ?_ ?_
  · intro c hc d hd next _
    simp [cutsAtWord, cutsAtCase, of_isDigit (hdigits d hd), hdigits c hc, hdigits d hd]
  · rintro c hc d more rfl _
    simp [cutsAtWord, hdigits c hc, hrest d more rfl]

/-- No upper-case run ends at a lower-case letter. -/
lemma isLower_of_endsUpperRun {rest : List Char} (h : endsUpperRun rest = true) {c : Char}
    (hc : rest.head? = some c) : c.isLower = false := by
  obtain ⟨more, rfl⟩ := List.head?_eq_some_iff.mp hc
  by_contra hlower
  rw [Bool.not_eq_false] at hlower
  simp [endsUpperRun, of_isLower hlower] at h

/-- An upper-case run that no lower-case letter follows may end somewhere. -/
lemma exists_endsUpperRun {c : Char} (hc : c.isUpper = true) {rest : List Char}
    (hrest : runLength Char.isLower rest = 0) :
    ∃ n < runLength Char.isUpper (c :: rest), endsUpperRun (rest.drop n) = true := by
  have hlength {c : Char} (hc : c.isUpper = true) (rest : List Char) :
      runLength Char.isUpper (c :: rest) = runLength Char.isUpper rest + 1 := by
    simp [runLength, hc]
  induction rest generalizing c with
  | nil => exact ⟨0, by simp [hlength hc], rfl⟩
  | cons d more ih =>
    have hlower : d.isLower = false := not_of_drop_runLength (by rw [hrest, List.drop_zero])
    by_cases hd : d.isUpper = true
    · by_cases hmore : runLength Char.isLower more = 0
      · obtain ⟨n, hn, hends⟩ := ih hd hmore
        exact ⟨n + 1, by rw [hlength hc]; omega, hends⟩
      · -- the lower-case letter behind `d` belongs to the next word, and so does `d`
        refine ⟨0, by rw [hlength hc]; omega, ?_⟩
        cases more with
        | nil => exact absurd rfl hmore
        | cons e after =>
          have he : e.isLower = true := by
            by_contra he
            exact hmore (by simp [runLength, he])
          simp [endsUpperRun, hd, he]
    · refine ⟨0, by rw [hlength hc]; omega, ?_⟩
      by_cases hdigit : d.isDigit = true
      · simp [endsUpperRun, hdigit]
      · have hother : d.isAlphanum = false := by
          by_contra hkept
          rcases isAlphanum_cases (eq_true_of_ne_false hkept) with h | h | h
          · exact hd h
          · exact absurd h (Bool.eq_false_iff.mp hlower)
          · exact hdigit h
        simp [endsUpperRun, hother]

/-- Upper-case letters are a word where an upper-case run may end. -/
lemma isSegment_of_isUpper {segment rest : List Char} (hne : segment ≠ [])
    (hupper : ∀ c ∈ segment, c.isUpper = true) (hrest : endsUpperRun rest = true) :
    IsSegment cutsAtWord segment rest := by
  refine isSegment_of_forall hne (fun c hc => (of_isUpper (hupper c hc)).1) ?_ ?_
  · intro c hc d hd next hnext
    have hlower : (next.map Char.isLower).getD false = false := by
      cases next with
      | none => rfl
      | some e =>
        rcases hnext e rfl with he | he
        · exact (of_isUpper (hupper e he)).2.1
        · exact isLower_of_endsUpperRun hrest he
    simp [cutsAtWord, cutsAtCase, of_isUpper (hupper c hc), of_isUpper (hupper d hd), hlower]
  · rintro c hc d more rfl hd
    have hends : (d.isUpper = true ∧ (more.head?.map Char.isLower).getD false = true) ∨
        d.isDigit = true := by
      simpa [endsUpperRun, hd] using hrest
    rcases hends with ⟨hup, hlower⟩ | hdigit
    · simp [cutsAtWord, cutsAtCase, hup, hupper c hc, hlower]
    · simp [cutsAtWord, hdigit, of_isUpper (hupper c hc)]

/-- A match of the alternation is a word. -/
lemma isSegment_of_wordRule {c : Char} {rest : List Char} {more : Nat}
    (h : wordRule (c :: rest) = some more) :
    IsSegment cutsAtWord (c :: rest.take more) (rest.drop more) := by
  have hupperRun {n : Nat}
      (hfind : ((List.range (runLength Char.isUpper (c :: rest))).reverse.find? fun n =>
        endsUpperRun (rest.drop n)) = some n) :
      IsSegment cutsAtWord (c :: rest.take n) (rest.drop n) := by
    have hn : n < runLength Char.isUpper (c :: rest) := by
      simpa using List.mem_of_find?_eq_some hfind
    have hends := List.find?_some hfind
    exact isSegment_of_isUpper (List.cons_ne_nil _ _) (forall_mem_take hn) hends
  rw [wordRule] at h
  split_ifs at h with hcapital hlower hupper hdigit
  · obtain ⟨hc, hrun⟩ : c.isUpper = true ∧ 0 < runLength Char.isLower rest := by
      simpa using hcapital
    obtain rfl := Option.some.inj h
    have hall : ∀ e ∈ rest.take (runLength Char.isLower rest), e.isLower = true :=
      forall_mem_take (Nat.le_refl _)
    have hne : rest.take (runLength Char.isLower rest) ≠ [] := by
      rw [take_runLength]
      exact List.ne_nil_of_length_pos hrun
    have hsegment : IsSegment cutsAtWord (rest.take (runLength Char.isLower rest))
        (rest.drop (runLength Char.isLower rest)) :=
      isSegment_of_isLower hne hall fun d others => not_of_drop_runLength
    obtain ⟨d, others, htake⟩ := List.exists_cons_of_ne_nil hne
    rw [htake] at hall hsegment ⊢
    have hd := of_isLower (hall d List.mem_cons_self)
    exact ⟨(of_isUpper hc).1, hd.1, by simp [cutsAtWord, cutsAtCase, of_isUpper hc, hd], hsegment⟩
  · obtain rfl := Option.some.inj h
    refine isSegment_of_isLower (List.cons_ne_nil _ _) ?_ fun d others => not_of_drop_runLength
    exact List.forall_mem_cons.mpr ⟨hlower, forall_mem_take (Nat.le_refl _)⟩
  · obtain ⟨n, hn, hends⟩ := exists_endsUpperRun hupper
      (show runLength Char.isLower rest = 0 by simpa [hupper] using hcapital)
    cases hfind : (List.range (runLength Char.isUpper (c :: rest))).reverse.find? fun n =>
        endsUpperRun (rest.drop n) with
    | none => exact absurd hends (List.find?_eq_none.mp hfind n (by simpa using hn))
    | some n =>
      rw [hfind] at h
      obtain rfl := Option.some.inj h
      exact hupperRun hfind
  · cases hfind : (List.range (runLength Char.isUpper (c :: rest))).reverse.find? fun n =>
        endsUpperRun (rest.drop n) with
    | none =>
      rw [hfind] at h
      obtain rfl := Option.some.inj h
      refine isSegment_of_isDigit (List.cons_ne_nil _ _) ?_ fun d others => not_of_drop_runLength
      exact List.forall_mem_cons.mpr ⟨hdigit, forall_mem_take (Nat.le_refl _)⟩
    | some n =>
      rw [hfind] at h
      obtain rfl := Option.some.inj h
      exact hupperRun hfind
  · exact hupperRun (by simpa using h)

/-- The alternation matches at every letter and digit. -/
lemma isAlphanum_of_wordRule {c : Char} {rest : List Char} (h : wordRule (c :: rest) = none) :
    c.isAlphanum = false := by
  rw [wordRule] at h
  split_ifs at h with hcapital hlower hupper hdigit
  · exact absurd h (by simp)
  · exact absurd h (by simp)
  · by_contra hkept
    rcases isAlphanum_cases (eq_true_of_ne_false hkept) with hc | hc | hc
    · exact hupper hc
    · exact hlower hc
    · exact hdigit hc

/-- The matches of the alternation are the words. -/
lemma findAll_wordRule (cs : List Char) : findAll wordRule cs = segments cutsAtWord cs := by
  induction cs using findAll.induct wordRule with
  | case1 => rw [findAll, segments]
  | case2 c rest more h ih =>
    have hword := segments_append (isSegment_of_wordRule h)
    rw [List.cons_append, List.take_append_drop] at hword
    rw [findAll, h]
    dsimp only
    rw [ih, hword]
  | case3 c rest h ih =>
    rw [findAll, h]
    dsimp only
    rw [ih, segments_of_not (isAlphanum_of_wordRule h)]

/-- Words are the same when spaces take the place of the characters between them. -/
lemma segments_masked (cs : List Char) :
    segments cutsAtWord (cs.map (masked ' ')) = segments cutsAtWord cs := by
  have hmasked {c : Char} (hc : ¬c.isAlphanum = true) : masked ' ' c = ' ' := if_neg hc
  have hkept {c : Char} (hc : c.isAlphanum = true) : masked ' ' c = c := if_pos hc
  have hnext (c d : Char) (rest : List Char) :
      cutsAtWord c d (rest.map (masked ' ')).head? = cutsAtWord c d rest.head? := by
    cases rest with
    | nil => rfl
    | cons e more =>
      by_cases he : e.isAlphanum = true
      · rw [List.map_cons, hkept he]
        rfl
      · have hlower : e.isLower = false := by
          by_contra hlow
          exact he (of_isLower (eq_true_of_ne_false hlow)).1
        simp [hmasked he, cutsAtWord, cutsAtCase, hlower]
  induction cs using segments.induct cutsAtWord with
  | case1 => rfl
  | case2 c hc => rw [List.map_singleton, hkept hc]
  | case3 c hc => simp [hmasked hc, segments, hc]
  | case4 c d rest hc ih =>
    have hother : ¬c.isAlphanum = true := by simpa using hc
    rw [List.map_cons, hmasked hother, segments_of_not rfl, ih,
      segments_of_not (Bool.eq_false_iff.mpr hother)]
  | case5 c d rest hc hjoins ih =>
    have hletter : c.isAlphanum = true := by simpa using hc
    obtain ⟨hd, hcut⟩ : d.isAlphanum = true ∧ cutsAtWord c d rest.head? = false := by
      simpa using hjoins
    rw [List.map_cons, hkept hd] at ih
    rw [List.map_cons, List.map_cons, hkept hletter, hkept hd,
      segments_joined hletter hd (by rw [hnext, hcut]), ih, segments_joined hletter hd hcut]
  | case6 c d rest hc hcuts ih =>
    have hletter : c.isAlphanum = true := by simpa using hc
    have hcut (hd : d.isAlphanum = true) : cutsAtWord c d rest.head? = true := by
      simpa [hd] using hcuts
    rw [List.map_cons] at ih
    rw [List.map_cons, List.map_cons, hkept hletter, segments_cut hletter hcut, ← ih]
    refine segments_cut hletter fun hd' => ?_
    by_cases hd : d.isAlphanum = true
    · rw [hkept hd, hnext, hcut hd]
    · rw [hmasked hd] at hd'
      exact absurd hd' (by decide)

/-- **Words by pattern matching.** The words of a name are the matches of the alternation in it. -/
theorem words_eq_matchedWords (name : String) : words name = matchedWords name := by
  rw [matchedWords, substitute_otherRule, findAll_wordRule, segments_masked, words]
  refine List.map_congr_left fun segment hsegment => ?_
  have hall := (segments_alphanum cutsAtWord name.toList segment hsegment).2
  exact (lower_of_ascii fun c hc => toNat_lt_of_isAlphanum (List.all_eq_true.mp hall c hc)).symm

end SqlMapping.Text
