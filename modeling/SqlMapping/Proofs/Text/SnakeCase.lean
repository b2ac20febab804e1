import SqlMapping.Proofs.Text.Words

/-!
# What snake case keeps of a name

The segments of a name hold its ASCII letters and digits in their order, wherever the name is cut
(`flatten_segments`). So its snake case and its words show the same characters, and nothing but
separators is put in or left out (`filter_snakeCase`, `join_words`). A snake case consists of groups
of lower-case letters and digits (`exists_groups_snakeCase`). As it is cut at its underscores only,
its own snake case is the same text (`snakeCase_snakeCase`).
-/

namespace SqlMapping.Text

/-! ## The characters that are kept -/

lemma flatten_prependToFirst (c : Char) (others : List (List Char)) :
    (prependToFirst c others).flatten = c :: others.flatten := by
  cases others with
  | nil => rfl
  | cons first rest => rfl

/-- Segments hold the letters and digits of a text in their order. -/
lemma flatten_segments (cut : Char → Char → Option Char → Bool) (cs : List Char) :
    (segments cut cs).flatten = cs.filter Char.isAlphanum := by
  induction cs using segments.induct cut with
  | case1 => rfl
  | case2 c hc =>
    rw [segments, if_pos hc, List.filter_cons_of_pos hc]
    rfl
  | case3 c hc =>
    rw [segments, if_neg hc, List.filter_cons_of_neg hc]
    rfl
  | case4 c d rest hc ih =>
    rw [segments, if_pos hc, List.filter_cons_of_neg (by simpa using hc), ih]
  | case5 c d rest hc hjoins ih =>
    have hkept : c.isAlphanum = true := by simpa using hc
    rw [segments, if_neg hc, if_pos hjoins, flatten_prependToFirst, ih,
      List.filter_cons_of_pos hkept]
  | case6 c d rest hc hcuts ih =>
    have hkept : c.isAlphanum = true := by simpa using hc
    rw [segments, if_neg hc, if_neg hcuts, List.flatten_cons, ih, List.filter_cons_of_pos hkept]
    rfl

/-- The ASCII letters and digits of a name, in lower case. -/
def foldedLetters (name : String) : List Char :=
  (name.toList.filter Char.isAlphanum).map Char.toLower

/-- Segments in lower case hold the letters and digits of a name. -/
lemma flatten_foldedSegments (name : String) :
    (foldedSegments name).flatten = foldedLetters name := by
  rw [foldedSegments, ← List.map_flatten, flatten_segments, foldedLetters]

/-- Without its separators, a list of parts without separators is what they hold together. -/
lemma filter_intercalate {parts : List (List Char)} (h : ∀ part ∈ parts, '_' ∉ part) :
    (['_'].intercalate parts).filter (· ≠ '_') = parts.flatten := by
  have hkept {part : List Char} (hpart : '_' ∉ part) : part.filter (· ≠ '_') = part := by
    refine List.filter_eq_self.mpr fun c hc => decide_eq_true ?_
    rintro rfl
    exact hpart hc
  induction parts with
  | nil => rfl
  | cons part rest ih =>
    obtain ⟨hpart, hrest⟩ := List.forall_mem_cons.mp h
    cases rest with
    | nil => rw [List.intercalate_singleton, hkept hpart, List.flatten_singleton]
    | cons next rest =>
      rw [List.intercalate_cons_cons, List.filter_append, List.filter_append, hkept hpart, ih hrest,
        List.flatten_cons]
      simp

/-- **Snake case keeps every letter and digit.** Without its underscores, the snake case of a name
is its ASCII letters and digits in lower case. -/
theorem filter_snakeCase (name : String) :
    (snakeCase name).toList.filter (· ≠ '_') = foldedLetters name := by
  rw [toList_snakeCase, filter_intercalate fun segment hmem => (foldedSegments_mem hmem).2,
    flatten_foldedSegments]

/-- **Words keep every letter and digit.** One after the other, the words of a name are its ASCII
letters and digits in lower case. -/
theorem join_words (name : String) :
    String.join (words name) = String.ofList (foldedLetters name) := by
  rw [← String.toList_inj, String.toList_join, String.toList_ofList, words, foldedLetters,
    ← flatten_segments cutsAtWord, List.map_flatten, List.flatMap_map]
  simp only [String.toList_ofList, List.flatMap_def]

/-! ## Kinds of letters and digits -/

/-- A lower-case letter is a letter and nothing else. -/
lemma of_isLower {c : Char} (h : c.isLower = true) :
    c.isAlphanum = true ∧ c.isUpper = false ∧ c.isDigit = false := by
  have hkept : c.isAlphanum = true :=
    (Bool.or_eq_true _ _).mpr (Or.inl ((Bool.or_eq_true _ _).mpr (Or.inr h)))
  exact ⟨hkept, of_isAlphanum
    (p := fun c => c.isLower = true → c.isUpper = false ∧ c.isDigit = false) (by decide) hkept h⟩

/-- An upper-case letter is a letter and nothing else. -/
lemma of_isUpper {c : Char} (h : c.isUpper = true) :
    c.isAlphanum = true ∧ c.isLower = false ∧ c.isDigit = false := by
  have hkept : c.isAlphanum = true :=
    (Bool.or_eq_true _ _).mpr (Or.inl ((Bool.or_eq_true _ _).mpr (Or.inl h)))
  exact ⟨hkept, of_isAlphanum
    (p := fun c => c.isUpper = true → c.isLower = false ∧ c.isDigit = false) (by decide) hkept h⟩

/-- A digit is a digit and nothing else. -/
lemma of_isDigit {c : Char} (h : c.isDigit = true) :
    c.isAlphanum = true ∧ c.isUpper = false ∧ c.isLower = false := by
  have hkept : c.isAlphanum = true := (Bool.or_eq_true _ _).mpr (Or.inr h)
  exact ⟨hkept, of_isAlphanum
    (p := fun c => c.isDigit = true → c.isUpper = false ∧ c.isLower = false) (by decide) hkept h⟩

/-- A letter or digit is one of three kinds. -/
lemma isAlphanum_cases {c : Char} (h : c.isAlphanum = true) :
    c.isUpper = true ∨ c.isLower = true ∨ c.isDigit = true := by
  rcases (Bool.or_eq_true _ _).mp h with halpha | hdigit
  · exact ((Bool.or_eq_true _ _).mp halpha).imp_right Or.inl
  · exact Or.inr (Or.inr hdigit)

/-- Letters and digits that are not in upper case stay in lower case. -/
lemma toLower_of_isUpper_eq_false {c : Char} (hkept : c.isAlphanum = true)
    (h : c.isUpper = false) : c.toLower = c :=
  of_isAlphanum (p := fun c => c.isUpper = false → c.toLower = c) (by decide) hkept h

/-! ## Segments -/

section Segments

variable {cut : Char → Char → Option Char → Bool}

/-- A character that is no letter or digit belongs to no segment. -/
lemma segments_of_not {c : Char} (hc : c.isAlphanum = false) (rest : List Char) :
    segments cut (c :: rest) = segments cut rest := by
  cases rest with
  | nil => simp [segments, hc]
  | cons d rest => simp [segments, hc]

/-- A letter or digit that the text is not cut behind is the first one of a longer segment. -/
lemma segments_joined {c d : Char} {rest : List Char} (hc : c.isAlphanum = true)
    (hd : d.isAlphanum = true) (hcut : cut c d rest.head? = false) :
    segments cut (c :: d :: rest) = prependToFirst c (segments cut (d :: rest)) := by
  rw [segments, if_neg (by simp [hc]), if_pos (by simp [hd, hcut])]

/-- A letter or digit that the text is cut behind is the last one of a segment. -/
lemma segments_cut {c d : Char} {rest : List Char} (hc : c.isAlphanum = true)
    (h : d.isAlphanum = true → cut c d rest.head? = true) :
    segments cut (c :: d :: rest) = [c] :: segments cut (d :: rest) := by
  have hnot : ¬(d.isAlphanum && !cut c d rest.head?) = true := by
    by_cases hd : d.isAlphanum = true
    · simp [h hd]
    · simp [hd]
  rw [segments, if_neg (by simp [hc]), if_neg hnot]

/-- A text is a segment where another text follows it: nothing cuts it, and it is cut from what
follows. -/
def IsSegment (cut : Char → Char → Option Char → Bool) : List Char → List Char → Prop
  | [], _ => False
  | [c], rest => c.isAlphanum = true ∧
    ∀ d more, rest = d :: more → d.isAlphanum = true → cut c d more.head? = true
  | c :: d :: others, rest => c.isAlphanum = true ∧ d.isAlphanum = true ∧
    cut c d (others ++ rest).head? = false ∧ IsSegment cut (d :: others) rest

/-- A segment is cut off. -/
lemma segments_append {segment rest : List Char} (h : IsSegment cut segment rest) :
    segments cut (segment ++ rest) = segment :: segments cut rest := by
  induction segment with
  | nil => exact absurd h id
  | cons c others ih =>
    cases others with
    | nil =>
      obtain ⟨hc, hcut⟩ := h
      cases rest with
      | nil => simp [segments, hc]
      | cons d more => exact segments_cut hc (hcut d more rfl)
    | cons d others =>
      obtain ⟨hc, hd, hcut, hothers⟩ := h
      rw [List.cons_append, List.cons_append, segments_joined hc hd hcut, ← List.cons_append,
        ih hothers]
      rfl

/-- Letters and digits are a segment if nothing cuts any two of them, and any of them is cut from
what follows. -/
lemma isSegment_of_forall {segment rest : List Char} (hne : segment ≠ [])
    (hkept : ∀ c ∈ segment, c.isAlphanum = true)
    (hjoined : ∀ c ∈ segment, ∀ d ∈ segment, ∀ next : Option Char,
      (∀ e ∈ next, e ∈ segment ∨ rest.head? = some e) → cut c d next = false)
    (hcut : ∀ c ∈ segment, ∀ d more, rest = d :: more → d.isAlphanum = true →
      cut c d more.head? = true) : IsSegment cut segment rest := by
  induction segment with
  | nil => exact absurd rfl hne
  | cons c others ih =>
    have hc := List.mem_cons_self (a := c) (l := others)
    cases others with
    | nil => exact ⟨hkept c hc, hcut c hc⟩
    | cons d others =>
      have hd : d ∈ c :: d :: others := List.mem_cons_of_mem c List.mem_cons_self
      refine ⟨hkept c hc, hkept d hd, hjoined c hc d hd _ ?_, ih (List.cons_ne_nil d others)
        (fun e he => hkept e (List.mem_cons_of_mem c he)) ?_
        (fun e he => hcut e (List.mem_cons_of_mem c he))⟩
      · cases others with
        | nil => exact fun e he => Or.inr he
        | cons e others => simp
      · intro a ha b hb next hnext
        exact hjoined a (List.mem_cons_of_mem c ha) b (List.mem_cons_of_mem c hb) next fun e he =>
          (hnext e he).imp_left (List.mem_cons_of_mem c)

end Segments

/-! ## The groups of a snake case -/

/-- One or more lower-case letters and digits. -/
def IsGroup (group : List Char) : Prop :=
  group ≠ [] ∧ ∀ c ∈ group, (c.isLower || c.isDigit) = true

/-- A letter or digit in lower case is a lower-case letter or a digit. -/
lemma isLower_or_isDigit_toLower {c : Char} (h : c.isAlphanum = true) :
    (c.toLower.isLower || c.toLower.isDigit) = true :=
  of_isAlphanum (p := fun c => (c.toLower.isLower || c.toLower.isDigit) = true) (by decide) h

/-- Segments in lower case are groups. -/
lemma isGroup_of_mem_foldedSegments {name : String} {segment : List Char}
    (h : segment ∈ foldedSegments name) : IsGroup segment := by
  refine ⟨(foldedSegments_mem h).1, fun c hc => ?_⟩
  obtain ⟨original, hmem, rfl⟩ := List.mem_map.mp h
  obtain ⟨d, hd, rfl⟩ := List.mem_map.mp hc
  have hall := (segments_alphanum cutsAtCase name.toList original hmem).2
  exact isLower_or_isDigit_toLower (List.all_eq_true.mp hall d hd)

/-- **Snake case consists of groups.** A snake case is empty or consists of groups of lower-case
letters and digits that are joined by single underscores. -/
theorem exists_groups_snakeCase (name : String) :
    ∃ groups, (∀ group ∈ groups, IsGroup group) ∧
      (snakeCase name).toList = ['_'].intercalate groups :=
  ⟨foldedSegments name, fun _ => isGroup_of_mem_foldedSegments, toList_snakeCase name⟩

/-! ## Snake case of a snake case -/

/-- A character of a group is a letter or digit, which is not in upper case and stays in lower
case. -/
lemma of_isLower_or_isDigit {c : Char} (h : (c.isLower || c.isDigit) = true) :
    c.isAlphanum = true ∧ c.isUpper = false ∧ c.toLower = c := by
  rcases (Bool.or_eq_true _ _).mp h with hlower | hdigit
  · obtain ⟨hkept, hupper, -⟩ := of_isLower hlower
    exact ⟨hkept, hupper, toLower_of_isUpper_eq_false hkept hupper⟩
  · obtain ⟨hkept, hupper, -⟩ := of_isDigit hdigit
    exact ⟨hkept, hupper, toLower_of_isUpper_eq_false hkept hupper⟩

/-- A group that no letter or digit follows is a segment. -/
lemma isSegment_of_isGroup {group : List Char} (hgroup : IsGroup group) {rest : List Char}
    (hrest : ∀ c ∈ rest.head?, c.isAlphanum = false) : IsSegment cutsAtCase group rest := by
  refine isSegment_of_forall hgroup.1 (fun c hc => (of_isLower_or_isDigit (hgroup.2 c hc)).1) ?_ ?_
  · intro c _ d hd next _
    rw [cutsAtCase, (of_isLower_or_isDigit (hgroup.2 d hd)).2.1, Bool.false_and]
  · rintro c _ d more rfl hd
    exact absurd hd (Bool.eq_false_iff.mp (hrest d rfl))

/-- The segments of groups with underscores between them are these groups. -/
lemma segments_intercalate {groups : List (List Char)} (h : ∀ group ∈ groups, IsGroup group) :
    segments cutsAtCase (['_'].intercalate groups) = groups := by
  induction groups with
  | nil => rfl
  | cons group rest ih =>
    obtain ⟨hgroup, hrest⟩ := List.forall_mem_cons.mp h
    cases rest with
    | nil =>
      rw [List.intercalate_singleton, ← List.append_nil group,
        segments_append (isSegment_of_isGroup hgroup (by simp)), List.append_nil, segments]
    | cons next rest =>
      rw [List.intercalate_cons_cons, List.append_assoc,
        segments_append (isSegment_of_isGroup hgroup (by simp)), List.singleton_append,
        segments_of_not rfl, ih hrest]

/-- **Snake case is stable.** The snake case of a snake case is the same text. -/
theorem snakeCase_snakeCase (name : String) : snakeCase (snakeCase name) = snakeCase name := by
  have hgroups : ∀ group ∈ foldedSegments name, IsGroup group :=
    fun _ => isGroup_of_mem_foldedSegments
  have hfolded {group : List Char} (hgroup : IsGroup group) : group.map Char.toLower = group := by
    refine (List.map_congr_left fun c hc => ?_).trans (List.map_id group)
    exact (of_isLower_or_isDigit (hgroup.2 c hc)).2.2
  rw [snakeCase_eq_iff, foldedSegments, toList_snakeCase, segments_intercalate hgroups]
  exact (List.map_congr_left fun group hmem => hfolded (hgroups group hmem)).trans (List.map_id _)

end SqlMapping.Text
