import SqlMapping.Proofs.Batch.Accounting
import SqlMapping.Proofs.Batch.Certificate
import SqlMapping.Proofs.Render.Module

/-!
# The docstring of a module

A module begins with a docstring that names the entity and its table. A docstring stands between two
delimiters of three double quotes. It is read up to the first delimiter, where a backslash keeps the
character after it from being part of one (`readDocstring`).

The two names are written into the docstring as they are. In a successful batch the table has the
form of a name, which is harmless; but nothing is asked of the name of an entity. The docstring is
closed by its own delimiter exactly when none is read in the name, and nothing but characters that
stand for themselves is in it exactly when the name has no delimiter and no backslash
(`staysInDocstring_iff`). What follows a delimiter in the name is code of the module
(`not_staysInDocstring_imported`).
-/

namespace SqlMapping.Render

open SqlMapping.Text

/-! ## The rules -/

/-- Three double quotes, between two of which a docstring stands. -/
def delimiter : List Char := ['"', '"', '"']

/-- Reads a docstring up to the delimiter that closes it: its characters as they are written, and
what follows the delimiter. -/
def readDocstring : List Char → Option (List Char × List Char)
  | [] => none
  | '\\' :: c :: rest => (readDocstring rest).map (Prod.map ('\\' :: c :: ·) id)
  | '"' :: '"' :: '"' :: rest => some ([], rest)
  | c :: rest => (readDocstring rest).map (Prod.map (c :: ·) id)

/-- Reads the docstring that a text begins with. -/
def docstring? (text : String) : Option (List Char × List Char) :=
  (skip? "\"\"\"" text.toList).bind readDocstring

/-- Characters hold no delimiter and no backslash. -/
def IsHarmless (cs : List Char) : Prop :=
  '\\' ∉ cs ∧ ¬delimiter <:+: cs

instance : DecidablePred IsHarmless :=
  fun cs => inferInstanceAs (Decidable ('\\' ∉ cs ∧ ¬delimiter <:+: cs))

/-- What the docstring of a module is to say. -/
def about (a : Artifacts) : List Char :=
  (joinLines ["", s!"Data access for entity {a.entity} (table {a.table}).",
    "Auto-generated by EntityMap.", ""]).toList

/-- The lines that are to follow the docstring of a module. -/
def codeLines (a : Artifacts) (naming : Settings) : List String :=
  (headerLines a).drop 4 ++ constantLines a ++ ["", ""] ++ classLines a naming ++ [""]

/-- The docstring of a module is closed by the delimiter that is written behind it. -/
def ClosesDocstring (a : Artifacts) (naming : Settings) : Prop :=
  docstring? (moduleText a naming) = some (about a, '\n' :: (joinLines (codeLines a naming)).toList)

/-- What is said of an entity and its table stays in the docstring of the module. -/
structure StaysInDocstring (a : Artifacts) (naming : Settings) : Prop where
  /-- The docstring is closed by the delimiter that is written behind it. -/
  closes : ClosesDocstring a naming
  /-- Up to there it holds no delimiter. -/
  noDelimiter : ¬delimiter <:+: about a
  /-- Every character of it stands for itself. -/
  noBackslash : '\\' ∉ about a

/-! ## Parts of a docstring -/

/-- What begins a list in front of a character that it does not have begins the part in front. -/
lemma prefix_of_prefix_append_cons {p front back : List Char} {c : Char} (hc : c ∉ p)
    (h : p <+: front ++ c :: back) : p <+: front := by
  rcases List.prefix_or_prefix_of_prefix h (List.prefix_append front (c :: back)) with hp | hp
  · exact hp
  · obtain ⟨others, rfl⟩ := hp
    cases others with
    | nil =>
      rw [List.append_nil]
    | cons d others =>
      obtain ⟨rfl, -⟩ := List.cons_prefix_cons.mp ((List.prefix_append_right_inj front).mp h)
      exact absurd (List.mem_append_right front List.mem_cons_self) hc

/-- What is found around a character that it does not have is found in front of it or behind it. -/
lemma infix_append_cons_iff {p front back : List Char} {c : Char} (hc : c ∉ p) :
    p <:+: front ++ c :: back ↔ p <:+: front ∨ p <:+: back := by
  constructor
  · intro h
    induction front with
    | nil =>
      rcases List.infix_cons_iff.mp h with h | h
      · have hfront : p <+: [] := prefix_of_prefix_append_cons hc h
        exact Or.inl hfront.isInfix
      · exact Or.inr h
    | cons d front ih =>
      rcases List.infix_cons_iff.mp h with h | h
      · exact Or.inl (prefix_of_prefix_append_cons hc h).isInfix
      · exact (ih h).imp_left fun hfront => hfront.trans (List.suffix_cons d front).isInfix
  · rintro (h | h)
    · exact h.trans (List.prefix_append _ _).isInfix
    · exact h.trans ((List.suffix_cons c back).trans (List.suffix_append _ _)).isInfix

/-- Characters that are parted by one that belongs to no delimiter are harmless when both parts
are. -/
lemma isHarmless_append_cons {front back : List Char} {c : Char} (hquote : c ≠ '"')
    (hbackslash : c ≠ '\\') :
    IsHarmless (front ++ c :: back) ↔ IsHarmless front ∧ IsHarmless back := by
  have hdelimiter : c ∉ delimiter := by simp [delimiter, hquote]
  unfold IsHarmless
  rw [infix_append_cons_iff hdelimiter, List.mem_append, List.mem_cons,
    or_iff_right hbackslash.symm, not_or, not_or, and_and_and_comm]

/-- A character that begins neither an escape nor a delimiter is read by itself. -/
lemma readDocstring_cons {c : Char} {rest : List Char} (hbackslash : c ≠ '\\')
    (hclose : ∀ tail, c = '"' → rest = '"' :: '"' :: tail → False) :
    readDocstring (c :: rest) = (readDocstring rest).map (Prod.map (c :: ·) id) := by
  rw [readDocstring]
  · rintro d tail rfl -
    exact hbackslash rfl
  · exact hclose

/-- A part of a docstring is read up to a character that belongs to no delimiter: a delimiter in it
closes the docstring, and if there is none, the docstring goes on. -/
lemma readDocstring_append_cons {cs : List Char} {c : Char} (hquote : c ≠ '"')
    (hbackslash : c ≠ '\\') (rest : List Char) :
    readDocstring (cs ++ c :: rest) =
      match readDocstring cs with
      | some (text, after) => some (text, after ++ c :: rest)
      | none => (readDocstring rest).map (Prod.map (cs ++ c :: ·) id) := by
  induction cs using readDocstring.induct with
  | case1 => exact readDocstring_cons hbackslash fun _ hc _ => hquote hc
  | case2 d cs ih =>
    rw [List.cons_append, List.cons_append, readDocstring, readDocstring, ih]
    cases readDocstring cs with
    | none => exact Option.map_map _ _ _
    | some read => rfl
  | case3 cs => rfl
  | case4 d cs hescape hclose ih =>
    by_cases hd : d = '\\'
    · -- a backslash at the end of the part escapes the character behind it
      subst hd
      cases cs with
      | nil => rfl
      | cons e cs => exact (hescape e cs rfl rfl).elim
    · have hgoes : ∀ tail, d = '"' → cs ++ c :: rest = '"' :: '"' :: tail → False := by
        intro tail hquotes htail
        match cs with
        | [] => exact hquote (List.cons.inj htail).1
        | [e] => exact hquote (List.cons.inj (List.cons.inj htail).2).1
        | e :: e' :: cs =>
          rw [List.cons_append, List.cons_append, List.cons.injEq, List.cons.injEq] at htail
          exact hclose cs hquotes (by rw [htail.1, htail.2.1])
      rw [List.cons_append, readDocstring_cons hd hgoes, readDocstring_cons hd hclose, ih]
      cases readDocstring cs with
      | none => exact Option.map_map _ _ _
      | some read => rfl

/-- What is read as a docstring stands in front of a delimiter. -/
lemma eq_append_of_readDocstring {cs text after : List Char}
    (h : readDocstring cs = some (text, after)) : cs = text ++ (delimiter ++ after) := by
  induction cs using readDocstring.induct generalizing text with
  | case1 => exact absurd h (by simp [readDocstring])
  | case2 c cs ih =>
    rw [readDocstring] at h
    obtain ⟨⟨rest, after'⟩, hread, h⟩ := Option.map_eq_some_iff.mp h
    obtain ⟨rfl, rfl⟩ := Prod.mk.inj h
    rw [ih hread]
    rfl
  | case3 cs =>
    obtain ⟨rfl, rfl⟩ := Prod.mk.inj (Option.some.inj h)
    rfl
  | case4 c cs hescape hclose ih =>
    rw [readDocstring] at h
    · obtain ⟨⟨rest, after'⟩, hread, h⟩ := Option.map_eq_some_iff.mp h
      obtain ⟨rfl, rfl⟩ := Prod.mk.inj h
      rw [ih hread]
      rfl
    · exact hescape
    · exact hclose

/-- Harmless characters do not close a docstring. -/
lemma readDocstring_of_isHarmless {cs : List Char} (h : IsHarmless cs) :
    readDocstring cs = none := by
  obtain ⟨hbackslash, hdelimiter⟩ := h
  induction cs using readDocstring.induct with
  | case1 => rfl
  | case2 d cs ih => exact absurd List.mem_cons_self hbackslash
  | case3 cs => exact absurd (List.prefix_append delimiter cs).isInfix hdelimiter
  | case4 d cs hescape hclose ih =>
    have hrest : readDocstring cs = none :=
      ih (fun hmem => hbackslash (List.mem_cons_of_mem d hmem))
        fun hfound => hdelimiter (hfound.trans (List.suffix_cons d cs).isInfix)
    have hd : d ≠ '\\' := fun hd => hbackslash (hd ▸ List.mem_cons_self)
    rw [readDocstring_cons hd hclose, hrest]
    rfl

/-! ## The text of a module -/

/-- The docstring of a module names the entity and the table. -/
lemma about_eq (a : Artifacts) :
    about a = "\nData access for entity".toList ++ ' ' :: (a.entity.toList ++
      ' ' :: ("(table".toList ++ ' ' :: (a.table.toList ++
        ')' :: ".\nAuto-generated by EntityMap.\n".toList))) := by
  have hline : s!"Data access for entity {a.entity} (table {a.table})." =
      "Data access for entity " ++ a.entity ++ " (table " ++ a.table ++ ")." := rfl
  have hlast : (joinLines ["Auto-generated by EntityMap.", ""]).toList =
      "Auto-generated by EntityMap.\n".toList := by decide +kernel
  rw [about, toList_joinLines_cons_cons, toList_joinLines_cons_cons, hlast, hline]
  simp

/-- A module is its docstring between two delimiters, and the lines of its code. -/
lemma toList_moduleText (a : Artifacts) (naming : Settings) :
    (moduleText a naming).toList =
      "\"\"\"".toList ++
        (about a ++ (delimiter ++ '\n' :: (joinLines (codeLines a naming)).toList)) := by
  have hlines : headerLines a ++ constantLines a ++ ["", ""] ++ classLines a naming ++ [""] =
      "\"\"\"" :: s!"Data access for entity {a.entity} (table {a.table})." ::
        "Auto-generated by EntityMap." :: "\"\"\"" :: codeLines a naming := rfl
  have hcode : codeLines a naming = "" :: (codeLines a naming).tail := rfl
  have hempty : (joinLines [""]).toList = [] := rfl
  rw [moduleText, hlines, hcode, about]
  simp [toList_joinLines_cons_cons, hempty, delimiter]

/-- The docstring that a module begins with is that of its text behind the first delimiter. -/
lemma docstring_moduleText (a : Artifacts) (naming : Settings) :
    docstring? (moduleText a naming) =
      readDocstring
        (about a ++ (delimiter ++ '\n' :: (joinLines (codeLines a naming)).toList)) := by
  rw [docstring?, toList_moduleText, skip_append, Option.bind_some]

variable {a : Artifacts} {naming : Settings}

/-- Beside a harmless table, the docstring is closed by its own delimiter exactly when no delimiter
is read in the name of the entity. -/
lemma closesDocstring_iff (htable : IsHarmless a.table.toList) :
    ClosesDocstring a naming ↔ readDocstring a.entity.toList = none := by
  have hspace (cs rest : List Char) :=
    @readDocstring_append_cons cs ' ' (by decide) (by decide) rest
  have hparenthesis (cs rest : List Char) :=
    @readDocstring_append_cons cs ')' (by decide) (by decide) rest
  have hfront : readDocstring "\nData access for entity".toList = none := rfl
  have hmiddle : readDocstring "(table".toList = none := rfl
  have hend (code : List Char) :
      readDocstring (".\nAuto-generated by EntityMap.\n".toList ++ (delimiter ++ code)) =
        some (".\nAuto-generated by EntityMap.\n".toList, code) := rfl
  rw [ClosesDocstring, docstring_moduleText, about_eq]
  simp only [List.append_assoc, List.cons_append, hspace, hparenthesis, hfront, hmiddle,
    readDocstring_of_isHarmless htable, hend]
  cases hentity : readDocstring a.entity.toList with
  | none => exact iff_of_true rfl rfl
  | some read =>
    obtain ⟨text, after⟩ := read
    refine iff_of_false (fun h => ?_) (by simp)
    -- what is read up to a delimiter in the name is too short
    have htext := List.append_cancel_left (congrArg Prod.fst (Option.some.inj h))
    have hlong := congrArg List.length (List.cons.inj htext).2
    have hshort := congrArg List.length (eq_append_of_readDocstring hentity)
    simp only [List.length_append, List.length_cons] at hlong hshort
    omega

/-- A text of the form of a name is harmless. -/
lemma isHarmless_of_hasNameForm {s : String} (h : HasNameForm s) : IsHarmless s.toList := by
  obtain ⟨first, rest, ending, htext, hfirst, hrest, hending⟩ := h
  have hmem {c : Char} (hstart : isPlainStart c = false) (hpart : isPlainPart c = false)
      (hfeed : c ≠ '\n') : c ∉ s.toList := by
    rw [htext, List.mem_cons, List.mem_append]
    rintro (rfl | hc | hc)
    · exact Bool.false_ne_true (hstart.symm.trans hfirst)
    · exact Bool.false_ne_true (hpart.symm.trans (hrest c hc))
    · rcases hending with rfl | rfl
      · exact List.not_mem_nil hc
      · exact hfeed (List.mem_singleton.mp hc)
  have hquote : '"' ∉ s.toList := hmem (by decide) (by decide) (by decide)
  exact ⟨hmem (by decide) (by decide) (by decide),
    fun hdelimiter => hquote (hdelimiter.subset List.mem_cons_self)⟩

/-- The docstring of a module is harmless when the names in it are. -/
lemma isHarmless_about_iff (htable : IsHarmless a.table.toList) :
    IsHarmless (about a) ↔ IsHarmless a.entity.toList := by
  have hfront : IsHarmless "\nData access for entity".toList := by decide +kernel
  have hmiddle : IsHarmless "(table".toList := by decide +kernel
  have hend : IsHarmless ".\nAuto-generated by EntityMap.\n".toList := by decide +kernel
  have hspace (front back : List Char) :=
    @isHarmless_append_cons front back ' ' (by decide) (by decide)
  have hparenthesis (front back : List Char) :=
    @isHarmless_append_cons front back ')' (by decide) (by decide)
  rw [about_eq, hspace, hspace, hspace, hparenthesis]
  simp only [hfront, hmiddle, htable, hend, true_and, and_true]

/-- The tables of a successful batch are harmless. -/
lemma isHarmless_table {settings : Settings} {declarations : List DeclarationInput}
    {report : BatchReport} (h : (Batch.generate settings declarations).result = .ok report)
    (hsuccess : report.isSuccess = true) (ha : a ∈ report.artifacts) :
    IsHarmless a.table.toList := by
  obtain ⟨entity, hentity, rfl⟩ := List.mem_map.mp ha
  obtain ⟨index, hbuilds⟩ := Batch.exists_builds_of_mem_built h hentity
  have hschema : entity.schema ∈ report.schemas := List.mem_map_of_mem hentity
  rw [hbuilds.spec.2.2.1]
  exact isHarmless_of_hasNameForm ((Batch.isSuccess_iff.mp hsuccess).2.tableNames _ hschema)

/-- **What stays in the docstring.** In a successful batch, the docstring of a module is closed by
its own delimiter exactly when no delimiter is read in the name of the entity. It holds what is said
of the entity and its table, every character standing for itself, exactly when that name has neither
a delimiter nor a backslash. -/
theorem staysInDocstring_iff {settings : Settings} {declarations : List DeclarationInput}
    {report : BatchReport} (h : (Batch.generate settings declarations).result = .ok report)
    (hsuccess : report.isSuccess = true) (ha : a ∈ report.artifacts) :
    (ClosesDocstring a report.settings ↔ readDocstring a.entity.toList = none) ∧
      (StaysInDocstring a report.settings ↔ IsHarmless a.entity.toList) := by
  have htable := isHarmless_table h hsuccess ha
  refine ⟨closesDocstring_iff htable, fun hstays => ?_, fun hentity => ?_⟩
  · exact (isHarmless_about_iff htable).mp ⟨hstays.noBackslash, hstays.noDelimiter⟩
  · obtain ⟨hbackslash, hdelimiter⟩ := (isHarmless_about_iff htable).mpr hentity
    exact ⟨(closesDocstring_iff htable).mpr (readDocstring_of_isHarmless hentity), hdelimiter,
      hbackslash⟩

/-- A declaration whose name holds quotes and a line feed. -/
def quoted : List DeclarationInput :=
  [.declared { name := "\"\"card\"\" 'of'\nhearts\"", table := "cards", fields :=
    [{ name := "id", columnType := some .int, isKey := true }] }]

/-- A module whose docstring holds quotes of a name. -/
theorem staysInDocstring_quoted :
    ∃ report, (Batch.generate {} quoted).result = .ok report ∧ report.isSuccess = true ∧
      report.artifacts.length = 1 ∧ ∀ a ∈ report.artifacts, StaysInDocstring a report.settings := by
  obtain ⟨report, hreport⟩ := isOk_iff.mp
    (by decide +kernel : (Batch.generate {} quoted).result.isOk = true)
  have hverdict : (Batch.generate {} quoted).result.toOption.map (fun r =>
      (r.isSuccess, r.artifacts.length, r.artifacts.all fun a => IsHarmless a.entity.toList)) =
        some (true, 1, true) := by
    decide +kernel
  rw [hreport] at hverdict
  obtain ⟨hsuccess, hverdict⟩ := Prod.mk.inj (Option.some.inj hverdict)
  obtain ⟨hlength, hall⟩ := Prod.mk.inj hverdict
  refine ⟨report, hreport, hsuccess, hlength, fun a ha => ?_⟩
  have hharmless : IsHarmless a.entity.toList := of_decide_eq_true (List.all_eq_true.mp hall a ha)
  exact (staysInDocstring_iff hreport hsuccess ha).2.mpr hharmless

/-- A declaration whose name closes the docstring of its module. -/
def imported : List DeclarationInput :=
  [.declared { name := "Card\"\"\"\nimport os\n\"\"\"", table := "cards", fields :=
    [{ name := "id", columnType := some .int, isKey := true }] }]

/-- A successful batch with a module whose docstring is closed in the name of its entity. -/
theorem not_staysInDocstring_imported :
    ∃ report, (Batch.generate {} imported).result = .ok report ∧ report.isSuccess = true ∧
      ∃ a ∈ report.artifacts,
        (docstring? (moduleText a report.settings)).map Prod.fst =
          some "\nData access for entity Card".toList ∧
        ¬ClosesDocstring a report.settings ∧ ¬StaysInDocstring a report.settings := by
  obtain ⟨report, hreport⟩ := isOk_iff.mp
    (by decide +kernel : (Batch.generate {} imported).result.isOk = true)
  have hverdict : (Batch.generate {} imported).result.toOption.map (fun r =>
      (r.isSuccess, r.artifacts.head?.map about)) =
        some (true, some ("\nData access for entity Card\"\"\"\nimport os\n\"\"\" " ++
          "(table cards).\nAuto-generated by EntityMap.\n").toList) := by
    decide +kernel
  rw [hreport] at hverdict
  obtain ⟨hsuccess, hverdict⟩ := Prod.mk.inj (Option.some.inj hverdict)
  obtain ⟨a, ha, habout⟩ := Option.map_eq_some_iff.mp hverdict
  have hdocstring : (docstring? (moduleText a report.settings)).map Prod.fst =
      some "\nData access for entity Card".toList := by
    rw [docstring_moduleText, habout]
    rfl
  have hlonger : about a ≠ "\nData access for entity Card".toList := by
    rw [habout]
    decide +kernel
  have hcloses : ¬ClosesDocstring a report.settings := by
    intro hcloses
    obtain ⟨⟨text, after⟩, hread, htext⟩ := Option.map_eq_some_iff.mp hdocstring
    obtain ⟨habout, -⟩ := Prod.mk.inj (Option.some.inj (hread.symm.trans hcloses))
    exact hlonger (habout.symm.trans htext)
  exact ⟨report, hreport, hsuccess, a, List.mem_of_head? ha, hdocstring, hcloses,
    fun hstays => hcloses hstays.closes⟩

end SqlMapping.Render
