import SqlMapping.Proofs.Batch.Isolation
import SqlMapping.Proofs.Text.Identifier
import SqlMapping.Render.Module

/-!
# Names of classes

The class of an entity goes by the words of the name of the entity, each with a capital, and the
suffix that the settings ask for. All characters of it are those of plain names, and it begins with
the first letter or digit of the name, in upper case. Nothing is put in front of a digit. So the
name of the class can be used exactly when it does not begin with a digit and is none of the three
keywords that have a capital (`isUsable_className_iff`). No check asks whether the name of an entity
begins with a digit (`not_isUsable_className_factor`).
-/

namespace SqlMapping

namespace Text

/-! ## Pascal case -/

/-- The first segment of a text begins with the first letter or digit of the text. -/
lemma head?_segments (cut : Char → Char → Option Char → Bool) (cs : List Char) :
    (segments cut cs).head?.bind List.head? = cs.find? Char.isAlphanum := by
  induction cs using segments.induct cut with
  | case1 => rfl
  | case2 c hc => rw [segments, if_pos hc, List.find?_cons_of_pos hc]; rfl
  | case3 c hc => rw [segments, if_neg hc, List.find?_cons_of_neg hc]; rfl
  | case4 c d rest hc ih =>
    have hother : ¬c.isAlphanum = true := by simpa using hc
    rw [segments, if_pos hc, List.find?_cons_of_neg hother, ih]
  | case5 c d rest hc hjoins ih =>
    have hletter : c.isAlphanum = true := by simpa using hc
    rw [segments, if_neg hc, if_pos hjoins, List.find?_cons_of_pos hletter]
    cases segments cut (d :: rest) <;> rfl
  | case6 c d rest hc hcuts ih =>
    have hletter : c.isAlphanum = true := by simpa using hc
    rw [segments, if_neg hc, if_neg hcuts, List.find?_cons_of_pos hletter]
    rfl

/-- A segment in lower case, with its first letter in upper case. -/
def capitalized : List Char → List Char
  | [] => []
  | c :: rest => c.toLower.toUpper :: rest.map fun d => d.toLower.toLower

/-- The characters of a name in Pascal case are those of its segments. -/
lemma toList_pascalCase (name : String) :
    (pascalCase name).toList = (segments cutsAtWord name.toList).flatMap capitalized := by
  have hword (segment : List Char) :
      (capitalize (String.ofList (segment.map Char.toLower))).toList = capitalized segment := by
    cases segment with
    | nil => rfl
    | cons c rest =>
      rw [capitalize, String.toList_ofList, List.map_cons]
      dsimp only
      rw [String.toList_ofList, List.map_map]
      rfl
  rw [pascalCase, String.toList_join, words, List.map_map, List.flatMap_map]
  exact List.flatMap_congr fun segment _ => hword segment

/-- Pascal case consists of letters and digits. -/
lemma isAlphanum_of_mem_pascalCase {name : String} {c : Char} (h : c ∈ (pascalCase name).toList) :
    c.isAlphanum = true := by
  rw [toList_pascalCase] at h
  obtain ⟨segment, hsegment, hc⟩ := List.mem_flatMap.mp h
  have hall := (segments_alphanum cutsAtWord name.toList segment hsegment).2
  cases segment with
  | nil => exact absurd hc List.not_mem_nil
  | cons d rest =>
    rw [List.all_cons, Bool.and_eq_true] at hall
    rcases List.mem_cons.mp hc with rfl | hc
    · exact of_isAlphanum (p := fun d => d.toLower.toUpper.isAlphanum = true) (by decide) hall.1
    · obtain ⟨e, he, rfl⟩ := List.mem_map.mp hc
      exact of_isAlphanum (p := fun e => e.toLower.toLower.isAlphanum = true) (by decide)
        (List.all_eq_true.mp hall.2 e he)

/-- Pascal case begins with the first letter or digit of the name, in upper case. -/
lemma head?_pascalCase (name : String) :
    (pascalCase name).toList.head? =
      (name.toList.find? Char.isAlphanum).map fun c => c.toLower.toUpper := by
  rw [toList_pascalCase, ← head?_segments cutsAtWord]
  have hsegments := segments_alphanum cutsAtWord name.toList
  cases hname : segments cutsAtWord name.toList with
  | nil => rfl
  | cons segment rest =>
    rw [hname] at hsegments
    cases segment with
    | nil => exact absurd rfl (hsegments [] List.mem_cons_self).1
    | cons c others => rfl

end Text

namespace Render

open SqlMapping.Text

/-! ## The name of a class -/

/-- The first letter or digit of a text is a digit. -/
def BeginsWithDigit (s : String) : Prop :=
  (s.toList.find? Char.isAlphanum).any Char.isDigit = true

instance : DecidablePred BeginsWithDigit :=
  fun s => inferInstanceAs (Decidable ((s.toList.find? Char.isAlphanum).any Char.isDigit = true))

/-- The name of a class begins with the first letter or digit of the name of the entity, in upper
case, or with that of the fallback. Characters of plain names follow, those of the suffix at the
end. -/
lemma exists_toList_className (entity : String) (naming : Settings) :
    ∃ c rest, (entity.toList.find? Char.isAlphanum).getD 'E' = c ∧ c.isAlphanum = true ∧
      (className entity naming).toList =
        c.toLower.toUpper :: (rest ++ naming.classSuffix.val.toList) ∧
      ∀ d ∈ rest, isPlainPart d = true := by
  have hhead := head?_pascalCase entity
  cases hfind : entity.toList.find? Char.isAlphanum with
  | none =>
    rw [hfind, Option.map_none, List.head?_eq_none_iff, String.toList_eq_nil_iff] at hhead
    have hparts : "ntity".toList.all isPlainPart = true := by decide
    refine ⟨'E', "ntity".toList, rfl, by decide, ?_, List.all_eq_true.mp hparts⟩
    rw [className, hhead, if_pos rfl, String.toList_append]
    rfl
  | some c =>
    rw [hfind, Option.map_some, List.head?_eq_some_iff] at hhead
    obtain ⟨rest, hbase⟩ := hhead
    have hne : pascalCase entity ≠ "" := by
      rintro hempty
      rw [hempty] at hbase
      exact absurd hbase (List.cons_ne_nil _ rest).symm
    refine ⟨c, rest, rfl, List.find?_some hfind, ?_, fun d hd => ?_⟩
    · rw [className, if_neg hne, String.toList_append, hbase]
      rfl
    · have hletter : d.isAlphanum = true :=
        isAlphanum_of_mem_pascalCase (hbase ▸ List.mem_cons_of_mem _ hd)
      rw [isPlainPart, hletter, Bool.true_or]

/-- No keyword without a capital is the name of a class. -/
lemma mem_moduleKeywords_className {entity : String} {naming : Settings} :
    className entity naming ∈ moduleKeywords ↔
      className entity naming ∈ ["False", "None", "True"] := by
  have hsmall : ∀ word ∈ moduleKeywords, word ∈ ["False", "None", "True"] ∨
      word.toList.head?.any Char.isLower = true := by
    decide
  have hcapital : ∀ word ∈ ["False", "None", "True"], word ∈ moduleKeywords := by
    decide
  refine ⟨fun hmem => (hsmall _ hmem).resolve_right ?_, hcapital _⟩
  intro hlower
  obtain ⟨c, rest, -, hletter, hname, -⟩ := exists_toList_className entity naming
  rw [hname, List.head?_cons, Option.any_some] at hlower
  have hupper : c.toLower.toUpper.isLower = false :=
    of_isAlphanum (p := fun c => c.toLower.toUpper.isLower = false) (by decide) hletter
  exact Bool.false_ne_true (hupper.symm.trans hlower)

/-- The name of a class is an identifier unless the name of its entity begins with a digit. -/
lemma isIdentifier_className {entity : String} {naming : Settings} :
    isIdentifier (className entity naming) = true ↔ ¬BeginsWithDigit entity := by
  obtain ⟨c, rest, hfirst, hletter, hname, hrest⟩ := exists_toList_className entity naming
  have hcapital : isPlainPart c.toLower.toUpper = true ∧
      isPlainStart c.toLower.toUpper = !c.isDigit :=
    of_isAlphanum (p := fun c => isPlainPart c.toLower.toUpper = true ∧
      isPlainStart c.toLower.toUpper = !c.isDigit) (by decide) hletter
  have hothers : ∀ d ∈ rest ++ naming.classSuffix.val.toList, isPlainPart d = true :=
    List.forall_mem_append.mpr ⟨hrest, isPlainPart_of_isPlainName naming.classSuffix.property⟩
  have hparts : ∀ d ∈ (className entity naming).toList, isPlainPart d = true := by
    rw [hname]
    exact List.forall_mem_cons.mpr ⟨hcapital.1, hothers⟩
  have hdigit : BeginsWithDigit entity ↔ c.isDigit = true := by
    unfold BeginsWithDigit
    subst hfirst
    cases entity.toList.find? Char.isAlphanum <;> simp
  rw [isIdentifier_eq_isPlainName hparts, isPlainName, hname, isPlainNameList,
    List.all_eq_true.mpr hothers, Bool.and_true, hcapital.2, hdigit, Bool.not_eq_true',
    Bool.not_eq_true]

/-- **Names of classes.** The name of a class is an identifier and no keyword exactly when the first
letter or digit in the name of its entity is no digit, and the name of the class is none of the
keywords that have a capital. With a suffix of five characters or more it never is one of these. -/
theorem isUsable_className_iff (entity : String) (naming : Settings) :
    (IsUsable (className entity naming) ↔
      ¬BeginsWithDigit entity ∧ className entity naming ∉ ["False", "None", "True"]) ∧
    (5 ≤ naming.classSuffix.val.length → className entity naming ∉ ["False", "None", "True"]) := by
  constructor
  · exact and_congr isIdentifier_className mem_moduleKeywords_className.not
  · intro hsuffix hmem
    have hshort : ∀ word ∈ ["False", "None", "True"], word.length ≤ 5 := by
      decide
    obtain ⟨c, rest, -, -, hname, -⟩ := exists_toList_className entity naming
    have hlength := congrArg List.length hname
    rw [String.length_toList, List.length_cons, List.length_append, String.length_toList] at hlength
    have hle := hshort _ hmem
    omega

/-- A name whose digits stand behind letters. -/
theorem isUsable_className_second :
    5 ≤ (Settings.classSuffix {}).val.length ∧ IsUsable (className "(second) factor 2" {}) := by
  obtain ⟨husable, hsuffix⟩ := isUsable_className_iff "(second) factor 2" {}
  have hlong : 5 ≤ (Settings.classSuffix {}).val.length := by decide
  exact ⟨hlong, husable.mpr ⟨by decide +kernel, hsuffix hlong⟩⟩

/-- A suffix can complete the name of an entity to a keyword. -/
example : className "fal" { classSuffix := ⟨"se", by decide⟩ } = "False" := by decide +kernel

/-- A declaration whose name begins with a digit. -/
def factor : List DeclarationInput :=
  [.declared { name := "2fa", table := "two_factor", fields :=
    [{ name := "id", columnType := some .int, isKey := true }] }]

/-- A successful batch with a class whose name is no identifier. -/
theorem not_isUsable_className_factor :
    ∃ report, (Batch.generate {} factor).result = .ok report ∧ report.isSuccess = true ∧
      ∃ a ∈ report.artifacts, className a.entity report.settings = "2FaDatabaseModel" ∧
        ¬IsUsable (className a.entity report.settings) := by
  obtain ⟨report, hreport⟩ := isOk_iff.mp
    (by decide +kernel : (Batch.generate {} factor).result.isOk = true)
  have hverdict : (Batch.generate {} factor).result.toOption.map (fun r =>
      (r.isSuccess, r.artifacts.head?.map fun a => className a.entity r.settings)) =
        some (true, some "2FaDatabaseModel") := by
    decide +kernel
  rw [hreport] at hverdict
  obtain ⟨hsuccess, hverdict⟩ := Prod.mk.inj (Option.some.inj hverdict)
  obtain ⟨a, ha, hname⟩ := Option.map_eq_some_iff.mp hverdict
  refine ⟨report, hreport, hsuccess, a, List.mem_of_head? ha, hname, ?_⟩
  rw [hname]
  decide +kernel

end Render

end SqlMapping
