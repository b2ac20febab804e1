import SqlMapping.Proofs.CommandLine.OutputFiles
import SqlMapping.Proofs.Text.WordPattern

/-!
# Safe file names

The module of an entity is written to a file that is named after the entity. Snake case, which is
made by substitutions, loses no letter or digit of the name, nor do its words, which are found by an
alternation (`KeepsLetters`). What snake case puts between them is an underscore. So whatever the
name of the entity is, its file stands in the output directory itself, has the ending of a module and
no other, and is not the package file (`fileName_isSafe`).
-/

namespace SqlMapping.CommandLine

open SqlMapping.Text

/-- Snake case and words, as they are made and found by patterns, show the letters and digits of a
name and no other character of it. -/
structure KeepsLetters (name : String) : Prop where
  /-- The snake case is made by the five substitutions. -/
  substitutions : snakeCase name = substituted name
  /-- The snake case is empty or consists of groups that are joined by single underscores. -/
  groups : ∃ groups, (∀ group ∈ groups, IsGroup group) ∧
    (snakeCase name).toList = ['_'].intercalate groups
  /-- The snake case is the snake case of itself. -/
  stable : snakeCase (snakeCase name) = snakeCase name
  /-- Between its underscores stand the letters and digits of the name in lower case. -/
  letters : (snakeCase name).toList.filter (· ≠ '_') =
    (name.toList.filter Char.isAlphanum).map Char.toLower
  /-- The words are found by the alternation. -/
  matched : words name = matchedWords name
  /-- The words show the same characters. -/
  joined : String.join (words name) =
    String.ofList ((snakeCase name).toList.filter (· ≠ '_'))

/-- A file name without separators, with no ending but that of a module, and not that of the package
file. -/
structure IsSafe (fileName : String) : Prop where
  /-- There is no separator in the name. -/
  separators : '/' ∉ fileName.toList ∧ '\\' ∉ fileName.toList
  /-- The only dot is that of the ending. -/
  ending : ∃ base, fileName = base ++ ".py" ∧ '.' ∉ base.toList
  /-- The package file has another name. -/
  package : fileName ≠ "__init__.py"

/-- Separators and dots are no characters of a snake case. -/
lemma not_mem_snakeCase {c : Char} (hc : c ∈ ['/', '\\', '.']) (name : String) :
    c ∉ (snakeCase name).toList := by
  have hseparated : ∀ d ∈ (snakeCase name).toList, d ∉ ['/', '\\', '.'] :=
    forall_mem_snakeCase (p := (· ∉ ['/', '\\', '.'])) (by decide)
      (fun d => of_isAlphanum (p := fun d => d.toLower ∉ ['/', '\\', '.']) (by decide)) name
  exact fun hmem => hseparated c hmem hc

/-- The file of an entity has a safe name. -/
lemma isSafe_fileName (entity : String) : IsSafe (Render.fileName entity) := by
  obtain ⟨name, hname, -⟩ := exists_fileName_eq entity
  have hwithout {c : Char} (hc : c ∈ ['/', '\\', '.']) {ending : String}
      (hending : c ∉ ending.toList) : c ∉ (snakeCase name ++ ending).toList := by
    rw [String.toList_append, List.mem_append, not_or]
    exact ⟨not_mem_snakeCase hc name, hending⟩
  refine ⟨?_, ⟨snakeCase name ++ "_database_model", ?_, hwithout (by decide) (by decide)⟩,
    fileName_ne_package entity⟩
  · rw [hname]
    exact ⟨hwithout (by decide) (by decide), hwithout (by decide) (by decide)⟩
  · rw [hname, String.append_assoc]
    rfl

/-- **Names become safe file names.** Snake case loses no letter or digit of a name, whatever its
characters are, and the file that is named after an entity has a safe name. -/
theorem fileName_isSafe (name : String) :
    KeepsLetters name ∧ IsSafe (Render.fileName name) := by
  have hletters := filter_snakeCase name
  have hkeeps : KeepsLetters name :=
    ⟨snakeCase_eq_substituted name, exists_groups_snakeCase name, snakeCase_snakeCase name, hletters,
      words_eq_matchedWords name, by rw [join_words, hletters]⟩
  exact ⟨hkeeps, isSafe_fileName name⟩

end SqlMapping.CommandLine
