import Mathlib.Data.List.Induction
import Mathlib.Data.List.Perm.Subperm
import SqlMapping.CommandLine.Session
import SqlMapping.Proofs.Result
import SqlMapping.Proofs.Text.Words

/-!
# The files of an output

The modules of a batch are written to files that are named after the entities in snake case. Of
several texts for one file the last one stays, so an output keeps every entity exactly when no two
entities share a file name, that is when the segments of their names differ in more than case
(`keepsEveryEntity_iff`). Names and tables that differ are not enough for that.
-/

namespace SqlMapping

open SqlMapping.Text

/-! ## Texts by name -/

namespace Files

/-- A text for a name leaves the names as they are, or adds its own at the end. -/
lemma map_fst_putText (name content : String) (files : List (String × String)) :
    (putText name content files).map Prod.fst =
      if name ∈ files.map Prod.fst then files.map Prod.fst else files.map Prod.fst ++ [name] := by
  induction files with
  | nil => rfl
  | cons file rest ih =>
    obtain ⟨key, old⟩ := file
    rw [putText]
    by_cases hkey : key = name
    · simp [hkey]
    · have hname : ¬name = key := fun heq => hkey heq.symm
      rw [if_neg hkey, List.map_cons, ih]
      split_ifs <;> simp_all

/-- A text for a new name stands at the end. -/
lemma putText_eq_concat {name content : String} {files : List (String × String)}
    (h : name ∉ files.map Prod.fst) : putText name content files = files ++ [(name, content)] := by
  induction files with
  | nil => rfl
  | cons file rest ih =>
    obtain ⟨key, old⟩ := file
    rw [List.map_cons, List.mem_cons, not_or] at h
    rw [putText, if_neg fun heq => h.1 heq.symm, ih h.2]
    rfl

/-- The last text of a list is put into those before it. -/
lemma distinctFiles_concat (files : List (String × String)) (name content : String) :
    distinctFiles (files ++ [(name, content)]) = putText name content (distinctFiles files) := by
  rw [distinctFiles, List.foldl_append]
  rfl

/-- Distinct files have distinct names, those of the list. -/
lemma names_distinctFiles (files : List (String × String)) :
    ((distinctFiles files).map Prod.fst).Nodup ∧
      ∀ name, name ∈ (distinctFiles files).map Prod.fst ↔ name ∈ files.map Prod.fst := by
  induction files using List.reverseRecOn with
  | nil => exact ⟨List.nodup_nil, fun name => Iff.rfl⟩
  | append_singleton files file ih =>
    obtain ⟨name, content⟩ := file
    obtain ⟨hnodup, hsame⟩ := ih
    rw [distinctFiles_concat, map_fst_putText]
    split_ifs with hmem
    · refine ⟨hnodup, fun other => ?_⟩
      have hother : other = name → other ∈ files.map Prod.fst := by
        rintro rfl
        exact (hsame other).mp hmem
      rw [hsame other, List.map_append, List.mem_append, List.map_singleton, List.mem_singleton]
      exact ⟨Or.inl, fun h => h.elim id hother⟩
    · refine ⟨List.nodup_append.mpr ⟨hnodup, List.nodup_singleton name, ?_⟩, fun other => ?_⟩
      · rintro other hother last hlast rfl
        exact hmem (List.mem_singleton.mp hlast ▸ hother)
      · rw [List.map_append, List.mem_append, List.mem_append, hsame other]
        rfl

/-- Files with distinct names stay as they are. -/
lemma distinctFiles_eq_self {files : List (String × String)} (h : (files.map Prod.fst).Nodup) :
    distinctFiles files = files := by
  induction files using List.reverseRecOn with
  | nil => rfl
  | append_singleton files file ih =>
    obtain ⟨name, content⟩ := file
    rw [List.map_append, List.nodup_append] at h
    obtain ⟨hnodup, -, hdiffer⟩ := h
    rw [distinctFiles_concat, ih hnodup]
    refine putText_eq_concat fun hmem => ?_
    exact hdiffer name hmem name (by simp) rfl

/-- No file of a list is replaced exactly when their names are distinct. -/
lemma length_distinctFiles_eq_iff {files : List (String × String)} :
    (distinctFiles files).length = files.length ↔ (files.map Prod.fst).Nodup := by
  constructor
  · intro hlength
    obtain ⟨hnodup, hsame⟩ := names_distinctFiles files
    have hsub := hnodup.subperm fun name => (hsame name).mp
    have hperm := hsub.perm_of_length_le (by rw [List.length_map, List.length_map, hlength])
    exact hperm.nodup_iff.mp hnodup
  · intro hnodup
    rw [distinctFiles_eq_self hnodup]

/-- Among files with distinct names, the text of a file is found by its name. -/
lemma lookup_of_mem {files : List (String × String)} (h : (files.map Prod.fst).Nodup)
    {name content : String} (hmem : (name, content) ∈ files) :
    files.lookup name = some content := by
  induction files with
  | nil => exact absurd hmem List.not_mem_nil
  | cons file rest ih =>
    obtain ⟨key, old⟩ := file
    rw [List.map_cons, List.nodup_cons] at h
    rcases List.mem_cons.mp hmem with heq | hrest
    · cases heq
      exact List.lookup_cons_self
    · have hne : (name == key) = false := by
        rw [beq_eq_false_iff_ne]
        rintro rfl
        exact h.1 (List.mem_map.mpr ⟨_, hrest, rfl⟩)
      rw [List.lookup_cons, hne]
      exact ih h.2 hrest

end Files

/-! ## File names -/

/-- The segments that the file name of an entity is made of: those of its name in lower case, or the
word `entity` in place of none. -/
def fileSegments (entity : String) : List (List Char) :=
  if foldedSegments entity = [] then ["entity".toList] else foldedSegments entity

/-- A file name is the snake case of a name with these segments, and an ending. -/
lemma exists_fileName_eq (entity : String) :
    ∃ name, Render.fileName entity = snakeCase name ++ "_database_model.py" ∧
      fileSegments entity = foldedSegments name := by
  have hempty : snakeCase entity = "" ↔ foldedSegments entity = [] := snakeCase_eq_iff (b := "")
  rw [Render.fileName, fileSegments]
  by_cases hnil : foldedSegments entity = []
  · exact ⟨"entity", by rw [if_pos (hempty.mpr hnil)]; rfl, by rw [if_pos hnil]; rfl⟩
  · exact ⟨entity, by rw [if_neg (hempty.not.mpr hnil)], if_neg hnil⟩

/-- Two entities have the same file name exactly when it is made of the same segments. -/
lemma fileName_eq_iff {a b : String} :
    Render.fileName a = Render.fileName b ↔ fileSegments a = fileSegments b := by
  obtain ⟨name, hname, hsegments⟩ := exists_fileName_eq a
  obtain ⟨other, hother, hsegments'⟩ := exists_fileName_eq b
  rw [hname, hother, hsegments, hsegments', String.append_left_inj, snakeCase_eq_iff]

/-- The package file is not that of an entity. -/
lemma fileName_ne_package (entity : String) : Render.fileName entity ≠ "__init__.py" := by
  intro heq
  obtain ⟨name, hname, -⟩ := exists_fileName_eq entity
  have hlength := congrArg String.length (hname.symm.trans heq)
  rw [String.length_append] at hlength
  have hshort : "__init__.py".length < "_database_model.py".length := by decide
  omega

/-! ## Outputs -/

namespace CommandLine

variable {report : BatchReport}

/-- An output of modules that keeps every entity: it has one file for each entity and the package
file, and the file that is named after an entity holds its module. -/
structure KeepsEveryEntity (report : BatchReport) : Prop where
  /-- There is one file more than there are entities. -/
  length : (outputFiles .modules report.artifacts report.settings).length =
    report.artifacts.length + 1
  /-- The package file is there. -/
  package : (outputFiles .modules report.artifacts report.settings).lookup "__init__.py" =
    some packageText
  /-- The module of each entity is in the file that is named after it. -/
  modules : ∀ a ∈ report.artifacts,
    (outputFiles .modules report.artifacts report.settings).lookup (Render.fileName a.entity) =
      some (Render.moduleText a report.settings)

/-- The names for which an output of modules has texts. -/
lemma map_fst_modules (report : BatchReport) :
    (("__init__.py", packageText) :: report.artifacts.map fun a =>
      (Render.fileName a.entity, Render.moduleText a report.settings)).map Prod.fst =
        "__init__.py" :: report.artifacts.map fun a => Render.fileName a.entity := by
  rw [List.map_cons, List.map_map]
  rfl

/-- The names of files are distinct exactly when the segments that they are made of are. -/
lemma nodup_fileNames_iff {entities : List Artifacts} :
    ("__init__.py" :: entities.map fun a => Render.fileName a.entity).Nodup ↔
      (entities.map fun a => fileSegments a.entity).Nodup := by
  have hpackage : "__init__.py" ∉ entities.map fun a => Render.fileName a.entity := by
    intro hmem
    obtain ⟨a, -, ha⟩ := List.mem_map.mp hmem
    exact fileName_ne_package a.entity ha
  rw [List.nodup_cons, and_iff_right hpackage]
  simp only [List.Nodup, List.pairwise_map, ne_eq, fileName_eq_iff]

/-- An output with one file for each entity names them by distinct segments. -/
lemma nodup_fileSegments_of_length
    (h : (outputFiles .modules report.artifacts report.settings).length =
      report.artifacts.length + 1) :
    (report.artifacts.map fun a => fileSegments a.entity).Nodup := by
  rw [← nodup_fileNames_iff, ← map_fst_modules, ← Files.length_distinctFiles_eq_iff,
    List.length_cons, List.length_map]
  exact h

/-- **Which outputs keep every entity.** The modules of a report are written to one file each exactly
when the segments of the names of its entities differ in more than case. -/
theorem keepsEveryEntity_iff (report : BatchReport) :
    KeepsEveryEntity report ↔ (report.artifacts.map fun a => fileSegments a.entity).Nodup := by
  refine ⟨fun hkeeps => nodup_fileSegments_of_length hkeeps.length, fun hnodup => ?_⟩
  rw [← nodup_fileNames_iff, ← map_fst_modules] at hnodup
  have hfiles : outputFiles .modules report.artifacts report.settings =
      ("__init__.py", packageText) :: report.artifacts.map fun a =>
        (Render.fileName a.entity, Render.moduleText a report.settings) :=
    Files.distinctFiles_eq_self hnodup
  constructor
  · rw [hfiles, List.length_cons, List.length_map]
  · rw [hfiles]
    exact Files.lookup_of_mem hnodup List.mem_cons_self
  · intro a ha
    rw [hfiles]
    exact Files.lookup_of_mem hnodup (List.mem_cons_of_mem _ (List.mem_map.mpr ⟨a, ha, rfl⟩))

/-- Declarations of two entities with distinct tables whose names have the same segments. -/
def profiles : List DeclarationInput :=
  [.declared { name := "UserProfile", fields :=
    [{ name := "id", columnType := some .int, isKey := true }] },
   .declared { name := "user_profile", fields :=
    [{ name := "id", columnType := some .int, isKey := true }] }]

/-- A successful batch whose output loses an entity. -/
theorem not_keepsEveryEntity_profiles :
    ∃ report, (Batch.generate {} profiles).result = .ok report ∧ report.isSuccess = true ∧
      ¬KeepsEveryEntity report := by
  obtain ⟨report, hreport⟩ := isOk_iff.mp
    (by decide +kernel : (Batch.generate {} profiles).result.isOk = true)
  have hverdict : (Batch.generate {} profiles).result.toOption.map (fun r =>
      (r.isSuccess, r.artifacts.map fun a => fileSegments a.entity)) =
        some (true, [["user".toList, "profile".toList], ["user".toList, "profile".toList]]) := by
    decide +kernel
  rw [hreport] at hverdict
  obtain ⟨hsuccess, hsegments⟩ := Prod.mk.inj (Option.some.inj hverdict)
  refine ⟨report, hreport, hsuccess, fun hkeeps => ?_⟩
  have hnodup := nodup_fileSegments_of_length hkeeps.length
  rw [hsegments] at hnodup
  exact absurd hnodup (by decide)

end CommandLine

end SqlMapping
