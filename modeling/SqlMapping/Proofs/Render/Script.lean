import SqlMapping.Proofs.Batch.Accounting
import SqlMapping.Proofs.Statement.OneStatement
import SqlMapping.Proofs.Text.Lines
import SqlMapping.Render.Script

/-!
# What a script holds

The script of a batch is to hold the statements that create the tables, one for each entity, and
nothing else (`HoldsOnlyTables`). The statements are whole whatever their names and defaults are.
But the name of an entity is written as it is into a comment, and a line feed in the name ends the
comment: what follows the line feed is code of the script (`nameCode`).

A script holds nothing else when no name has a line feed. In general, as long as the code of no name
leaves a quote open, it is exactly the code of a name that has to be inert, that is, to consist of
blanks and semicolons (`holdsOnlyTables_iff`). A name that is not inert is a statement of its own,
or a part of one, also in a batch that is reported as a success (`not_holdsOnlyTables_dropped`).
-/

namespace SqlMapping.Render

open SqlMapping.Text SqlMapping.Sql

/-- A script holds the statements that create the tables, in the order of the entities, and nothing
else. -/
def HoldsOnlyTables (units : List Artifacts) : Prop :=
  scriptStatements (script units) = units.map Artifacts.createTable

/-- What a script holds of the comment with a name, and the state behind its line. -/
def nameCode (entity : String) : List Char × ScriptState :=
  readCode .comment (entity.toList ++ ['\n'])

/-- The code of a name leaves no quote open. -/
def ClosesQuotes (entity : String) : Prop :=
  (nameCode entity).2 = .code none

/-- The code of a name consists of blanks and semicolons. -/
def IsInert (entity : String) : Prop :=
  ∀ c ∈ (nameCode entity).1, isBlank c = true ∨ c = ';'

instance (entity : String) : Decidable (ClosesQuotes entity) :=
  inferInstanceAs (Decidable ((nameCode entity).2 = _))

instance (entity : String) : Decidable (IsInert entity) :=
  List.decidableBAll _ (nameCode entity).1

/-- A name without line feeds is a comment to its end. -/
lemma nameCode_of_noLineFeed {entity : String} (h : '\n' ∉ entity.toList) :
    nameCode entity = (['\n'], .code none) := by
  rw [nameCode]
  generalize entity.toList = name at h
  induction name with
  | nil => rfl
  | cons c name ih =>
    rw [List.mem_cons, not_or] at h
    rw [List.cons_append, readCode, if_neg (Ne.symm h.1)]
    exact ih h.2

/-! ## The text of a script -/

/-- The text on one entity. -/
def unitText (a : Artifacts) : List Char :=
  "\n-- ".toList ++ ((a.entity.toList ++ ['\n']) ++ (a.createTable.toList ++ [';', '\n']))

/-- Joined lines have a line feed in front of each but the first. -/
lemma toList_joinLines (first : String) (lines : List String) :
    (joinLines (first :: lines)).toList =
      first.toList ++ lines.flatMap fun line => '\n' :: line.toList := by
  induction lines generalizing first with
  | nil => simp [joinLines]
  | cons second lines ih =>
    rw [toList_joinLines_cons_cons, ih second]
    rfl

/-- A script is its heading with the texts on the entities. -/
lemma toList_script (units : List Artifacts) :
    (script units).toList = "-- Generated by EntityMap\n".toList ++ units.flatMap unitText := by
  have hunit : ∀ a : Artifacts,
      ((scriptLines a).flatMap fun line => '\n' :: line.toList) = unitText a := by
    intro a
    have hlines : scriptLines a = ["-- " ++ a.entity, a.createTable ++ ";", ""] := rfl
    simp [hlines, unitText]
  rw [script, toList_joinLines, List.flatMap_cons, List.flatMap_assoc]
  simp [hunit]

/-! ## The code of a script -/

/-- The code of the text on one entity. -/
def unitCode (a : Artifacts) : List Char :=
  ('\n' :: (nameCode a.entity).1) ++ (a.createTable.toList ++ [';', '\n'])

/-- The table of an entity is created by the statement of a schema. -/
def CreatesTable (a : Artifacts) : Prop :=
  ∃ s : Schema, s.createTable = .ok a.createTable

variable {units : List Artifacts} {a : Artifacts}

/-- The code of the text on one entity. -/
lemma readCode_unitText (hcreates : CreatesTable a) (hcloses : ClosesQuotes a.entity)
    (rest : List Char) :
    readCode (.code none) (unitText a ++ rest) =
      (unitCode a ++ (readCode (.code none) rest).1, (readCode (.code none) rest).2) := by
  obtain ⟨s, hs⟩ := hcreates
  have hstart : ∀ cs, readCode (.code none) ("\n-- ".toList ++ cs) =
      ('\n' :: (readCode .comment cs).1, (readCode .comment cs).2) := fun _ => rfl
  have hend : readCode (.code none) (';' :: '\n' :: rest) =
      (';' :: '\n' :: (readCode (.code none) rest).1, (readCode (.code none) rest).2) := rfl
  have htable : readCode (.code none) (a.createTable.toList ++ ';' :: '\n' :: rest) =
      (a.createTable.toList ++ ';' :: '\n' :: (readCode (.code none) rest).1,
        (readCode (.code none) rest).2) := by
    rw [readCode_append _ _ (by simp), (isWhole_createTable hs).code, hend]
  have hhead : (a.createTable.toList ++ ';' :: '\n' :: rest).head? ≠ some '-' := by
    rw [List.head?_append, head_createTable hs, Option.some_or]
    decide
  have hunit : unitText a ++ rest = "\n-- ".toList ++
      ((a.entity.toList ++ ['\n']) ++ (a.createTable.toList ++ ';' :: '\n' :: rest)) := by
    simp [unitText]
  have hname : readCode .comment (a.entity.toList ++ ['\n']) =
      ((nameCode a.entity).1, .code none) := Prod.ext rfl hcloses
  rw [hunit, hstart, readCode_append _ _ hhead, hname, htable, unitCode]
  simp

/-- The code of a script is that of the texts on its entities. -/
lemma readCode_script (hcreates : ∀ a ∈ units, CreatesTable a)
    (hcloses : ∀ a ∈ units, ClosesQuotes a.entity) :
    (readCode (.code none) (script units).toList).1 = '\n' :: units.flatMap unitCode := by
  have hunits : readCode (.code none) (units.flatMap unitText) =
      (units.flatMap unitCode, .code none) := by
    induction units with
    | nil => rfl
    | cons a units ih =>
      have hrest := ih (fun b hb => hcreates b (List.mem_cons_of_mem _ hb))
        fun b hb => hcloses b (List.mem_cons_of_mem _ hb)
      rw [List.flatMap_cons, List.flatMap_cons, readCode_unitText (hcreates a List.mem_cons_self)
        (hcloses a List.mem_cons_self), hrest]
  have hheading : ∀ cs, readCode (.code none) ("-- Generated by EntityMap\n".toList ++ cs) =
      ('\n' :: (readCode (.code none) cs).1, (readCode (.code none) cs).2) := fun _ => rfl
  rw [toList_script, hheading, hunits]

/-! ## The statements of a script -/

/-- Inert names leave a script with the statements that create the tables. -/
lemma holdsOnlyTables_of_isInert (hcreates : ∀ a ∈ units, CreatesTable a)
    (hcloses : ∀ a ∈ units, ClosesQuotes a.entity) (hinert : ∀ a ∈ units, IsInert a.entity) :
    HoldsOnlyTables units := by
  have hfeed : ∀ c ∈ ['\n'], isBlank c = true ∨ c = ';' :=
    List.forall_mem_singleton.mpr (Or.inl rfl)
  have hpieces : nonblank (cut none (units.flatMap unitCode)) =
      units.map fun a => a.createTable.toList := by
    clear hcloses
    induction units with
    | nil => rfl
    | cons a units ih =>
      obtain ⟨s, hs⟩ := hcreates a List.mem_cons_self
      have hrest := ih (fun b hb => hcreates b (List.mem_cons_of_mem _ hb))
        fun b hb => hinert b (List.mem_cons_of_mem _ hb)
      have hname : ∀ c ∈ '\n' :: (nameCode a.entity).1, isBlank c = true ∨ c = ';' :=
        List.forall_mem_cons.mpr ⟨hfeed _ List.mem_cons_self, hinert a List.mem_cons_self⟩
      have htrim := trimWith_createTable hs
      have hne : trimWith isBlank a.createTable.toList ≠ [] := by
        intro hnil
        have hhead := head_createTable hs
        rw [htrim] at hnil
        rw [hnil] at hhead
        exact absurd hhead (by simp)
      have hunit : unitCode a ++ units.flatMap unitCode =
          ('\n' :: (nameCode a.entity).1) ++
            (a.createTable.toList ++ ';' :: (['\n'] ++ units.flatMap unitCode)) := by
        simp [unitCode]
      rw [List.flatMap_cons, hunit, nonblank_cut_of_inert hname,
        (isWhole_createTable hs).cut_append, nonblank_cons_of_ne_nil _ hne, htrim,
        nonblank_cut_of_inert hfeed, hrest, List.map_cons]
  rw [HoldsOnlyTables, scriptStatements, readCode_script hcreates hcloses,
    ← List.singleton_append, nonblank_cut_of_inert hfeed, hpieces, List.map_map]
  refine List.map_congr_left fun a _ => ?_
  exact String.ofList_toList

/-- A line feed has no weight. -/
lemma weight_lineFeed (cs : List Char) : weight none ('\n' :: cs) = weight none cs :=
  (weight_cons none '\n' cs).trans (Nat.zero_add _)

/-- The weight of the code of a script: that of the codes of the names, and that of the statements.
-/
lemma weight_flatMap_unitCode (hcreates : ∀ a ∈ units, CreatesTable a)
    (hcloses : ∀ a ∈ units, ClosesQuotes a.entity) :
    weight none (units.flatMap unitCode) =
      (units.map fun a => weight none (nameCode a.entity).1).sum +
        (units.map fun a => visible a.createTable.toList).sum := by
  induction units with
  | nil => rfl
  | cons a units ih =>
    obtain ⟨s, hs⟩ := hcreates a List.mem_cons_self
    have hrest := ih (fun b hb => hcreates b (List.mem_cons_of_mem _ hb))
      fun b hb => hcloses b (List.mem_cons_of_mem _ hb)
    have hwhole := isWhole_createTable hs
    have hname : (nameCode a.entity).1.foldl scriptQuoteAfter none = none := by
      have hfold := foldl_readCode .comment (a.entity.toList ++ ['\n'])
      have hstate : (readCode .comment (a.entity.toList ++ ['\n'])).2 = .code none :=
        hcloses a List.mem_cons_self
      rw [hstate] at hfold
      exact hfold
    have hunit : unitCode a ++ units.flatMap unitCode =
        '\n' :: ((nameCode a.entity).1 ++ (a.createTable.toList ++
          ';' :: '\n' :: units.flatMap unitCode)) := by
      simp [unitCode]
    have hsemicolon : ∀ cs, weight none (';' :: cs) = weight none cs :=
      fun cs => weight_cons none ';' cs
    rw [List.flatMap_cons, hunit, weight_lineFeed, weight_append, hname, weight_append,
      hwhole.weight_eq, hwhole.foldl_eq_none, hsemicolon, weight_lineFeed, hrest, List.map_cons,
      List.map_cons, List.sum_cons, List.sum_cons]
    omega

/-- A script that holds nothing but the statements has inert names. -/
lemma isInert_of_holdsOnlyTables (hcreates : ∀ a ∈ units, CreatesTable a)
    (hcloses : ∀ a ∈ units, ClosesQuotes a.entity) (h : HoldsOnlyTables units) :
    ∀ a ∈ units, IsInert a.entity := by
  have hpieces : nonblank (cut none ('\n' :: units.flatMap unitCode)) =
      units.map fun a => a.createTable.toList := by
    have htexts := congrArg (List.map String.toList) h
    rw [scriptStatements, readCode_script hcreates hcloses, List.map_map, List.map_map] at htexts
    simpa [Function.comp_def] using htexts
  -- the statements have the visible characters of the script, so nothing is left for the names
  have hweight : weight none (units.flatMap unitCode) =
      (units.map fun a => visible a.createTable.toList).sum := by
    rw [← weight_lineFeed, weight, ← sum_visible_nonblank, hpieces, List.map_map]
    rfl
  have hnames : (units.map fun a => weight none (nameCode a.entity).1).sum = 0 := by
    rw [weight_flatMap_unitCode hcreates hcloses] at hweight
    omega
  intro a ha
  exact inert_of_weight_eq_zero
    (List.sum_eq_zero_iff_forall_eq_nat.mp hnames _ (List.mem_map.mpr ⟨a, ha, rfl⟩))

/-! ## The scripts of batches -/

/-- The table of every entity of a report is created by the statement of a schema. -/
lemma createsTable_of_generate {settings : Settings} {declarations : List DeclarationInput}
    {report : BatchReport} (h : (Batch.generate settings declarations).result = .ok report) :
    ∀ a ∈ report.artifacts, CreatesTable a := by
  intro a ha
  obtain ⟨entity, hentity, rfl⟩ := List.mem_map.mp ha
  obtain ⟨contributions, -, hcollects⟩ := Batch.collects_of_generate h
  obtain ⟨index, -, hcontributes⟩ := hcollects.mem_built_iff.mp hentity
  obtain ⟨d, -, hbuild⟩ := (Batch.contributes_built_iff.mp hcontributes).1
  obtain ⟨declared, -, hbuild⟩ := DeclarationInput.build_eq_ok.mp hbuild
  have hgenerate := (EntityDeclaration.build_eq_ok.mp hbuild).2
  exact ⟨entity.schema, (Schema.generate_spec hgenerate).2.2.1⟩

/-- **What scripts hold.** The script of a report holds the statements that create its tables and
nothing else if no name of an entity has a line feed. Names with line feeds whose code leaves no
quote open are harmless exactly when that code consists of blanks and semicolons. Names of tables
and columns, defaults and references may be any texts. -/
theorem holdsOnlyTables_iff {settings : Settings} {declarations : List DeclarationInput}
    {report : BatchReport} (h : (Batch.generate settings declarations).result = .ok report) :
    ((∀ a ∈ report.artifacts, '\n' ∉ a.entity.toList) → HoldsOnlyTables report.artifacts) ∧
      ((∀ a ∈ report.artifacts, ClosesQuotes a.entity) →
        (HoldsOnlyTables report.artifacts ↔ ∀ a ∈ report.artifacts, IsInert a.entity)) := by
  have hcreates := createsTable_of_generate h
  refine ⟨fun hnames => ?_, fun hcloses => ?_⟩
  · refine holdsOnlyTables_of_isInert hcreates (fun a ha => ?_) fun a ha => ?_
    · rw [ClosesQuotes, nameCode_of_noLineFeed (hnames a ha)]
    · rw [IsInert, nameCode_of_noLineFeed (hnames a ha)]
      exact List.forall_mem_singleton.mpr (Or.inl rfl)
  · exact ⟨isInert_of_holdsOnlyTables hcreates hcloses,
      holdsOnlyTables_of_isInert hcreates hcloses⟩

/-- Declarations with quotes, dashes, semicolons and line feeds in the names of the entities, of a
column and of a reference, and in a default. -/
def notes : List DeclarationInput :=
  [.declared { name := "it's -- a `note`", table := "note", fields :=
    [{ name := "id", columnType := some .int, isKey := true },
     { name := "`; -- ", columnType := some .varChar, default := some (.text "';--\n\"") }] },
   .declared { name := "Remark\n ; ", table := "remark", fields :=
    [{ name := "id", columnType := some .int, isKey := true,
       reference := some { table := "a`;\n", column := "'" } }] }]

/-- A script with an inert line feed in a name. -/
theorem holdsOnlyTables_notes :
    ∃ report, (Batch.generate {} notes).result = .ok report ∧
      (∀ a ∈ report.artifacts, ClosesQuotes a.entity) ∧ HoldsOnlyTables report.artifacts := by
  obtain ⟨report, hreport⟩ := isOk_iff.mp
    (by decide +kernel : (Batch.generate {} notes).result.isOk = true)
  have hnames : (Batch.generate {} notes).result.toOption.map (fun r =>
      r.artifacts.all fun a => decide (ClosesQuotes a.entity ∧ IsInert a.entity)) =
        some true := by
    decide +kernel
  rw [hreport] at hnames
  have hall := List.all_eq_true.mp (Option.some.inj hnames)
  have hcloses : ∀ a ∈ report.artifacts, ClosesQuotes a.entity :=
    fun a ha => (of_decide_eq_true (hall a ha)).1
  have hinert : ∀ a ∈ report.artifacts, IsInert a.entity :=
    fun a ha => (of_decide_eq_true (hall a ha)).2
  exact ⟨report, hreport, hcloses, ((holdsOnlyTables_iff hreport).2 hcloses).mpr hinert⟩

/-- A declaration whose name holds a statement of its own. -/
def dropped : List DeclarationInput :=
  [.declared { name := "Order\nDROP TABLE customers;", table := "orders", fields :=
    [{ name := "id", columnType := some .int, isKey := true },
     { name := "total", columnType := some .int }] }]

/-- A successful batch whose script holds a statement that creates no table. -/
theorem not_holdsOnlyTables_dropped :
    ∃ report, (Batch.generate {} dropped).result = .ok report ∧ report.isSuccess = true ∧
      scriptStatements (script report.artifacts) = ["DROP TABLE customers",
        "CREATE TABLE `orders` (`id` INT PRIMARY KEY , `total` INT )"] ∧
      ¬HoldsOnlyTables report.artifacts := by
  obtain ⟨report, hreport⟩ := isOk_iff.mp
    (by decide +kernel : (Batch.generate {} dropped).result.isOk = true)
  have hverdict : (Batch.generate {} dropped).result.toOption.map (fun r =>
      (r.isSuccess, scriptStatements (script r.artifacts), r.artifacts.map Artifacts.createTable)) =
        some (true, ["DROP TABLE customers",
            "CREATE TABLE `orders` (`id` INT PRIMARY KEY , `total` INT )"],
          ["CREATE TABLE `orders` (`id` INT PRIMARY KEY , `total` INT )"]) := by
    decide +kernel
  rw [hreport] at hverdict
  obtain ⟨hsuccess, hverdict⟩ := Prod.mk.inj (Option.some.inj hverdict)
  obtain ⟨hstatements, htables⟩ := Prod.mk.inj hverdict
  refine ⟨report, hreport, hsuccess, hstatements, ?_⟩
  rw [HoldsOnlyTables, hstatements, htables]
  decide

end SqlMapping.Render
