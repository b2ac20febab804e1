import SqlMapping.Proofs.CommandLine.OutputFiles
import SqlMapping.Proofs.CommandLine.Session
import SqlMapping.Proofs.Files.Write

/-!
# What a session writes

A session leaves the files alone unless the batch of its request has gone well and its artifacts are
to be written. Then the output directory comes to hold exactly these, unless the system fails to
write them, in three cases (`writesRightly_iff`). A directory that has the place of one of their
files stays, and the file is moved into it; a half of a surrogate pair in one of their texts ends
the session in the middle of writing; and a summary that cannot be printed ends it before.
-/

namespace SqlMapping.CommandLine

open SqlMapping.Files SqlMapping.Text

/-! ## The names of the files -/

/-- The name of the file of an entity is plain. -/
lemma isPlainName_fileName (entity : String) : IsPlainName (Render.fileName entity) := by
  obtain ⟨name, hname, -⟩ := exists_fileName_eq entity
  have hlong : FilePath.up.length < (Render.fileName entity).length := by
    have hshort : FilePath.up.length < "_database_model.py".length := by decide
    rw [hname, String.length_append]
    omega
  have hne : ∀ {other : String}, other.length ≤ FilePath.up.length →
      Render.fileName entity ≠ other := by
    rintro other hother rfl
    omega
  refine ⟨?_, hne (by decide), hne (by decide), hne (Nat.le_refl _)⟩
  rw [hname, String.toList_append, List.mem_append, not_or]
  have hletters : ∀ c ∈ (snakeCase name).toList, c ≠ '/' :=
    forall_mem_snakeCase (by decide) (fun c => of_isAlphanum (p := fun c => c.toLower ≠ '/')
      (by decide)) name
  exact ⟨fun hmem => hletters '/' hmem rfl, by decide⟩

/-- The names of files that no entity gives are plain. -/
lemma isPlainName_of_mem {name : String} (h : name ∈ ["schema.sql", "units.json", "__init__.py"]) :
    IsPlainName name := by
  have hall : ∀ name ∈ ["schema.sql", "units.json", "__init__.py"],
      '/' ∉ name.toList ∧ name ≠ "" ∧ name ≠ "." ∧ name ≠ FilePath.up := by
    decide
  obtain ⟨hslash, hempty, hhere, hup⟩ := hall name h
  exact ⟨hslash, hempty, hhere, hup⟩

variable {format : OutputFormat} {units : List Artifacts} {settings : Settings}

/-- The names of the files of an output are those that are given first or to an entity. -/
lemma mem_outputFiles_modules {file : String × String}
    (h : file ∈ outputFiles .modules units settings) :
    file.1 = "__init__.py" ∨ ∃ a ∈ units, file.1 = Render.fileName a.entity := by
  have hname := ((names_distinctFiles _).2 file.1).mp (List.mem_map_of_mem h)
  rw [List.map_cons, List.mem_cons, List.map_map] at hname
  refine hname.imp_right fun hmem => ?_
  obtain ⟨a, ha, hfile⟩ := List.mem_map.mp hmem
  exact ⟨a, ha, hfile.symm⟩

/-- The files of an output have plain names. -/
lemma isPlainName_of_mem_outputFiles {file : String × String}
    (h : file ∈ outputFiles format units settings) : IsPlainName file.1 := by
  cases format with
  | script =>
    obtain rfl := List.mem_singleton.mp h
    exact isPlainName_of_mem (by simp)
  | data =>
    obtain rfl := List.mem_singleton.mp h
    exact isPlainName_of_mem (by simp)
  | modules =>
    rcases mem_outputFiles_modules h with hname | ⟨a, -, hname⟩
    · exact isPlainName_of_mem (by simp [hname])
    · rw [hname]
      exact isPlainName_fileName a.entity

/-- The files of an output have distinct names. -/
lemma nodup_outputFiles (format : OutputFormat) (units : List Artifacts) (settings : Settings) :
    ((outputFiles format units settings).map Prod.fst).Nodup := by
  cases format with
  | script => exact List.nodup_singleton _
  | data => exact List.nodup_singleton _
  | modules => exact (names_distinctFiles _).1

/-- An output has a file. -/
lemma outputFiles_ne_nil (format : OutputFormat) (units : List Artifacts) (settings : Settings) :
    outputFiles format units settings ≠ [] := by
  cases format with
  | script => exact List.cons_ne_nil _ _
  | data => exact List.cons_ne_nil _ _
  | modules =>
    have hpackage := ((names_distinctFiles (("__init__.py", packageText) ::
      units.map fun a => (Render.fileName a.entity, Render.moduleText a settings))).2
        "__init__.py").mpr List.mem_cons_self
    intro hnil
    rw [outputFiles] at hnil
    rw [hnil] at hpackage
    exact absurd hpackage List.not_mem_nil

/-! ## The files after a session -/

variable {host : Host} {fs : FileSystem} {request : Request} {job : Job} {report : BatchReport}
  {output : FilePath}

/-- The batch of a request goes well. -/
structure GoesWell (host : Host) (fs : FileSystem) (request : Request) (job : Job)
    (report : BatchReport) : Prop where
  /-- The request can be used. -/
  prepares : Prepares host fs request job
  /-- There is a report on its batch. -/
  reports : (job.generate host).result = .ok report
  /-- The report is a success. -/
  isSuccess : report.isSuccess = true

/-- The files after a session, also after one that breaks off. -/
def filesAfter (host : Host) (fs : FileSystem) (request : Request) : FileSystem :=
  match (answer host fs request).result with
  | .ok ending => ending.system
  | .error b => b.system

/-- The session ends because the system has failed to write. -/
def FailsToWrite (host : Host) (fs : FileSystem) (request : Request) : Prop :=
  ∃ ending, (answer host fs request).result = .ok ending ∧ ending.status = .unwritten

/-- The files that a request asks for, when its batch has a report. -/
def Request.files (request : Request) (report : BatchReport) : List (String × String) :=
  outputFiles request.options.format report.artifacts report.settings

/-- A session writes what it is to write, and nothing else. -/
structure WritesRightly (host : Host) (fs : FileSystem) (request : Request) : Prop where
  /-- Nothing is changed unless the batch goes well, and when the request is only to validate. -/
  untouched : (∀ job report, ¬GoesWell host fs request job report) ∨
    request.options.validatesOnly = true → filesAfter host fs request = fs
  /-- The output directory comes to hold exactly the artifacts, unless the system fails to write. -/
  stored : ∀ {job report}, GoesWell host fs request job report →
    request.options.validatesOnly = false → ¬FailsToWrite host fs request →
      ∃ output, request.target fs = some output ∧
        HoldsExactly output.names (request.files report) fs (filesAfter host fs request)

/-- The artifacts of a batch can be written to a directory. -/
structure Fits (host : Host) (fs : FileSystem) (request : Request) (report : BatchReport)
    (output : FilePath) : Prop where
  /-- The summary can be printed, or the directory holds the artifacts already. -/
  prints : host.prints (report.summary host.elapsed) = true ∨
    HoldsExactly output.names (request.files report) fs fs
  /-- No half of a surrogate pair stands in the texts. -/
  whole : ∀ file ∈ request.files report, isWhole file.2 = true
  /-- No directory has the place of a file. -/
  free : ∀ file ∈ request.files report, ¬fs.root.IsDirectoryAt (output.names ++ [file.1])

/-- The directory that a request asks to write to is one from the root, to which no name leads up. -/
lemma target_spec (h : request.target fs = some output) :
    request.options.validatesOnly = false ∧ output.isAbsolute = true ∧
      FilePath.up ∉ output.names := by
  rw [Request.target] at h
  split_ifs at h with hvalidates
  obtain ⟨text, -, rfl⟩ := Option.map_eq_some_iff.mp h
  exact ⟨by simpa using hvalidates, rfl, FilePath.up_notMem_resolve fs.up_notMem _⟩

/-- A request that is not only to validate asks for a directory, if it can be used. -/
lemma Prepares.exists_target (h : Prepares host fs request job)
    (hwrites : request.options.validatesOnly = false) :
    ∃ output, request.target fs = some output := by
  have hgiven := h.complete.target.resolve_left (by simp [hwrites])
  obtain ⟨text, htext⟩ := Option.isSome_iff_exists.mp hgiven
  exact ⟨_, by rw [Request.target, hwrites, htext]; rfl⟩

/-- A session that takes a course leaves the files that the course says. -/
lemma Course.filesAfter {status : ExitStatus} {system : FileSystem}
    (h : Course host fs request status system) :
    CommandLine.filesAfter host fs request = system ∧
      (FailsToWrite host fs request ↔ status = .unwritten) := by
  obtain ⟨ending, hresult, rfl, rfl⟩ := h.answer
  rw [CommandLine.filesAfter, FailsToWrite, hresult]
  simp

/-- A session that breaks off leaves the files that there are then. -/
lemma BreaksOff.filesAfter {system : FileSystem} (h : BreaksOff host fs request system) :
    CommandLine.filesAfter host fs request = system := by
  obtain ⟨b, hresult, rfl⟩ := h.answer
  rw [CommandLine.filesAfter, hresult]

/-- A session that ends well has a batch that goes well. -/
lemma exists_goesWell_of_success {ending : Ending} (h : (answer host fs request).result = .ok ending)
    (hsuccess : ending.status = .success) : ∃ job report, GoesWell host fs request job report := by
  obtain ⟨system, hcourse⟩ : ∃ system, Course host fs request .success system :=
    ⟨_, answer_iff_course.mp ⟨ending, h, hsuccess, rfl⟩⟩
  cases hcourse with
  | validated hreport hwell => exact ⟨_, _, hreport.prepares, hreport.result, hwell⟩
  | written hreport hwell => exact ⟨_, _, hreport.prepares, hreport.result, hwell⟩

/-- A session changes nothing if the batch does not go well, or if it is only to validate. -/
theorem filesAfter_of_not_goesWell
    (h : (∀ job report, ¬GoesWell host fs request job report) ∨
      request.options.validatesOnly = true) : filesAfter host fs request = fs := by
  have hnot : ∀ {job report output}, Reports host fs request job report →
      report.isSuccess = true → job.output = some output → False := by
    intro job report output hreport hsuccess houtput
    have htarget := target_spec (hreport.prepares.output.symm.trans houtput)
    rcases h with hnone | hvalidates
    · exact hnone job report ⟨hreport.prepares, hreport.result, hsuccess⟩
    · exact absurd (htarget.1.symm.trans hvalidates) (by simp)
  rcases breaksOff_or_course host fs request with ⟨system, hbreaks⟩ | ⟨status, system, hcourse⟩
  · rw [hbreaks.filesAfter]
    cases hbreaks with
    | refused | wordless | escaped | unprinted => rfl
    | noBytes hreport hsuccess houtput => exact (hnot hreport hsuccess houtput).elim
    | unreported hreport hsuccess houtput => exact (hnot hreport hsuccess houtput).elim
  · rw [hcourse.filesAfter.1]
    cases hcourse with
    | refused | invalid | validated => rfl
    | written hreport hsuccess houtput => exact (hnot hreport hsuccess houtput).elim
    | unwritten hreport hsuccess houtput => exact (hnot hreport hsuccess houtput).elim

/-! ## Artifacts that are written -/

/-- A session that has a report and a directory writes the files that its request asks for. -/
lemma Reports.writing_eq (h : Reports host fs request job report)
    (htarget : request.target fs = some output) :
    job.writing host report output =
      Writing.ofFiles fs (some host.mark) ⟨true, output.names⟩ (request.files report) := by
  have hpath : output = ⟨true, output.names⟩ := by rw [← (target_spec htarget).2.1]
  rw [Job.writing, h.prepares.system, h.prepares.format, ← hpath]
  rfl

/-- Artifacts that are all written are in their files exactly when these were free. -/
lemma Reports.holdsExactly_writing_iff (h : Reports host fs request job report)
    (htarget : request.target fs = some output)
    (hstop : (job.writing host report output).stop = none) :
    HoldsExactly output.names (request.files report) fs (job.writing host report output).system ↔
      Fits host fs request report output := by
  rw [h.writing_eq htarget] at hstop ⊢
  have hstores : StoresTo output.names (request.files report) fs _ :=
    Writing.storesTo_ofFiles (target_spec htarget).2.2
      (fun file hfile => isPlainName_of_mem_outputFiles hfile) (nodup_outputFiles _ _ _) hstop
  rw [hstores.holdsExactly_iff (outputFiles_ne_nil _ _ _)]
  exact ⟨fun hfree => ⟨Or.inl h.prints, hstores.whole, hfree⟩, Fits.free⟩

/-- Artifacts that are all written stay, whether the line about them can be printed or not. -/
lemma Reports.filesAfter_of_stop_eq_none (h : Reports host fs request job report)
    (hsuccess : report.isSuccess = true) (houtput : job.output = some output)
    (hstop : (job.writing host report output).stop = none) :
    filesAfter host fs request = (job.writing host report output).system := by
  cases hprints : host.prints (writtenLine (job.writing host report output) output) with
  | true => exact (Course.written h hsuccess houtput hstop hprints).filesAfter.1
  | false => exact (BreaksOff.unreported h hsuccess houtput hstop hprints).filesAfter

/-- A batch that goes well is written exactly, if the system does not fail to write, when its
artifacts can be written. -/
theorem holdsExactly_filesAfter_iff (hwell : GoesWell host fs request job report)
    (htarget : request.target fs = some output) (hwrites : ¬FailsToWrite host fs request) :
    HoldsExactly output.names (request.files report) fs (filesAfter host fs request) ↔
      Fits host fs request report output := by
  have houtput := hwell.prepares.output.trans htarget
  cases hprints : host.prints (report.summary host.elapsed) with
  | false =>
    -- nothing is written, so the directory has to hold the artifacts already
    rw [(BreaksOff.unprinted hwell.prepares hwell.reports hprints).filesAfter]
    refine ⟨fun hholds => ⟨Or.inr hholds, hholds.whole, fun file hfile => ?_⟩, fun hfits => ?_⟩
    · exact (hholds.stored file hfile).not_isDirectoryAt
    · exact hfits.prints.resolve_left (by simp [hprints])
  | true =>
    have hreport : Reports host fs request job report := ⟨hwell.prepares, hwell.reports, hprints⟩
    cases hstop : (job.writing host report output).stop with
    | none =>
      rw [hreport.filesAfter_of_stop_eq_none hwell.isSuccess houtput hstop]
      exact hreport.holdsExactly_writing_iff htarget hstop
    | some stop =>
      cases stop with
      | failed fault =>
        have hcourse := Course.unwritten hreport hwell.isSuccess houtput hstop
        exact absurd (hcourse.filesAfter.2.mpr rfl) hwrites
      | noBytes =>
        rw [hreport.writing_eq htarget] at hstop
        obtain ⟨file, hfile, hhalf⟩ := Writing.exists_isWhole_eq_false_of_noBytes rfl hstop
        have hnot : ¬∀ file ∈ request.files report, isWhole file.2 = true :=
          fun hwhole => absurd ((hwhole file hfile).symm.trans hhalf) (by simp)
        exact ⟨fun hholds => absurd hholds.whole hnot, fun hfits => absurd hfits.whole hnot⟩

/-- **What a session writes.** A session writes the artifacts of its batch, if this goes well and
they are to be written, and nothing else, exactly when the system fails to write them or they can be
written. -/
theorem writesRightly_iff (host : Host) (fs : FileSystem) (request : Request) :
    WritesRightly host fs request ↔
      (¬FailsToWrite host fs request → ∀ {job report output}, GoesWell host fs request job report →
        request.target fs = some output → Fits host fs request report output) := by
  constructor
  · intro hright hwrites job report output hwell htarget
    obtain ⟨other, hother, hholds⟩ := hright.stored hwell (target_spec htarget).1 hwrites
    obtain rfl := Option.some.inj (hother.symm.trans htarget)
    exact (holdsExactly_filesAfter_iff hwell htarget hwrites).mp hholds
  · intro hfits
    refine ⟨filesAfter_of_not_goesWell, fun hwell hvalidates hwrites => ?_⟩
    obtain ⟨output, htarget⟩ := hwell.prepares.exists_target hvalidates
    exact ⟨output, htarget,
      (holdsExactly_filesAfter_iff hwell htarget hwrites).mpr (hfits hwrites hwell htarget)⟩

/-- A machine that prints every text. -/
def lenient : Host :=
  { mark := "x", prints := fun _ => true }

/-- Files with the document of one entity, and with a directory that has the place of a script. -/
def occupied : FileSystem where
  root := .directory
    [("e.json", .file (encodeUtf8 ("\x7b\"entities\":[\x7b\"name\":\"Card\",\"fields\":" ++
      "[\x7b\"name\":\"id\",\"type\":\"INT\",\"primary_key\":true\x7d]\x7d]\x7d").toList)),
     ("out", .directory [("schema.sql", .directory [])])]
  directory := []
  up_notMem := List.not_mem_nil

/-- The script of a document is asked for. -/
def scriptRequest : Request :=
  ⟨"e.json", { output := some "out", format := .script }⟩

/-- A session that ends as if everything had gone well, although a directory has the place of its
script, and stays there. -/
theorem not_writesRightly_occupied :
    (∃ ending, (answer lenient occupied scriptRequest).result = .ok ending ∧
      ending.status = .success) ∧ ¬WritesRightly lenient occupied scriptRequest := by
  obtain ⟨ending, hresult, hsuccess⟩ := toOption_map_eq_some.mp
    (by decide +kernel : (answer lenient occupied scriptRequest).result.toOption.map
      Ending.status = some .success)
  refine ⟨⟨ending, hresult, hsuccess⟩, fun hright => ?_⟩
  have htarget : scriptRequest.target occupied = some ⟨true, ["out"]⟩ := by decide +kernel
  have hwrites : ¬FailsToWrite lenient occupied scriptRequest := by
    rintro ⟨other, hother, hunwritten⟩
    obtain rfl := Except.ok.inj (hother.symm.trans hresult)
    exact absurd (hunwritten.symm.trans hsuccess) (by decide)
  obtain ⟨job, report, hwell⟩ := exists_goesWell_of_success hresult hsuccess
  obtain ⟨output, houtput, hholds⟩ := hright.stored hwell rfl hwrites
  obtain rfl := Option.some.inj (houtput.symm.trans htarget)
  have hfits := (holdsExactly_filesAfter_iff hwell htarget hwrites).mp hholds
  exact hfits.free _ (List.mem_singleton_self _) ⟨[], rfl⟩

end SqlMapping.CommandLine
