import SqlMapping.CommandLine.Session
import SqlMapping.Proofs.Batch.Isolation

/-!
# The courses of a session

A session takes one of five courses (`Course`): it refuses the request, it reports a batch that has
not gone well, or it reports one that has and then writes nothing, everything or not everything. It
takes a course exactly when it comes to an end, and then the course says how it ends and which files
there are afterwards (`answer_iff_course`). Otherwise it breaks off (`answer_eq_error_iff`), in one
of six ways (`BreaksOff`): four of them come before anything is written, and one comes after
everything is. Only where a text has no bytes are the files left halfway.
-/

namespace SqlMapping.CommandLine

open SqlMapping.Document SqlMapping.Files

/-! ## What a request comes to -/

/-- The path of the document of a request. -/
def Request.documentPath (request : Request) (fs : FileSystem) : FilePath :=
  (FilePath.ofText request.document).resolve fs.directory

/-- The directory that a request asks to write to, unless it is only to validate. -/
def Request.target (request : Request) (fs : FileSystem) : Option FilePath :=
  if request.options.validatesOnly then none
  else request.options.output.map fun output => (FilePath.ofText output).resolve fs.directory

/-- The system refuses what finding the document of a request or its directory asks of it. -/
inductive Request.IsRefused (request : Request) (fs : FileSystem) : Prop
  /-- It does not follow the path of the document. -/
  | document {fault : SystemFault}
      (h : fs.refuses .follow (FilePath.ofText request.document) = some fault)
  /-- It does not look what stands there. -/
  | look {fault : SystemFault} (h : fs.refuses .look (request.documentPath fs) = some fault)
  /-- There is a document, and it does not follow the path of the directory. -/
  | output {text : String} {fault : SystemFault}
      (hdocument : isFile fs (request.documentPath fs) = true)
      (hwrites : request.options.validatesOnly = false)
      (houtput : request.options.output = some text)
      (h : fs.refuses .follow (FilePath.ofText text) = some fault)

/-- The request names a document that is there, and a directory unless it is only to validate. -/
structure Request.IsComplete (request : Request) (fs : FileSystem) : Prop where
  /-- The system lets both be found. -/
  allowed : ¬request.IsRefused fs
  /-- There is a file at the path of the document. -/
  document : isFile fs (request.documentPath fs) = true
  /-- A directory is given, or not needed. -/
  target : request.options.validatesOnly = true ∨ request.options.output.isSome = true

/-- A request that can be used comes to a job. -/
structure Prepares (host : Host) (fs : FileSystem) (request : Request) (job : Job) : Prop where
  /-- The request is complete. -/
  complete : request.IsComplete fs
  /-- The document has sections: the declarations, and settings that can be overridden. -/
  sections : ∃ sections, loadSections host.reader fs (request.documentPath fs) = .ok sections ∧
    sections.entities = job.declarations ∧
    request.options.override sections.settings = .ok job.settings
  /-- The artifacts are written where the request says. -/
  output : job.output = request.target fs
  /-- They are written in the form that the request says. -/
  format : job.format = request.options.format
  /-- The files are those that are there. -/
  system : job.system = fs

/-- A request that cannot be used. -/
inductive Unusable (host : Host) (fs : FileSystem) (request : Request) : Prop
  /-- The system does not let the document or the directory be found. -/
  | refused (h : request.IsRefused fs)
  /-- There is no file at the path of the document. -/
  | noDocument (h : isFile fs (request.documentPath fs) = false)
  /-- No directory is given although the artifacts are to be written. -/
  | noTarget (hwrites : request.options.validatesOnly = false)
      (h : request.options.output = none)
  /-- The document cannot be read, or is not that of a batch. -/
  | unloaded (fault : LoadFault)
      (h : loadSections host.reader fs (request.documentPath fs) = .error fault)
  /-- The settings cannot be overridden as the request says. -/
  | badOverride (sections : Sections) (report : Shape.ShapeError)
      (hload : loadSections host.reader fs (request.documentPath fs) = .ok sections)
      (h : request.options.override sections.settings = .error report)

/-- The document of a complete request is broken in a way that is not put into words. -/
structure IsWordless (host : Host) (fs : FileSystem) (request : Request) (fault : LoadFault) :
    Prop where
  /-- The request is complete. -/
  complete : request.IsComplete fs
  /-- The document is broken. -/
  load : loadSections host.reader fs (request.documentPath fs) = .error fault
  /-- There are no words for that. -/
  wordless : fault.message? = none

/-- A declaration of a job breaks off its batch. -/
def Job.Escapes (job : Job) (host : Host) : Prop :=
  ∃ d index, (d, index) ∈ Batch.attempted job.settings (job.declarations.map (.raw host.room)) ∧
    ∃ reason, d.Escapes index job.settings reason

/-- The batch of a request has a report, and its summary is printed. -/
structure Reports (host : Host) (fs : FileSystem) (request : Request) (job : Job)
    (report : BatchReport) : Prop where
  /-- The request can be used. -/
  prepares : Prepares host fs request job
  /-- There is a report on its batch. -/
  result : (job.generate host).result = .ok report
  /-- The summary can be printed. -/
  prints : host.prints (report.summary host.elapsed) = true

/-- The ways in which a session breaks off, and which files there are afterwards. -/
inductive BreaksOff (host : Host) (fs : FileSystem) (request : Request) : FileSystem → Prop
  /-- The system refuses what finding the document or the directory asks of it. -/
  | refused (h : request.IsRefused fs) : BreaksOff host fs request fs
  /-- There are no words for what is wrong with the document. -/
  | wordless {fault : LoadFault} (h : IsWordless host fs request fault) :
      BreaksOff host fs request fs
  /-- The batch breaks off. -/
  | escaped {job : Job} (hjob : Prepares host fs request job) (hescapes : job.Escapes host) :
      BreaksOff host fs request fs
  /-- The summary cannot be printed. -/
  | unprinted {job : Job} {report : BatchReport} (hjob : Prepares host fs request job)
      (hreport : (job.generate host).result = .ok report)
      (hprints : host.prints (report.summary host.elapsed) = false) : BreaksOff host fs request fs
  /-- A half of a surrogate pair stands in an artifact that is to be written. -/
  | noBytes {job : Job} {report : BatchReport} {output : FilePath}
      (hreport : Reports host fs request job report) (hsuccess : report.isSuccess = true)
      (houtput : job.output = some output)
      (hstop : (job.writing host report output).stop = some .noBytes) :
      BreaksOff host fs request (job.writing host report output).system
  /-- The artifacts are written, and the line about that cannot be printed. -/
  | unreported {job : Job} {report : BatchReport} {output : FilePath}
      (hreport : Reports host fs request job report) (hsuccess : report.isSuccess = true)
      (houtput : job.output = some output)
      (hstop : (job.writing host report output).stop = none)
      (hprints : host.prints (writtenLine (job.writing host report output) output) = false) :
      BreaksOff host fs request (job.writing host report output).system

/-- The courses of a session: how it ends, and which files there are afterwards. -/
inductive Course (host : Host) (fs : FileSystem) (request : Request) :
    ExitStatus → FileSystem → Prop
  /-- The request cannot be used, and there are words for that. -/
  | refused (h : Unusable host fs request) (hallowed : ¬request.IsRefused fs)
      (hworded : ∀ fault, ¬IsWordless host fs request fault) : Course host fs request .badInput fs
  /-- The batch has not gone well. -/
  | invalid {job : Job} {report : BatchReport} (hreport : Reports host fs request job report)
      (hfailed : report.isSuccess = false) : Course host fs request .invalid fs
  /-- The batch has gone well, and nothing is to be written. -/
  | validated {job : Job} {report : BatchReport} (hreport : Reports host fs request job report)
      (hsuccess : report.isSuccess = true) (houtput : job.output = none) :
      Course host fs request .success fs
  /-- The artifacts of the batch are written. -/
  | written {job : Job} {report : BatchReport} {output : FilePath}
      (hreport : Reports host fs request job report) (hsuccess : report.isSuccess = true)
      (houtput : job.output = some output)
      (hstop : (job.writing host report output).stop = none)
      (hprints : host.prints (writtenLine (job.writing host report output) output) = true) :
      Course host fs request .success (job.writing host report output).system
  /-- The system fails to write the artifacts. -/
  | unwritten {job : Job} {report : BatchReport} {output : FilePath} {fault : WriteFault}
      (hreport : Reports host fs request job report) (hsuccess : report.isSuccess = true)
      (houtput : job.output = some output)
      (hstop : (job.writing host report output).stop = some (.failed fault)) :
      Course host fs request .unwritten (job.writing host report output).system

variable {host : Host} {fs system : FileSystem} {request : Request} {job : Job}
  {report : BatchReport} {summary : String} {output : FilePath} {status : ExitStatus}

/-! ## Parts of a session -/

/-- A log entry changes nothing in the result of a session. -/
@[simp] lemma result_emit_bind {α : Type} (entry : LogEntry) (f : Unit → Session α) :
    ((Run.emit entry : Session Unit) >>= f).result = (f ()).result := rfl

/-- A note changes nothing in the result of a session. -/
@[simp] lemma result_note_bind {α : Type} (level : LogLevel) (text : String)
    (f : Unit → Session α) : (note level text >>= f).result = (f ()).result := rfl

/-- A session ends as it is finished. -/
@[simp] lemma result_finish (ending : Ending) : (finish ending).result = .ok ending := by
  rw [finish]
  split_ifs <;> rfl

/-- A refusal leaves the files as they are. -/
@[simp] lemma result_refuse (fs : FileSystem) (text : String) :
    (refuse fs text).result = .ok { status := .badInput, system := fs } := by
  rw [refuse, result_note_bind, result_finish]

/-- What the system does not refuse changes nothing in the result of a session. -/
lemma result_ask_bind {α : Type} {deed : Deed} {path : FilePath} (h : fs.refuses deed path = none)
    (f : Unit → Session α) : (ask fs deed path >>= f).result = (f ()).result := by
  rw [ask, h]
  rfl

/-- What the system refuses breaks the session off. -/
lemma result_ask_bind_of_refused {α : Type} {deed : Deed} {path : FilePath} {fault : SystemFault}
    (h : fs.refuses deed path = some fault) (f : Unit → Session α) :
    (ask fs deed path >>= f).result = .error ⟨.refused fault, fs⟩ := by
  rw [ask, h]
  rfl

/-- A text that can be printed changes nothing in the result of a session. -/
lemma result_print_bind {α : Type} {text : String} (h : host.prints text = true)
    (f : Unit → Session α) : (print host fs text >>= f).result = (f ()).result := by
  rw [print, if_pos h]
  rfl

/-- A text that cannot be printed breaks the session off. -/
lemma result_print_bind_of_not {α : Type} {text : String} (h : host.prints text = false)
    (f : Unit → Session α) : (print host fs text >>= f).result = .error ⟨.unprinted, fs⟩ := by
  rw [print, if_neg (by simp [h])]
  rfl

/-! ## Preparation -/

/-- Beginning comes to what reading the document comes to. -/
@[simp] lemma result_begin (host : Host) (fs : FileSystem) (o : Options) (document : FilePath)
    (target : Option FilePath) :
    (begin host fs o document target).result = (readDocument host fs o document target).result :=
  rfl

/-- The system lets the document of a request be found, unless it refuses the request. -/
lemma refuses_of_not_isRefused (h : ¬request.IsRefused fs) :
    fs.refuses .follow (FilePath.ofText request.document) = none ∧
      fs.refuses .look (request.documentPath fs) = none := by
  constructor
  · cases hfollow : fs.refuses .follow (FilePath.ofText request.document) with
    | none => rfl
    | some fault => exact absurd (.document hfollow) h
  · cases hlook : fs.refuses .look (request.documentPath fs) with
    | none => rfl
    | some fault => exact absurd (.look hlook) h

/-- A request that is complete is prepared by reading its document. -/
lemma prepare_of_isComplete (h : request.IsComplete fs) :
    (prepare host fs request).result =
      (readDocument host fs request.options (request.documentPath fs)
        (request.target fs)).result := by
  obtain ⟨hfollow, hlook⟩ := refuses_of_not_isRefused h.allowed
  have hfile := h.document
  rw [Request.documentPath] at hfile hlook
  rw [Request.target, prepare, result_ask_bind hfollow, result_ask_bind hlook]
  by_cases hvalidates : request.options.validatesOnly = true
  · simp only [hfile, hvalidates, Bool.not_true, Bool.false_eq_true, if_false, if_true,
      result_begin, Request.documentPath]
  · obtain ⟨text, htext⟩ := Option.isSome_iff_exists.mp (h.target.resolve_left hvalidates)
    have htarget : fs.refuses .follow (FilePath.ofText text) = none := by
      cases hrefuses : fs.refuses .follow (FilePath.ofText text) with
      | none => rfl
      | some fault =>
        exact absurd (.output h.document (by simpa using hvalidates) htext hrefuses) h.allowed
    simp only [hfile, hvalidates, htext, Bool.not_true, Bool.false_eq_true, if_false,
      Option.map_some, result_ask_bind htarget, result_begin, Request.documentPath]

/-- A request that is not complete is refused, if the system lets its document be found. -/
lemma prepare_of_not_isComplete (hallowed : ¬request.IsRefused fs)
    (h : ¬request.IsComplete fs) :
    ∃ ending, (prepare host fs request).result = .ok (.error ending) ∧ ending.status = .badInput ∧
      ending.system = fs := by
  obtain ⟨hfollow, hlook⟩ := refuses_of_not_isRefused hallowed
  rw [Request.documentPath] at hlook
  rw [prepare, result_ask_bind hfollow, result_ask_bind hlook]
  by_cases hfile : isFile fs ((FilePath.ofText request.document).resolve fs.directory) = true
  · have htarget : ¬(request.options.validatesOnly = true ∨ request.options.output.isSome = true) :=
      fun htarget => h ⟨hallowed, hfile, htarget⟩
    rw [not_or] at htarget
    have hnone : request.options.output = none := by simpa using htarget.2
    simp only [hfile, htarget.1, hnone, Bool.not_true, Bool.false_eq_true, if_false]
    exact ⟨_, rfl, rfl, rfl⟩
  · simp only [hfile, Bool.not_false, if_true]
    exact ⟨_, rfl, rfl, rfl⟩

/-- A request that the system refuses breaks off. -/
lemma Request.IsRefused.result (h : request.IsRefused fs) (host : Host) :
    ∃ fault, (prepare host fs request).result = .error ⟨.refused fault, fs⟩ := by
  rw [prepare]
  cases hfollow : fs.refuses .follow (FilePath.ofText request.document) with
  | some fault => exact ⟨fault, result_ask_bind_of_refused hfollow _⟩
  | none =>
    rw [result_ask_bind hfollow]
    cases hlook : fs.refuses .look (request.documentPath fs) with
    | some fault => exact ⟨fault, result_ask_bind_of_refused hlook _⟩
    | none =>
      rw [Request.documentPath] at hlook
      rw [result_ask_bind hlook]
      cases h with
      | document h => exact absurd (h.symm.trans hfollow) (by simp)
      | look h => exact absurd (h.symm.trans hlook) (by simp)
      | @output text fault hdocument hwrites houtput h =>
        rw [Request.documentPath] at hdocument
        simp only [hdocument, hwrites, houtput, Bool.not_true, Bool.false_eq_true, if_false,
          result_ask_bind_of_refused h]
        exact ⟨fault, rfl⟩

/-- A request that can be used is prepared. -/
lemma Prepares.result (h : Prepares host fs request job) :
    (prepare host fs request).result = .ok (.ok job) := by
  obtain ⟨sections, hload, hentities, hsettings⟩ := h.sections
  have hjob : job = ⟨fs, request.target fs, request.options.format, sections.entities,
      job.settings⟩ := by
    rw [hentities, ← h.output, ← h.format, ← h.system]
  rw [prepare_of_isComplete h.complete, readDocument, hload]
  simp only [hsettings]
  rw [hjob]
  rfl

/-- A request that cannot be used is refused, if there are words for that. -/
lemma Unusable.result (h : Unusable host fs request) (hallowed : ¬request.IsRefused fs)
    (hworded : ∀ fault, ¬IsWordless host fs request fault) :
    ∃ ending, (prepare host fs request).result = .ok (.error ending) ∧ ending.status = .badInput ∧
      ending.system = fs := by
  by_cases hcomplete : request.IsComplete fs
  · rw [prepare_of_isComplete hcomplete, readDocument]
    cases h with
    | refused hrefused => exact absurd hrefused hallowed
    | noDocument hfile => exact absurd (hfile.symm.trans hcomplete.document) (by simp)
    | noTarget hwrites hnone =>
      rcases hcomplete.target with hvalidates | hsome
      · exact absurd (hwrites.symm.trans hvalidates) (by simp)
      · rw [hnone] at hsome
        exact absurd hsome (by simp)
    | unloaded fault hload =>
      cases hmessage : fault.message? with
      | none => exact absurd ⟨hcomplete, hload, hmessage⟩ (hworded fault)
      | some message =>
        simp only [hload, hmessage, Run.result_bind, result_refuse]
        exact ⟨_, rfl, rfl, rfl⟩
    | badOverride sections report hload hoverride =>
      simp only [hload, hoverride, Run.result_bind, result_refuse]
      exact ⟨_, rfl, rfl, rfl⟩
  · exact prepare_of_not_isComplete hallowed hcomplete

/-- A request that there are no words for breaks off. -/
lemma IsWordless.result {fault : LoadFault} (h : IsWordless host fs request fault) :
    (prepare host fs request).result = .error ⟨.unloaded fault, fs⟩ := by
  rw [prepare_of_isComplete h.complete, readDocument]
  simp only [h.load, h.wordless]
  rfl

/-- A request can be used, or cannot. -/
theorem prepares_or_unusable (host : Host) (fs : FileSystem) (request : Request) :
    (∃ job, Prepares host fs request job) ∨ Unusable host fs request := by
  by_cases hrefused : request.IsRefused fs
  · exact Or.inr (.refused hrefused)
  by_cases hcomplete : request.IsComplete fs
  · cases hload : loadSections host.reader fs (request.documentPath fs) with
    | error fault => exact Or.inr (.unloaded fault hload)
    | ok sections =>
      cases hoverride : request.options.override sections.settings with
      | error report => exact Or.inr (.badOverride sections report hload hoverride)
      | ok settings =>
        exact Or.inl ⟨⟨fs, request.target fs, request.options.format, sections.entities, settings⟩,
          hcomplete, ⟨sections, hload, rfl, hoverride⟩, rfl, rfl, rfl⟩
  · refine Or.inr ?_
    by_cases hfile : isFile fs (request.documentPath fs) = true
    · have htarget : ¬(request.options.validatesOnly = true ∨
          request.options.output.isSome = true) :=
        fun htarget => hcomplete ⟨hrefused, hfile, htarget⟩
      rw [not_or] at htarget
      exact .noTarget (by simpa using htarget.1) (by simpa using htarget.2)
    · exact .noDocument (by simpa using hfile)

/-! ## Generation -/

/-- The batch of a job has no report exactly when one of its declarations breaks it off. -/
lemma Job.exists_generate_eq_error_iff :
    (∃ b, (job.generate host).result = .error b) ↔ job.Escapes host := by
  rw [Escapes, ← Batch.exists_generate_eq_error_iff, generate]
  cases (Batch.generate job.settings (job.declarations.map (.raw host.room))).result with
  | ok report => simp [Except.mapError]
  | error reason => simp [Except.mapError]

/-- A batch that breaks off leaves the files as they are. -/
lemma Job.system_of_generate_eq_error {b : Breakdown} (h : (job.generate host).result = .error b) :
    b.system = job.system := by
  rw [generate] at h
  cases hbatch : (Batch.generate job.settings (job.declarations.map (.raw host.room))).result with
  | ok report => exact absurd h (by simp [hbatch, Except.mapError])
  | error reason =>
    simp only [hbatch, Except.mapError] at h
    exact congrArg Breakdown.system (Except.error.inj h).symm

/-! ## Conclusion -/

/-- A batch that has not gone well is reported, and nothing is written. -/
lemma conclude_of_failed (hprints : host.prints (report.summary host.elapsed) = true)
    (h : report.isSuccess = false) :
    ∃ ending, (job.conclude host report).result = .ok ending ∧ ending.status = .invalid ∧
      ending.system = job.system := by
  refine ⟨⟨.invalid, [report.summary host.elapsed], false, job.system⟩, ?_, rfl, rfl⟩
  simp only [Job.conclude, result_emit_bind, result_print_bind hprints, h, Bool.not_false, if_true,
    result_finish]

/-- A batch that has gone well is reported, and nothing is written if there is no directory. -/
lemma conclude_of_none (hprints : host.prints (report.summary host.elapsed) = true)
    (h : report.isSuccess = true) (houtput : job.output = none) :
    ∃ ending, (job.conclude host report).result = .ok ending ∧ ending.status = .success ∧
      ending.system = job.system := by
  refine ⟨⟨.success, [report.summary host.elapsed], false, job.system⟩, ?_, rfl, rfl⟩
  simp only [Job.conclude, result_emit_bind, result_print_bind hprints, h, houtput, Bool.not_true,
    Bool.false_eq_true, if_false, result_finish]

/-- The artifacts of a batch that has gone well are written if there is a directory. -/
lemma conclude_of_some (hprints : host.prints (report.summary host.elapsed) = true)
    (h : report.isSuccess = true) (houtput : job.output = some output) :
    (job.conclude host report).result =
      (job.write host report output (report.summary host.elapsed)).result := by
  simp only [Job.conclude, result_emit_bind, result_print_bind hprints, h, houtput, Bool.not_true,
    Bool.false_eq_true, if_false]

/-- A batch whose summary cannot be printed leaves the files as they are. -/
lemma conclude_of_unprinted (hprints : host.prints (report.summary host.elapsed) = false) :
    (job.conclude host report).result = .error ⟨.unprinted, job.system⟩ := by
  simp only [Job.conclude, result_emit_bind, result_print_bind_of_not hprints]

/-! ## Answers -/

/-- A request that can be used is answered by reporting on its batch. -/
lemma answer_of_prepares (h : Prepares host fs request job) :
    (answer host fs request).result =
      (job.generate host).result >>= fun report => (job.conclude host report).result := by
  rw [answer, Run.result_bind, h.result]
  show (job.generate host >>= fun report => job.conclude host report).result = _
  rw [Run.result_bind]

/-- A request with a report is answered by concluding. -/
lemma answer_of_generate (h : Prepares host fs request job)
    (hreport : (job.generate host).result = .ok report) :
    (answer host fs request).result = (job.conclude host report).result := by
  rw [answer_of_prepares h, hreport]
  rfl

/-- A session that takes a course ends as the course says. -/
lemma Course.answer (h : Course host fs request status system) :
    ∃ ending, (answer host fs request).result = .ok ending ∧ ending.status = status ∧
      ending.system = system := by
  cases h with
  | refused hunusable hallowed hworded =>
    obtain ⟨ending, hprepare, hstatus, hsystem⟩ := hunusable.result hallowed hworded
    refine ⟨ending, ?_, hstatus, hsystem⟩
    rw [CommandLine.answer, Run.result_bind, hprepare]
    rfl
  | invalid hreport hfailed =>
    rw [answer_of_generate hreport.prepares hreport.result, ← hreport.prepares.system]
    exact conclude_of_failed hreport.prints hfailed
  | validated hreport hsuccess houtput =>
    rw [answer_of_generate hreport.prepares hreport.result, ← hreport.prepares.system]
    exact conclude_of_none hreport.prints hsuccess houtput
  | written hreport hsuccess houtput hstop hprints =>
    rw [answer_of_generate hreport.prepares hreport.result,
      conclude_of_some hreport.prints hsuccess houtput, Job.write]
    simp only [hstop, result_emit_bind, result_print_bind hprints]
    exact ⟨_, result_finish _, rfl, rfl⟩
  | unwritten hreport hsuccess houtput hstop =>
    rw [answer_of_generate hreport.prepares hreport.result,
      conclude_of_some hreport.prints hsuccess houtput, Job.write]
    simp only [hstop, result_note_bind]
    exact ⟨_, result_finish _, rfl, rfl⟩

/-- A session that breaks off comes to nothing. -/
lemma BreaksOff.answer (h : BreaksOff host fs request system) :
    ∃ b, (answer host fs request).result = .error b ∧ b.system = system := by
  cases h with
  | refused hrefused =>
    obtain ⟨fault, hprepare⟩ := hrefused.result host
    rw [CommandLine.answer, Run.result_bind, hprepare]
    exact ⟨_, rfl, rfl⟩
  | wordless hwordless =>
    rw [CommandLine.answer, Run.result_bind, hwordless.result]
    exact ⟨_, rfl, rfl⟩
  | escaped hjob hescapes =>
    obtain ⟨b, hbreak⟩ := Job.exists_generate_eq_error_iff.mpr hescapes
    rw [answer_of_prepares hjob, hbreak]
    exact ⟨b, rfl, (Job.system_of_generate_eq_error hbreak).trans hjob.system⟩
  | unprinted hjob hreport hprints =>
    rw [answer_of_generate hjob hreport, conclude_of_unprinted hprints]
    exact ⟨_, rfl, hjob.system⟩
  | noBytes hreport hsuccess houtput hstop =>
    rw [answer_of_generate hreport.prepares hreport.result,
      conclude_of_some hreport.prints hsuccess houtput, Job.write]
    simp only [hstop]
    exact ⟨_, rfl, rfl⟩
  | unreported hreport hsuccess houtput hstop hprints =>
    rw [answer_of_generate hreport.prepares hreport.result,
      conclude_of_some hreport.prints hsuccess houtput, Job.write]
    simp only [hstop, result_emit_bind, result_print_bind_of_not hprints]
    exact ⟨_, rfl, rfl⟩

/-- A session that writes takes a course or breaks off. -/
lemma Reports.breaksOff_or_course (h : Reports host fs request job report)
    (hsuccess : report.isSuccess = true) (houtput : job.output = some output) :
    (∃ system, BreaksOff host fs request system) ∨
      ∃ status system, Course host fs request status system := by
  cases hstop : (job.writing host report output).stop with
  | some stop =>
    cases stop with
    | failed fault => exact Or.inr ⟨_, _, .unwritten h hsuccess houtput hstop⟩
    | noBytes => exact Or.inl ⟨_, .noBytes h hsuccess houtput hstop⟩
  | none =>
    cases hprints : host.prints (writtenLine (job.writing host report output) output) with
    | true => exact Or.inr ⟨_, _, .written h hsuccess houtput hstop hprints⟩
    | false => exact Or.inl ⟨_, .unreported h hsuccess houtput hstop hprints⟩

/-- A session breaks off or takes a course. -/
theorem breaksOff_or_course (host : Host) (fs : FileSystem) (request : Request) :
    (∃ system, BreaksOff host fs request system) ∨
      ∃ status system, Course host fs request status system := by
  -- the cases are the branches of a session: it prepares, generates, and concludes
  rcases prepares_or_unusable host fs request with ⟨job, hjob⟩ | hunusable
  · cases hresult : (job.generate host).result with
    | error b =>
      exact Or.inl ⟨_, .escaped hjob (Job.exists_generate_eq_error_iff.mp ⟨b, hresult⟩)⟩
    | ok report =>
      cases hprints : host.prints (report.summary host.elapsed) with
      | false => exact Or.inl ⟨_, .unprinted hjob hresult hprints⟩
      | true =>
        have hreport : Reports host fs request job report := ⟨hjob, hresult, hprints⟩
        by_cases hsuccess : report.isSuccess = true
        · cases houtput : job.output with
          | none => exact Or.inr ⟨_, _, .validated hreport hsuccess houtput⟩
          | some output => exact hreport.breaksOff_or_course hsuccess houtput
        · exact Or.inr ⟨_, _, .invalid hreport (by simpa using hsuccess)⟩
  · -- a request that cannot be used is refused, unless there are no words for what is wrong
    by_cases hrefused : request.IsRefused fs
    · exact Or.inl ⟨_, .refused hrefused⟩
    by_cases hworded : ∃ fault, IsWordless host fs request fault
    · obtain ⟨fault, hwordless⟩ := hworded
      exact Or.inl ⟨_, .wordless hwordless⟩
    · exact Or.inr ⟨_, _, .refused hunusable hrefused (not_exists.mp hworded)⟩

/-- A session comes to an end exactly when it takes a course, which says how it ends. -/
theorem answer_iff_course :
    (∃ ending, (answer host fs request).result = .ok ending ∧ ending.status = status ∧
      ending.system = system) ↔ Course host fs request status system := by
  refine ⟨?_, Course.answer⟩
  rintro ⟨ending, hresult, rfl, rfl⟩
  rcases breaksOff_or_course host fs request with ⟨system, hbreaks⟩ | ⟨status, system, hcourse⟩
  · obtain ⟨b, hbreak, -⟩ := hbreaks.answer
    exact absurd (hresult.symm.trans hbreak) (by simp)
  · obtain ⟨other, hother, rfl, rfl⟩ := hcourse.answer
    obtain rfl := Except.ok.inj (hother.symm.trans hresult)
    exact hcourse

/-- A session comes to no end exactly when it breaks off. -/
theorem answer_eq_error_iff :
    (∃ b, (answer host fs request).result = .error b ∧ b.system = system) ↔
      BreaksOff host fs request system := by
  refine ⟨?_, BreaksOff.answer⟩
  rintro ⟨b, hresult, rfl⟩
  rcases breaksOff_or_course host fs request with ⟨system, hbreaks⟩ | ⟨status, system, hcourse⟩
  · obtain ⟨other, hother, rfl⟩ := hbreaks.answer
    obtain rfl := Except.error.inj (hother.symm.trans hresult)
    exact hbreaks
  · obtain ⟨ending, hending, -⟩ := hcourse.answer
    exact absurd (hresult.symm.trans hending) (by simp)

end SqlMapping.CommandLine
