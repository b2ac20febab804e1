import SqlMapping.Proofs.CommandLine.Output

/-!
# Exit statuses

A run of the program deserves a status for what its command line and its document are
(`Deserves`): one for what cannot be used, one for a batch that has not gone well, one for artifacts
that are not written, and success otherwise. A run exits with the status that it deserves, and with
no other one, exactly when its arguments are understood and it does not break off
(`exitsAsDeserved_iff`): arguments that are not understood are given the status of artifacts that are
not written.
-/

namespace SqlMapping.CommandLine

open SqlMapping.Document SqlMapping.Files SqlMapping.Text

/-- The status that a run deserves. -/
inductive Deserves (host : Host) (fs : FileSystem) (arguments : List String) : ExitStatus → Prop
  /-- The arguments cannot be used. -/
  | misused {m : Misuse} (h : Request.ofArguments arguments = .error (.misuse m)) :
      Deserves host fs arguments .badInput
  /-- The request or its document cannot be used. -/
  | unusable {request : Request} (hread : Request.ofArguments arguments = .ok request)
      (h : Unusable host fs request) : Deserves host fs arguments .badInput
  /-- The report is not a success. -/
  | invalid {request : Request} {job : Job} {report : BatchReport}
      (hread : Request.ofArguments arguments = .ok request) (hjob : Prepares host fs request job)
      (hreport : (job.generate host).result = .ok report) (hfailed : report.isSuccess = false) :
      Deserves host fs arguments .invalid
  /-- The report is a success, and its artifacts are not all written. -/
  | unwritten {request : Request} {job : Job} {report : BatchReport} {output : FilePath}
      {stop : Unwritten} (hread : Request.ofArguments arguments = .ok request)
      (hwell : GoesWell host fs request job report) (htarget : request.target fs = some output)
      (hstop : (job.writing host report output).stop = some stop) :
      Deserves host fs arguments .unwritten
  /-- The report is a success, and its artifacts are written if they are to be written. -/
  | success {request : Request} {job : Job} {report : BatchReport}
      (hread : Request.ofArguments arguments = .ok request)
      (hwell : GoesWell host fs request job report)
      (hwritten : ∀ output, request.target fs = some output →
        (job.writing host report output).stop = none) :
      Deserves host fs arguments .success

/-- A run exits, with the status that it deserves and with no other one. -/
structure ExitsAsDeserved (host : Host) (fs : FileSystem) (arguments : List String) : Prop where
  /-- The run exits with some status. -/
  exits : ∃ status : ExitStatus, exitCode? host fs arguments = some status.code
  /-- A status is that of the run exactly when it is deserved. -/
  deserved : ∀ status : ExitStatus,
    exitCode? host fs arguments = some status.code ↔ Deserves host fs arguments status

/-- Different statuses have different numbers. -/
lemma ExitStatus.code_injective : Function.Injective ExitStatus.code := by
  intro a b hcode
  cases a <;> cases b <;> first | rfl | exact absurd hcode (by decide)

variable {host : Host} {fs : FileSystem} {arguments : List String} {request : Request} {job : Job}
  {report : BatchReport} {status : ExitStatus}

/-- The session of a run comes to an end. -/
def Ends (host : Host) (fs : FileSystem) (request : Request) : Prop :=
  ∀ system, ¬BreaksOff host fs request system

/-- A session that comes to an end prints the summary of its batch. -/
lemma Ends.reports (h : Ends host fs request) (hjob : Prepares host fs request job)
    (hreport : (job.generate host).result = .ok report) : Reports host fs request job report := by
  refine ⟨hjob, hreport, ?_⟩
  rw [← Bool.not_eq_false]
  exact fun hprints => h fs (.unprinted hjob hreport hprints)

/-- A session that comes to an end after a batch that goes well takes the course that the writing of
its artifacts sets. -/
lemma Ends.course_of_goesWell (h : Ends host fs request)
    (hwell : GoesWell host fs request job report) {output : FilePath}
    (htarget : request.target fs = some output) :
    ∃ system, Course host fs request
      (if (job.writing host report output).stop = none then .success else .unwritten) system := by
  have hreport := h.reports hwell.prepares hwell.reports
  have houtput := hwell.prepares.output.trans htarget
  cases hstop : (job.writing host report output).stop with
  | none =>
    refine ⟨_, .written hreport hwell.isSuccess houtput hstop ?_⟩
    rw [← Bool.not_eq_false]
    exact fun hprints => h _ (.unreported hreport hwell.isSuccess houtput hstop hprints)
  | some stop =>
    cases stop with
    | failed fault => exact ⟨_, .unwritten hreport hwell.isSuccess houtput hstop⟩
    | noBytes => exact absurd (.noBytes hreport hwell.isSuccess houtput hstop) (h _)

/-- What a run deserves is what the request of its arguments deserves. -/
lemma Deserves.course (h : Deserves host fs arguments status)
    (hread : Request.ofArguments arguments = .ok request) (hends : Ends host fs request) :
    ∃ system, Course host fs request status system := by
  have hsame : ∀ {other}, Request.ofArguments arguments = .ok other → other = request :=
    fun hother => Except.ok.inj (hother.symm.trans hread)
  cases h with
  | misused hmisused => exact absurd (hmisused.symm.trans hread) (by simp)
  | unusable hother hunusable =>
    obtain rfl := hsame hother
    exact ⟨_, .refused hunusable (fun hrefused => hends _ (.refused hrefused))
      fun fault hwordless => hends _ (.wordless hwordless)⟩
  | invalid hother hjob hreport hfailed =>
    obtain rfl := hsame hother
    exact ⟨_, .invalid (hends.reports hjob hreport) hfailed⟩
  | unwritten hother hwell htarget hstop =>
    obtain rfl := hsame hother
    have hcourse := hends.course_of_goesWell hwell htarget
    rwa [if_neg (by simp [hstop])] at hcourse
  | @success _ job report hother hwell hwritten =>
    obtain rfl := hsame hother
    have hreport := hends.reports hwell.prepares hwell.reports
    cases houtput : job.output with
    | none => exact ⟨_, .validated hreport hwell.isSuccess houtput⟩
    | some output =>
      have htarget := hwell.prepares.output.symm.trans houtput
      have hcourse := hends.course_of_goesWell hwell htarget
      rwa [if_pos (hwritten output htarget)] at hcourse

/-- A batch that has a report and is a success goes well. -/
lemma Reports.goesWell (h : Reports host fs request job report)
    (hsuccess : report.isSuccess = true) : GoesWell host fs request job report :=
  ⟨h.prepares, h.result, hsuccess⟩

/-- The course of a session ends with the status that is deserved. -/
lemma Course.deserves {system : FileSystem} (h : Course host fs request status system)
    (hread : Request.ofArguments arguments = .ok request) : Deserves host fs arguments status := by
  cases h with
  | refused hunusable => exact .unusable hread hunusable
  | invalid hreport hfailed => exact .invalid hread hreport.prepares hreport.result hfailed
  | validated hreport hsuccess houtput =>
    refine .success hread (hreport.goesWell hsuccess) fun output htarget => ?_
    rw [← hreport.prepares.output, houtput] at htarget
    exact absurd htarget (by simp)
  | written hreport hsuccess houtput hstop =>
    refine .success hread (hreport.goesWell hsuccess) fun output htarget => ?_
    rw [← hreport.prepares.output, houtput] at htarget
    obtain rfl := Option.some.inj htarget
    exact hstop
  | unwritten hreport hsuccess houtput hstop =>
    exact .unwritten hread (hreport.goesWell hsuccess)
      (hreport.prepares.output.symm.trans houtput) hstop

/-- A run whose session takes a course exits with the status of its end. -/
lemma Course.exitCode {system : FileSystem} (h : Course host fs request status system)
    (hread : Request.ofArguments arguments = .ok request) :
    exitCode? host fs arguments = some status.code := by
  obtain ⟨ending, hresult, rfl, -⟩ := h.answer
  rw [exitCode?, hread]
  simp only [hresult]

/-- A run that breaks off exits with no status. -/
lemma BreaksOff.exitCode {system : FileSystem} (h : BreaksOff host fs request system)
    (hread : Request.ofArguments arguments = .ok request) :
    exitCode? host fs arguments = none := by
  obtain ⟨b, hbreak, -⟩ := h.answer
  rw [exitCode?, hread]
  simp only [hbreak]

/-- **Which runs exit as they deserve.** A run that asks for neither help nor the version exits with
the status that it deserves exactly when its arguments are understood and it does not break off. -/
theorem exitsAsDeserved_iff (hhelp : Request.ofArguments arguments ≠ .error .help)
    (hversion : Request.ofArguments arguments ≠ .error .version) :
    ExitsAsDeserved host fs arguments ↔
      ∃ request, Request.ofArguments arguments = .ok request ∧ Ends host fs request := by
  constructor
  · intro hexits
    cases hread : Request.ofArguments arguments with
    | error stop =>
      cases stop with
      | help => exact absurd hread hhelp
      | version => exact absurd hread hversion
      | misuse m =>
        -- the number of a misuse is not that of what cannot be used
        have hcode := (hexits.deserved .badInput).mpr (.misused hread)
        rw [exitCode?, hread] at hcode
        have hother : misuseCode ≠ ExitStatus.badInput.code := by decide
        exact absurd (Option.some.inj hcode) hother
    | ok request =>
      refine ⟨request, rfl, fun system hbreaks => ?_⟩
      obtain ⟨status, hcode⟩ := hexits.exits
      rw [hbreaks.exitCode hread] at hcode
      exact absurd hcode (by simp)
  · rintro ⟨request, hread, hends⟩
    obtain ⟨status, system, hcourse⟩ :=
      (breaksOff_or_course host fs request).resolve_left (not_exists.mpr hends)
    have hcode := hcourse.exitCode hread
    refine ⟨⟨status, hcode⟩, fun other => ⟨fun hother => ?_, fun hother => ?_⟩⟩
    · obtain rfl := ExitStatus.code_injective (Option.some.inj (hother.symm.trans hcode))
      exact hcourse.deserves hread
    · obtain ⟨later, hlater⟩ := hother.course hread hends
      exact hlater.exitCode hread

/-- Files with a document in which a number stands for a declaration. -/
def misdeclared : FileSystem where
  root := .directory [("e.json", .file (encodeUtf8 "\x7b\"entities\": [1]\x7d".toList))]
  directory := []
  up_notMem := List.not_mem_nil

/-- A run that validates a document with a declaration that fails exits as it deserves. -/
theorem exitsAsDeserved_misdeclared :
    ExitsAsDeserved lenient misdeclared ["-s", "e.json", "--validate-only"] ∧
      Deserves lenient misdeclared ["-s", "e.json", "--validate-only"] .invalid := by
  have hcode : exitCode? lenient misdeclared ["-s", "e.json", "--validate-only"] =
      some ExitStatus.invalid.code := by
    decide +kernel
  obtain ⟨request, hread⟩ := isOk_iff.mp (by decide +kernel :
    (Request.ofArguments ["-s", "e.json", "--validate-only"]).isOk = true)
  have hends : Ends lenient misdeclared request := by
    intro system hbreaks
    rw [hbreaks.exitCode hread] at hcode
    exact absurd hcode (by simp)
  have hexits : ExitsAsDeserved lenient misdeclared ["-s", "e.json", "--validate-only"] :=
    (exitsAsDeserved_iff (by simp [hread]) (by simp [hread])).mpr ⟨request, hread, hends⟩
  exact ⟨hexits, (hexits.deserved .invalid).mp hcode⟩

/-- A run with an argument that means nothing deserves the status of what cannot be used, and exits
with that of artifacts that are not written. -/
theorem not_exitsAsDeserved_surplus :
    Request.ofArguments ["-s", "e.json", "-o", "out", "--bogus"] =
        .error (.misuse (.surplus ["--bogus"])) ∧
      Deserves lenient misdeclared ["-s", "e.json", "-o", "out", "--bogus"] .badInput ∧
      exitCode? lenient misdeclared ["-s", "e.json", "-o", "out", "--bogus"] =
        some ExitStatus.unwritten.code ∧
      ¬ExitsAsDeserved lenient misdeclared ["-s", "e.json", "-o", "out", "--bogus"] := by
  have hread : Request.ofArguments ["-s", "e.json", "-o", "out", "--bogus"] =
      .error (.misuse (.surplus ["--bogus"])) := rfl
  have hcode : exitCode? lenient misdeclared ["-s", "e.json", "-o", "out", "--bogus"] =
      some ExitStatus.unwritten.code := by
    rw [exitCode?, hread]
    rfl
  refine ⟨hread, .misused hread, hcode, fun hexits => ?_⟩
  have hdeserved := (hexits.deserved .badInput).mpr (.misused hread)
  have hsame := ExitStatus.code_injective (Option.some.inj (hdeserved.symm.trans hcode))
  exact absurd hsame (by decide)

end SqlMapping.CommandLine
