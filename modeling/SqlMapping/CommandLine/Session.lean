import SqlMapping.Batch.Generate
import SqlMapping.CommandLine.Reading
import SqlMapping.Document.Load
import SqlMapping.Files.Write
import SqlMapping.Render.Json
import SqlMapping.Render.Module
import SqlMapping.Render.Script

/-!
# Sessions

A session answers one request: it finds the document, reads it, generates the batch, reports on it,
and writes the artifacts unless it is only to validate. Nothing is written for a batch that has not
gone well. A session may also break off: where the system refuses what no part of it expects to be
refused, where the document or the batch comes to nothing, and where a text cannot be printed or
encoded.
-/

namespace SqlMapping.CommandLine

open SqlMapping.Document SqlMapping.Files SqlMapping.Number SqlMapping.Text

/-- How a session ends. -/
inductive ExitStatus where
  /-- Everything has gone well. -/
  | success
  /-- The batch has failures or errors. -/
  | invalid
  /-- The artifacts are not written. -/
  | unwritten
  /-- The request or the document cannot be used. -/
  | badInput
deriving DecidableEq

/-- The number of a status. -/
def ExitStatus.code : ExitStatus → Nat
  | .success => 0
  | .invalid => 1
  | .unwritten => 2
  | .badInput => 4

/-- The status of a command line that is not understood. -/
def misuseCode : Nat := 2

/-- The status of a command line that asks for no generation. -/
def Stop.code : Stop → Nat
  | .help | .version => 0
  | .misuse _ => misuseCode

/-- What a session comes to. -/
structure Ending where
  /-- How it ends. -/
  status : ExitStatus
  /-- The lines that it prints. -/
  printed : List String := []
  /-- Whether it shows how the program is called. -/
  showsUsage : Bool := false
  /-- The files afterwards. -/
  system : FileSystem

/-- What a machine adds to a session. -/
structure Host where
  /-- The time that the parts of the batch take. -/
  elapsed : Elapsed := {}
  /-- The mark of the files that are written aside. -/
  mark : String
  /-- The reader of documents. -/
  reader : Reader := .standard 200
  /-- How many levels of a refused default there is room to show. -/
  room : Nat := 200
  /-- The texts that can be printed. -/
  prints : String → Bool := isWhole

/-- Why a session breaks off. -/
inductive BreakCause where
  /-- The system refuses to follow a path of the request or to look what stands there. -/
  | refused (fault : SystemFault)
  /-- The document is broken in a way that is not put into words. -/
  | unloaded (fault : LoadFault)
  /-- The batch breaks off. -/
  | escaped (reason : Escape)
  /-- A text cannot be printed. -/
  | unprinted
  /-- A half of a surrogate pair stands in an artifact that is to be written. -/
  | noBytes

/-- A session that has broken off. -/
structure Breakdown where
  /-- The cause. -/
  cause : BreakCause
  /-- The files afterwards. -/
  system : FileSystem

/-- A part of a session. -/
abbrev Session := Logged Breakdown

/-- Writes a log entry of the program itself. -/
def note (level : LogLevel) (text : String) : Session Unit :=
  Logged.write level .program text

/-- Asks the system to do something that it may refuse. -/
def ask (fs : FileSystem) (deed : Deed) (path : FilePath) : Session Unit :=
  match fs.refuses deed path with
  | some fault => throw ⟨.refused fault, fs⟩
  | none => pure ()

/-- Prints a text, which breaks the session off if it cannot be printed. -/
def print (host : Host) (fs : FileSystem) (text : String) : Session Unit :=
  if host.prints text then pure () else throw ⟨.unprinted, fs⟩

/-- A document that is read, and what is to become of it. -/
structure Job where
  /-- The files. -/
  system : FileSystem
  /-- The directory that the artifacts are written to, if they are. -/
  output : Option FilePath
  /-- The form in which they are written. -/
  format : OutputFormat
  /-- The declarations. -/
  declarations : List Value
  /-- The settings. -/
  settings : Settings

/-- Ends a session after the batch was to be generated. -/
def finish (ending : Ending) : Session Ending := do
  if ending.status = .success then note .info "Done."
  else note .error ("Failed with exit code " ++ natText ending.status.code ++ ".")
  return ending

/-- Ends a session because of what it was given. -/
def refuse (fs : FileSystem) (text : String) : Session Ending := do
  note .error text
  finish { status := .badInput, system := fs }

/-- Reads the document of a request. -/
def readDocument (host : Host) (fs : FileSystem) (o : Options) (document : FilePath)
    (output : Option FilePath) : Session (Except Ending Job) := do
  match loadSections host.reader fs document with
  | .error fault =>
    match fault.message? with
    | none => throw (⟨.unloaded fault, fs⟩ : Breakdown)
    | some message =>
      let ending ← refuse fs ("Failed to load declarations: " ++ message)
      return .error ending
  | .ok sections =>
    match o.override sections.settings with
    | .error report =>
      let ending ← refuse fs ("Invalid configuration override: " ++ report.summary)
      return .error ending
    | .ok settings => return .ok ⟨fs, output, o.format, sections.entities, settings⟩

/-- Whether a path leads to a file. -/
def isFile (fs : FileSystem) (path : FilePath) : Bool :=
  match fs.find? path with
  | some (.file _) => true
  | _ => false

/-- Notes what a request is about, and reads its document. -/
def begin (host : Host) (fs : FileSystem) (o : Options) (document : FilePath)
    (output : Option FilePath) : Session (Except Ending Job) := do
  note .info ("Schema:  " ++ document.text)
  note .info ("Output:  " ++ (output.map FilePath.text).getD "None")
  note .info ("Format:  " ++ o.format.name)
  readDocument host fs o document output

/-- Prepares the generation that a request asks for. -/
def prepare (host : Host) (fs : FileSystem) (request : Request) : Session (Except Ending Job) := do
  let o := request.options
  ask fs .follow (FilePath.ofText request.document)
  let document := (FilePath.ofText request.document).resolve fs.directory
  ask fs .look document
  if !isFile fs document then
    note .error s!"Declaration file not found: {document.text}"
    return .error { status := .badInput, system := fs }
  else if o.validatesOnly then begin host fs o document none
  else
    match o.output with
    | none =>
      note .error
        ("Output directory is required for generation. Use -o/--output or --validate-only.")
      return .error { status := .badInput, showsUsage := true, system := fs }
    | some output =>
      ask fs .follow (FilePath.ofText output)
      begin host fs o document (some ((FilePath.ofText output).resolve fs.directory))

/-- Generates the batch of a job. -/
def Job.generate (job : Job) (host : Host) : Session BatchReport :=
  let run := Batch.generate job.settings (job.declarations.map (.raw host.room))
  ⟨run.result.mapError fun reason => ⟨.escaped reason, job.system⟩, run.trace⟩

/-- The text of the file that makes a directory of modules a package. -/
def packageText : String :=
  "\"\"\"Generated by EntityMap.\"\"\"\n"

/-- The files of artifacts in a form, by name. -/
def outputFiles (format : OutputFormat) (units : List Artifacts) (settings : Settings) :
    List (String × String) :=
  match format with
  | .script => [("schema.sql", Render.script units)]
  | .data => [("units.json", Render.dataText units)]
  | .modules =>
    distinctFiles (("__init__.py", packageText) ::
      units.map fun a => (Render.fileName a.entity, Render.moduleText a settings))

/-- The writing of the artifacts of a batch to a directory, each file aside first. -/
def Job.writing (job : Job) (host : Host) (report : BatchReport) (output : FilePath) : Writing :=
  Writing.ofFiles job.system (some host.mark) output
    (outputFiles job.format report.artifacts report.settings)

/-- The line about files that are all written. -/
def writtenLine (w : Writing) (output : FilePath) : String :=
  "Wrote " ++ natText w.count ++ " file(s), " ++ natText w.size ++ " bytes to " ++ output.text

/-- Writes the artifacts of a batch to a directory; `summary` is printed already. -/
def Job.write (job : Job) (host : Host) (report : BatchReport) (output : FilePath)
    (summary : String) : Session Ending := do
  let w := job.writing host report output
  match w.stop with
  | some (.failed fault) =>
    note .error ("Failed to write output: " ++ fault.message)
    finish { status := .unwritten, printed := [summary], system := w.system }
  | some .noBytes => throw (⟨.noBytes, w.system⟩ : Breakdown)
  | none =>
    Run.emit (w.closingEntry output)
    let line := writtenLine w output
    print host w.system line
    finish { status := .success, printed := [summary, line], system := w.system }

/-- Reports on the batch of a job, and writes its artifacts if they are to be written. -/
def Job.conclude (job : Job) (host : Host) (report : BatchReport) : Session Ending := do
  Run.emit (report.closingEntry host.elapsed)
  let summary := report.summary host.elapsed
  print host job.system summary
  if !report.isSuccess then
    finish { status := .invalid, printed := [summary], system := job.system }
  else
    match job.output with
    | none => finish { status := .success, printed := [summary], system := job.system }
    | some output => job.write host report output summary

/-- Answers a request. -/
def answer (host : Host) (fs : FileSystem) (request : Request) : Session Ending := do
  match ← prepare host fs request with
  | .error ending => return ending
  | .ok job =>
    let report ← job.generate host
    job.conclude host report

/-- The status with which the program ends for a command line, unless it breaks off. -/
def exitCode? (host : Host) (fs : FileSystem) (arguments : List String) : Option Nat :=
  match Request.ofArguments arguments with
  | .error stop => some stop.code
  | .ok request =>
    match (answer host fs request).result with
    | .ok ending => some ending.status.code
    | .error _ => none

end SqlMapping.CommandLine
