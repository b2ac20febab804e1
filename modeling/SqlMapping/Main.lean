import SqlMapping.CommandLine.Help
import SqlMapping.CommandLine.Reading
import SqlMapping.CommandLine.Session
import Std.Time.Format

/-!
# The program

The outer layer of the command line: it looks up the files that a request is about, lets the session
answer the request, writes the files that are new in the answer, and prints.
-/

namespace SqlMapping.CommandLine

open SqlMapping.Files SqlMapping.Text

/-- A text as the machine shows it: without the guards of its spelling, and with a mark in place of
each half of a surrogate pair. -/
def shownText (s : String) : String :=
  String.ofList <| (codePoints s.toList).map fun p => p.char?.getD '\uFFFD'

/-- The text of the path to a place. -/
def placeText (place : List String) : String :=
  shownText (FilePath.mk true place).text

/-- What stands at a place of the machine, without its content. -/
def lookUp (place : List String) : IO (Option Node) := do
  try
    let path ← IO.FS.realPath (placeText place)
    if ← path.isDir then return some (.directory [])
    else if ← path.pathExists then return some (.file [])
    else return none
  catch _ => return none

/-- A tree with everything that stands on the way to a place. -/
def addWay (root : Node) (done : List String) : List String → IO Node
  | [] => return root
  | name :: rest => do
    let place := done ++ [name]
    match root.find place with
    | .ok _ => addWay root place rest
    | .error _ =>
      match ← lookUp place with
      | none => return root
      | some node => addWay (Node.put node place root) place rest

/-- A tree with the content of the file at a place, if there is one, and what the machine says if it
refuses to read the file. -/
def addContent (root : Node) (place : List String) : IO (Node × Option SystemFault) := do
  match root.find place with
  | .ok (.file _) =>
    try
      let data ← IO.FS.readBinFile (placeText place)
      return (Node.put (.file data.toList) place root, none)
    catch e => return (root, some { wording := spelled e.toString.toList })
  | _ => return (root, none)

/-- A tree with the entries of the directory at a place, if there is one. -/
def addEntries (root : Node) (place : List String) : IO Node := do
  match root.find place with
  | .ok (.directory _) =>
    let path ← IO.FS.realPath (placeText place)
    (← path.readDir).foldlM (fun root entry => addWay root place [spelled entry.fileName.toList]) root
  | _ => return root

/-- The files of the machine as far as a request is about them. -/
def systemFor (request : Request) : IO FileSystem := do
  let path := (FilePath.ofText (spelled (← IO.currentDir).toString.toList)).resolve []
  let here := path.names
  let place (s : String) : List String := ((FilePath.ofText s).resolve here).names
  let root ← addWay (.directory []) [] here
  let root ← addWay root [] (place request.document)
  let (root, fault?) ← addContent root (place request.document)
  let root ← match request.options.output with
    | some output => do
      let root ← addWay root [] (place output)
      addEntries root (place output)
    | none => pure root
  return {
    root
    directory := here
    up_notMem := FilePath.up_notMem_resolve List.not_mem_nil _
    refuses := fun deed p =>
      if deed = .read && p.names = place request.document then fault? else none }

/-- Writes a file by way of another one beside it, so that it is never half written. -/
def writeAside (place : List String) (data : List UInt8) : IO Unit := do
  let aside := placeText (place.dropLast ++ ["." ++ (place.getLast?.getD "") ++ ".tmp"])
  IO.FS.createDirAll (placeText place.dropLast)
  IO.FS.writeBinFile aside ⟨data.toArray⟩
  IO.FS.rename aside (placeText place)

/-- Writes the files that are new or changed in the second of two systems. -/
def writeChanges (before after : FileSystem) : IO Unit := do
  let old := before.root.files []
  for (place, data) in after.root.files [] do
    if !old.contains (place, data) then writeAside place data

/-- Prints a log entry with the time of day. -/
def printEntry (e : LogEntry) : IO Unit := do
  let time := (← Std.Time.PlainTime.now).format "HH:mm:ss"
  let level := padRight 8 e.level.name
  IO.eprintln s!"{time} │ {level} │ {loggerName e.source} │ {shownText e.text}"

/-- Prints the entries that are shown. -/
def printEntries (o : Options) (entries : List LogEntry) : IO Unit :=
  (entries.filter o.shows).forM printEntry

/-- Prints lines. -/
def printLines (lines : List String) : IO Unit :=
  lines.forM fun line => IO.println (shownText line)

/-- Prints how the program is called where errors are printed. -/
def printUsage : IO Unit :=
  usageLines.forM fun line => IO.eprintln line

/-- Answers a request, and measures the time that its batch takes. -/
def answerTimed (fs : FileSystem) (request : Request) : IO (Run LogEntry Breakdown Ending) := do
  let start ← IO.monoMsNow
  let host : Host := { mark := Number.natText start }
  let prepared := prepare host fs request
  match prepared.result with
  | .error breakdown => return ⟨.error breakdown, prepared.trace⟩
  | .ok (.error ending) => return ⟨.ok ending, prepared.trace⟩
  | .ok (.ok job) =>
    let start ← IO.monoMsNow
    let generated ← IO.lazyPure fun _ => job.generate host
    let stop ← IO.monoMsNow
    let host := { host with elapsed := ⟨stop - start, 0, stop - start⟩ }
    let concluded : Session Ending := do
      let report ← (⟨generated.result, []⟩ : Session BatchReport)
      job.conclude host report
    return ⟨concluded.result, prepared.trace ++ generated.trace ++ concluded.trace⟩

/-- What is said of a session that breaks off. -/
def BreakCause.wording : BreakCause → String
  | .refused fault | .unloaded (.refused fault) => fault.wording
  | .unloaded _ => "The document is broken."
  | .escaped .overlong => Number.writeLimitMessage
  | .escaped .tooDeep => "A default is nested too deeply."
  | .escaped (.badSchema report) => report.summary
  | .unprinted => "A text cannot be printed."
  | .noBytes => "A text cannot be encoded."

/-- Carries out a request, and returns the status of the program. -/
def perform (request : Request) : IO UInt32 := do
  let fs ← systemFor request
  let run ← answerTimed fs request
  match run.result with
  | .error breakdown =>
    writeChanges fs breakdown.system
    printEntries request.options run.trace
    IO.eprintln (shownText breakdown.cause.wording)
    return 1
  | .ok ending =>
    try
      writeChanges fs ending.system
      printEntries request.options run.trace
      printLines ending.printed
      if ending.showsUsage then printUsage
      return ending.status.code.toUInt32
    catch e =>
      printEntries request.options
        [⟨.error, .program, s!"Failed to write output: {e}"⟩,
          ⟨.error, .program, "Failed with exit code 2."⟩]
      return ExitStatus.unwritten.code.toUInt32

end SqlMapping.CommandLine

open SqlMapping.CommandLine SqlMapping.Text in
/-- The program. -/
def main (arguments : List String) : IO UInt32 :=
  match Request.ofArguments (arguments.map fun argument => spelled argument.toList) with
  | .ok request => perform request
  | .error stop => do
    match stop with
    | .help => printLines helpLines
    | .version => printLines [versionText]
    | .misuse m =>
      printUsage
      IO.eprintln (misuseLine m.message)
    return stop.code.toUInt32
