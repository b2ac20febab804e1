import SqlMapping.Files.Tree
import SqlMapping.Log
import SqlMapping.Text.Quoted
import SqlMapping.Text.Utf8

/-!
# Writing files

Before a file is written the directories around it are made. A file may be written aside, under a
name of its own beside its place, and moved to its place when it is complete; when a directory has
that place, the file is moved into it. Files are written one after the other; those that are written
before a failure stay, and so do the directories that are made. A text in which a half of a surrogate
pair stands has no bytes, so it is not written, and that is no failure of the system.
-/

namespace SqlMapping.Files

open SqlMapping.Number SqlMapping.Text

/-- Why a file or a directory is not made. -/
inductive WriteCause where
  /-- A name on the way is missing. -/
  | missing
  /-- A file has the name of the directory. -/
  | occupied
  /-- A name on the way is that of a file. -/
  | notDirectory
  /-- A directory has the name of the file. -/
  | isDirectory
  /-- Something has the name that a file is moved to. -/
  | taken
  /-- The system refuses. -/
  | refused (fault : SystemFault)
deriving DecidableEq

/-- The words for a cause at a path. -/
def WriteCause.message (p : FilePath) : WriteCause → String
  | .missing => numbered 2 "No such file or directory"
  | .occupied => numbered 17 "File exists"
  | .notDirectory => numbered 20 "Not a directory"
  | .isDirectory => numbered 21 "Is a directory"
  | .taken => s!"Destination path '{p.text}' already exists"
  | .refused fault => fault.wording
where
  /-- The words for a cause that has a number. -/
  numbered (number : Nat) (wording : String) : String :=
    "[Errno " ++ natText number ++ "] " ++ wording ++ ": " ++ quote p.text

/-- A failure to write, and the path at which it was noticed. -/
structure WriteFault where
  /-- The cause. -/
  cause : WriteCause
  /-- The path. -/
  path : FilePath
deriving DecidableEq

/-- The wording of a failure. -/
def WriteFault.message (f : WriteFault) : String :=
  f.cause.message f.path

/-- Why a text is not written. -/
inductive Unwritten where
  /-- The system fails to write it. -/
  | failed (fault : WriteFault)
  /-- A half of a surrogate pair stands in it. -/
  | noBytes
deriving DecidableEq

/-- The cause that an obstacle is for writing. -/
def Obstacle.cause : Obstacle → WriteCause
  | .missing => .missing
  | .notDirectory => .notDirectory

namespace FileSystem

/-- The place of an entry of a directory: the names that lead to the directory, and that of the
entry. Without a name the directory itself is meant. -/
def placeOf (fs : FileSystem) (p : FilePath) : Except Obstacle (List String) := do
  match p.names.getLast? with
  | none => return fs.start p
  | some name =>
    let around ← fs.locate p.parent
    match fs.root.find around with
    | .ok (.directory _) => return if name = FilePath.up then around.dropLast else around ++ [name]
    | _ => throw .notDirectory

/-- Makes one directory. -/
def makeDirectory (fs : FileSystem) (p : FilePath) : Except WriteCause FileSystem :=
  match fs.placeOf p with
  | .error obstacle => .error obstacle.cause
  | .ok place =>
    match fs.root.find place, fs.refuses .make p with
    | .ok _, _ => .error .occupied
    | .error _, some fault => .error (.refused fault)
    | .error _, none => .ok (fs.put place (.directory []))

/-- Makes a directory unless it is there. -/
def ensureDirectory (fs : FileSystem) (p : FilePath) : Except WriteFault FileSystem :=
  match fs.makeDirectory p with
  | .ok made => .ok made
  | .error cause =>
    if cause != .missing && fs.isDirectory p then .ok fs else .error ⟨cause, p⟩

/-- The system that is made, or the one at hand and the failure. -/
def orFail (fs : FileSystem) : Except WriteFault FileSystem → FileSystem × Except WriteFault Unit
  | .ok made => (made, .ok ())
  | .error fault => (fs, .error fault)

/-- Makes a directory and those around it, unless they are there; the directories that are made
before a failure stay. The names of the path are given from the last one to the first. -/
def ensureDirectories (fs : FileSystem) (isAbsolute : Bool) :
    List String → FileSystem × Except WriteFault Unit
  | [] => fs.orFail (fs.ensureDirectory ⟨isAbsolute, []⟩)
  | name :: around =>
    let path : FilePath := ⟨isAbsolute, (name :: around).reverse⟩
    match fs.ensureDirectory path with
    | .ok made => (made, .ok ())
    | .error fault =>
      if fault.cause = .missing then
        match fs.ensureDirectories isAbsolute around with
        | (made, .ok ()) => made.orFail (made.ensureDirectory path)
        | (made, .error fault) => (made, .error fault)
      else (fs, .error fault)

/-- Replaces the content of a file. -/
def replaceFile (fs : FileSystem) (p : FilePath) (data : List UInt8) :
    Except WriteCause FileSystem :=
  match fs.placeOf p with
  | .error obstacle => .error obstacle.cause
  | .ok place =>
    match fs.refuses .write p, fs.root.find place with
    | some fault, _ => .error (.refused fault)
    | none, .ok (.directory _) => .error .isDirectory
    | none, _ => .ok (fs.put place (.file data))

/-- The name under which a file is written aside; the mark tells such files apart. -/
def asideName (name mark : String) : String :=
  "." ++ name ++ "." ++ mark ++ ".tmp"

/-- Moves a file that is written aside into the directory that has its place, where it keeps the
name under which it is written. -/
def moveInto (fs : FileSystem) (p : FilePath) (mark : String) (data : List UInt8) :
    Except WriteFault FileSystem :=
  let inside := p.append ⟨false, [asideName (p.names.getLast?.getD "") mark]⟩
  match fs.placeOf inside with
  | .error obstacle => .error ⟨obstacle.cause, inside⟩
  | .ok place =>
    match fs.root.find place, fs.refuses .write inside with
    | .ok _, _ => .error ⟨.taken, inside⟩
    | .error _, some fault => .error ⟨.refused fault, inside⟩
    | .error _, none => .ok (fs.put place (.file data))

/-- Writes bytes to a file, aside if a mark is given. -/
def store (fs : FileSystem) (aside : Option String) (p : FilePath) (data : List UInt8) :
    Except WriteFault FileSystem :=
  match fs.replaceFile p data, aside with
  | .ok written, _ => .ok written
  | .error .isDirectory, some mark => fs.moveInto p mark data
  | .error cause, _ => .error ⟨cause, p⟩

/-- Writes a text to a file: the system afterwards, and the number of bytes. -/
def writeFile (fs : FileSystem) (aside : Option String) (p : FilePath) (content : String) :
    FileSystem × Except Unwritten Nat :=
  match fs.ensureDirectories p.isAbsolute p.parent.names.reverse with
  | (made, .error fault) => (made, .error (.failed fault))
  | (made, .ok ()) =>
    match encode? content with
    | none => (made, .error .noBytes)
    | some data =>
      match made.store aside p data with
      | .ok written => (written, .ok data.length)
      | .error fault => (made, .error (.failed fault))

end FileSystem

/-- What writing several files has come to. -/
structure Writing where
  /-- The files of the system afterwards. -/
  system : FileSystem
  /-- The number of files written. -/
  count : Nat := 0
  /-- The number of bytes written. -/
  size : Nat := 0
  /-- Why the writing has ended early, if it has. -/
  stop : Option Unwritten := none

namespace Writing

/-- Writes one more file, unless the writing has ended. -/
def add (aside : Option String) (base : FilePath) (w : Writing) (file : String × String) : Writing :=
  match w.stop with
  | some _ => w
  | none =>
    match w.system.writeFile aside (base.append (.ofText file.1)) file.2 with
    | (system, .ok size) => { w with system, count := w.count + 1, size := w.size + size }
    | (system, .error stop) => { w with system, stop := some stop }

/-- Writes files below a directory. -/
def ofFiles (system : FileSystem) (aside : Option String) (base : FilePath)
    (files : List (String × String)) : Writing :=
  files.foldl (add aside base) { system }

/-- The log entry about files that are all written. -/
def closingEntry (w : Writing) (base : FilePath) : LogEntry :=
  ⟨.info, .files,
    "Batch write complete: " ++ natText w.count ++ " files, " ++ natText w.size ++ " bytes to " ++
      base.text⟩

end Writing

/-- A list of files in which a later text replaces the earlier one of the same name. -/
def putText (name content : String) : List (String × String) → List (String × String)
  | [] => [(name, content)]
  | (key, old) :: rest =>
    if key = name then (key, content) :: rest else (key, old) :: putText name content rest

/-- The files of a list in which a name may occur several times: its last text counts. -/
def distinctFiles (files : List (String × String)) : List (String × String) :=
  files.foldl (fun seen (name, content) => putText name content seen) []

end SqlMapping.Files
