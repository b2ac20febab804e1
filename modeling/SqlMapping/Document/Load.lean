import SqlMapping.Document.Json
import SqlMapping.Document.Sections
import SqlMapping.Document.Yaml.Meaning
import SqlMapping.Files.Tree
import SqlMapping.Text.Case
import SqlMapping.Text.Utf8

/-!
# Loading documents

The suffix of a file decides whether it is read as JSON or as YAML. Its bytes are those of a text,
in which every line break counts as a line feed. How deeply the values of a text may be nested
depends on the machine, and what reads a YAML text is given, too.
-/

namespace SqlMapping.Document

open SqlMapping.Files SqlMapping.Shape SqlMapping.Text

/-- The forms in which a document is written. -/
inductive Format where
  | json | yaml
deriving DecidableEq

/-- What a form calls a mapping at the top of a document. -/
def Format.topWording : Format → String
  | .json => "JSON object"
  | .yaml => "YAML mapping"

/-- The form of the document at a path. -/
def Format.ofPath (p : FilePath) : Format :=
  if lower p.suffix = ".json" then .json else .yaml

/-- What reads the texts of documents. -/
structure Reader where
  /-- How many levels of lists and mappings a JSON text may have. -/
  room : Nat
  /-- The reader of YAML texts. -/
  yaml : String → Except Yaml.Fault Value

/-- The reader with room for so many levels. -/
def Reader.standard (room : Nat) : Reader :=
  ⟨room, Yaml.read room⟩

/-- Why a document is not loaded. -/
inductive LoadFault where
  /-- There is nothing at the path. -/
  | missing (path : FilePath)
  /-- What stands at the path is no file. -/
  | notFile (path : FilePath)
  /-- The system refuses to look at the file or to read it. -/
  | refused (fault : SystemFault)
  /-- The bytes are not those of a text. -/
  | notUnicode (fault : Utf8Fault)
  /-- The JSON text is malformed; the wording is given. -/
  | badJson (path : FilePath) (detail : String)
  /-- An integer of the JSON text has too many digits. -/
  | overlongJson (digits : Nat)
  /-- The values of the JSON text are nested too deeply. -/
  | deepJson
  /-- The YAML text has no value. -/
  | badYaml (path : FilePath) (fault : Yaml.Fault)
  /-- The value is not a mapping. -/
  | notMapping (format : Format) (typeName : String)
  /-- A section cannot be read. -/
  | badSections (fault : SectionFault)
deriving DecidableEq

/-- The wording of a fault, for the faults that are put into words. -/
def LoadFault.message? : LoadFault → Option String
  | .missing path => some s!"Declaration file not found: {path.text}"
  | .notFile path => some s!"Declaration path is not a file: {path.text}"
  | .refused fault => if fault.isMissing then some fault.wording else none
  | .notUnicode fault => some fault.message
  | .badJson path detail => some s!"Invalid JSON in {path.text}: {detail}"
  | .overlongJson digits => some (Number.readLimitMessage digits)
  | .deepJson => none
  | .badYaml path .malformed => some s!"Invalid YAML in {path.text}"
  | .badYaml _ (.badValue message) => some message
  | .badYaml _ _ => none
  | .notMapping format typeName =>
    some s!"Expected a {format.topWording} at top level, got {typeName}."
  | .badSections fault => some fault.message

/-- A list of characters in which every line break is a line feed. -/
def joinLineBreaks : List Char → List Char
  | [] => []
  | '\r' :: '\n' :: rest => '\n' :: joinLineBreaks rest
  | '\r' :: rest => '\n' :: joinLineBreaks rest
  | c :: rest => c :: joinLineBreaks rest

/-- The text of a file. -/
def textOf (data : List UInt8) : Except LoadFault String :=
  match decodeUtf8 data with
  | .ok s => .ok (String.ofList (joinLineBreaks s.toList))
  | .error fault => .error (.notUnicode fault)

/-- The value of a text of a form. -/
def Reader.valueOfText (reader : Reader) (path : FilePath) (format : Format) (text : String) :
    Except LoadFault Value :=
  match format with
  | .json =>
    match Json.read reader.room text with
    | .ok v => .ok v
    | .error .tooDeep => .error .deepJson
    | .error (.tooLong digits) => .error (.overlongJson digits)
    | .error (.malformed message position) =>
      .error (.badJson path (Json.malformedMessage text message position))
  | .yaml =>
    match reader.yaml text with
    | .ok v => .ok v
    | .error fault => .error (.badYaml path fault)

/-- The mapping at the top of the document in a file. -/
def Reader.readFile (reader : Reader) (path : FilePath) (data : List UInt8) :
    Except LoadFault Entries := do
  let text ← textOf data
  let format := Format.ofPath path
  match ← reader.valueOfText path format text with
  | .mapping entries => return entries
  | v => throw (.notMapping format v.typeName)

/-- The document at a path. -/
def load (reader : Reader) (fs : FileSystem) (path : FilePath) : Except LoadFault Entries :=
  match fs.refuses .look path, fs.find? path, fs.refuses .read path with
  | some fault, _, _ => .error (.refused fault)
  | none, none, _ => .error (.missing path)
  | none, some (.directory _), _ => .error (.notFile path)
  | none, some (.file _), some fault => .error (.refused fault)
  | none, some (.file data), none => reader.readFile path data

/-- The sections of the document at a path. -/
def loadSections (reader : Reader) (fs : FileSystem) (path : FilePath) :
    Except LoadFault Sections :=
  (load reader fs path).bind fun document => (readSections document).mapError .badSections

end SqlMapping.Document
