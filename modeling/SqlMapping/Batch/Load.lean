import SqlMapping.Batch.Generate
import SqlMapping.Document.Load

/-!
# Generating the batch of a document

The settings of a document apply to its own batch; a document without settings is generated with
those at hand.
-/

namespace SqlMapping

open SqlMapping.Document SqlMapping.Files

/-- Why a document has no report. -/
inductive DocumentFailure where
  /-- The document is not loaded. -/
  | unloaded (fault : LoadFault)
  /-- The batch breaks off. -/
  | escaped (reason : Escape)

namespace Batch

/-- Generates the batch of the document at a path; a refused default is shown in the room given. -/
def generateDocument (reader : Reader) (room : Nat) (settings : Settings) (fs : FileSystem)
    (path : FilePath) : Logged DocumentFailure BatchReport := do
  let document ← Run.ofExcept ((load reader fs path).mapError .unloaded)
  Logged.write .info .generation s!"Loaded declaration file: {path.text}."
  let sections ← Run.ofExcept ((readSections document).mapError fun f => .unloaded (.badSections f))
  let run := generate (if sections.givesSettings then sections.settings else settings)
    (sections.entities.map (.raw room))
  ⟨run.result.mapError .escaped, run.trace⟩

end Batch

end SqlMapping
