import SqlMapping.Decode.Step
import SqlMapping.Log

/-!
# Decode plans

A column is decoded by its host type if that is a recognised one, else by its SQL type. A column of
neither kind is passed through untyped, with a warning or, if that is asked for, with a failure.
-/

namespace SqlMapping

/-- The decoder of a column, and whether it is the untyped one. -/
def Column.chooseDecoder (c : Column) : Decoder × Bool :=
  match c.recognisedHostType? with
  | some host => (host.decoder, false)
  | none =>
    match ColumnType.decoderOfText? c.sqlType with
    | some decoder => (decoder, false)
    | none => (.object, true)

/-- The step that decodes a column at a position. -/
def Column.decodeStep (c : Column) (position : Nat) : DecodeStep :=
  { position
    column := c.name
    hostType := c.hostType
    sqlType := c.sqlType
    decoder := c.chooseDecoder.1
    isUntyped := c.chooseDecoder.2 }

/-- The warning about an untyped column. -/
def Column.untypedWarning (c : Column) (entity : String) : String :=
  let owner := if entity = "" then "?" else entity
  s!"[{owner}] Field '{c.name}' ({c.sqlType}, host type '{c.hostType}') has no typed decoder; " ++
    "values are passed through as returned by the driver."

/-- Checks one column before it is decoded: its size has to be writable, and an untyped decoder is
reported. -/
def Column.checkDecoder (c : Column) (entity : String) (rejectsUntyped : Bool) : Step Unit :=
  if !c.isWritable then throw .overlong
  else if !c.chooseDecoder.2 then pure ()
  else if rejectsUntyped then
    throw (.mapping ⟨if entity = "" then none else some entity, .untypedDecode c.name c.sqlType⟩)
  else Logged.write .warning .decoding (c.untypedWarning entity)

/-- The decode plan of columns, the first one at the given position. -/
def planDecode (entity : String) (rejectsUntyped : Bool) :
    Nat → List Column → Step (List DecodeStep)
  | _, [] => pure []
  | position, c :: rest => do
    c.checkDecoder entity rejectsUntyped
    let others ← planDecode entity rejectsUntyped (position + 1) rest
    return c.decodeStep position :: others

end SqlMapping
