import SqlMapping.Decode.Apply
import SqlMapping.Decode.Step

/-!
# Decoding rows

A column is looked up by its name in a row that offers names, and by its position otherwise, also
when the names do not hold it.
-/

namespace SqlMapping

open SqlMapping.Number

namespace Value

/-- The values of a row by column name, for a row that offers them. An object offers them in an
attribute. -/
def namedValues : Value → Except ReadFault (Option (List (Value × Value)))
  | .mapping entries => .ok (some entries)
  | .row byName _ => .ok byName
  | .object attributes =>
    match attributes.lookup "_mapping" with
    | none | some .null => .ok none
    | some (.mapping entries) => .ok (some entries)
    | some _ => .error .badType
  | _ => .ok none

/-- An item of a list by its position. -/
def itemAt (items : List Value) (position : Nat) : Except ReadFault Value :=
  match items[position]? with
  | some v => .ok v
  | none => .error .missingPosition

/-- The part of a value at a position. -/
def atPosition (position : Nat) : Value → Except ReadFault Value
  | .list items | .tuple items | .row _ items => itemAt items position
  | .text s => itemAt (s.toList.map fun c => .text (String.ofList [c])) position
  | .bytes _ data => itemAt (data.map fun b => .int (Int.ofNat b.toNat)) position
  | .mapping entries =>
    match lookup? (.int (Int.ofNat position)) entries with
    | some v => .ok v
    | none => .error (.missingKey (natText position))
  | _ => .error .badType

end Value

/-- The value of a row that a step reads. -/
def DecodeStep.lookUp (step : DecodeStep) (row : Value) : Except ReadFault Value := do
  match (← row.namedValues).bind (Value.get? step.column) with
  | some v => return v
  | none => row.atPosition step.position

/-- The decoded value of a row that a step reads. -/
def DecodeStep.run (step : DecodeStep) (row : Value) : Except ReadFault Value := do
  step.decoder.apply (← step.lookUp row)

/-- The decoded values of a row in the order of a plan. -/
def decodeRow (plan : List DecodeStep) (row : Value) : Except ReadFault (List Value) :=
  plan.mapM fun step => step.run row

/-- The decoded values of a row by column name. -/
def decodeRowByName (plan : List DecodeStep) (row : Value) :
    Except ReadFault (List (Value × Value)) := do
  let values ← decodeRow plan row
  return (plan.zip values).foldl
    (fun entries (step, v) => Value.insertKey (.text step.column) v entries) []

end SqlMapping
