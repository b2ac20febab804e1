import SqlMapping.Number.Integer

/-!
# Faults of reading values

Why a value cannot be decoded, or cannot be found in a row or an object.
-/

namespace SqlMapping

open SqlMapping.Number

/-- Why a value is not read. -/
inductive ReadFault where
  /-- A text is not an integer; its literal is given. -/
  | badInteger (literal : String)
  /-- A text is not a number; its literal is given. -/
  | badReal (literal : String)
  /-- The value that is no number cannot become an integer. -/
  | notANumber
  /-- An integer does not fit 16 bits. -/
  | beyondShort (n : Int)
  /-- A text cannot be taken for a value of the type. -/
  | badValue
  /-- A number is too large. -/
  | tooLarge
  /-- A time is beyond what a clock can tell. -/
  | beyondClock
  /-- A value is not of a type that can be read. -/
  | badType
  /-- Bytes are not those of a text. -/
  | notUnicode
  /-- A mapping has no such key; its literal is given. -/
  | missingKey (literal : String)
  /-- A row has no such position. -/
  | missingPosition
  /-- An object has no such attribute. -/
  | missingAttribute
deriving DecidableEq

/-- The wording of a fault, for the faults that have a stable one. -/
def ReadFault.message? : ReadFault → Option String
  | .badInteger literal => some ("invalid literal for int() with base 10: " ++ literal)
  | .badReal literal => some ("could not convert string to float: " ++ literal)
  | .notANumber => some "cannot convert float NaN to integer"
  | .beyondShort n => some ("Value " ++ intText n ++ " does not fit a 16-bit integer.")
  | .missingKey literal => some literal
  | _ => none

end SqlMapping
