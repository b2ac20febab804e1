import SqlMapping.Column.Decoder
import SqlMapping.Text.Blank
import SqlMapping.Text.Case

/-!
# Host types

The value types of the host program that decide the decoder of a column before its SQL type does.
Each has several spellings, in any case.
-/

namespace SqlMapping

open SqlMapping.Text

/-- The recognised host types. -/
inductive HostType where
  | int | string | boolean | float | long | double | short
deriving DecidableEq

namespace HostType

/-- The canonical spelling. -/
def name : HostType → String
  | .int => "int"
  | .string => "str"
  | .boolean => "bool"
  | .float => "float"
  | .long => "long"
  | .double => "double"
  | .short => "short"

/-- The spellings of the host types. -/
def spellings : List (String × HostType) :=
  [("int", .int), ("integer", .int), ("str", .string), ("string", .string), ("text", .string),
   ("bool", .boolean), ("boolean", .boolean), ("float", .float), ("float32", .float),
   ("long", .long), ("int64", .long), ("double", .double), ("float64", .double),
   ("short", .short), ("int16", .short)]

/-- The host type that a tag names. -/
def parse? (tag : String) : Option HostType :=
  spellings.lookup (lower (strip tag))

/-- The decoder of a host type. -/
def decoder : HostType → Decoder
  | .int => .int
  | .string => .string
  | .boolean => .boolean
  | .float => .float
  | .long => .long
  | .double => .double
  | .short => .short

end HostType

end SqlMapping
