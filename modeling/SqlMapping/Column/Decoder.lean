/-!
# Decoders by name

A decoder turns the value that a driver returns for a column into a value of one host type.
-/

namespace SqlMapping

/-- The decoders that a column may have. -/
inductive Decoder where
  /-- Integers. -/
  | int
  /-- Texts. -/
  | string
  /-- Truth values. -/
  | boolean
  /-- Floating-point numbers. -/
  | float
  /-- Long integers. -/
  | long
  /-- Floating-point numbers of double precision. -/
  | double
  /-- Integers of 16 bits. -/
  | short
  /-- Naive times in universal time. -/
  | timestamp
  /-- The driver's value as it is. -/
  | object
deriving DecidableEq

namespace Decoder

/-- Every decoder. -/
def all : List Decoder :=
  [.int, .string, .boolean, .float, .long, .double, .short, .timestamp, .object]

/-- The name of a decoder. -/
def name : Decoder → String
  | .int => "get_int"
  | .string => "get_string"
  | .boolean => "get_boolean"
  | .float => "get_float"
  | .long => "get_long"
  | .double => "get_double"
  | .short => "get_short"
  | .timestamp => "get_timestamp"
  | .object => "get_object"

/-- The decoder of that name. -/
def ofName? (s : String) : Option Decoder :=
  all.find? fun d => d.name == s

end Decoder

end SqlMapping
