import SqlMapping.Text.CodePoint
import SqlMapping.Text.Layout
import SqlMapping.Text.Quoted
import SqlMapping.Number.Integer

/-!
# Problems of untyped data

A problem is a place in a document and a flaw found there. All problems of a record are reported
together, in the order of its fields and then of its surplus keys. Only a value that is nested too
deeply to be shown leaves no report: the reading is given up.
-/

namespace SqlMapping.Shape

open SqlMapping.Number SqlMapping.Text

/-- A step from a value to one of its parts. -/
inductive PathStep where
  /-- To the value of a key. -/
  | key (name : String)
  /-- To an item of a list. -/
  | index (i : Int)
deriving DecidableEq

/-- What is wrong with a value. -/
inductive Flaw where
  /-- A required key is missing. -/
  | missing
  /-- The record has no field for a key. -/
  | surplusKey
  /-- A key is not a text. -/
  | keyNotText
  /-- The value is not a text. -/
  | notText
  /-- The bytes are not those of a text, or the text is not one of characters. -/
  | notUnicode
  /-- The text is empty. -/
  | emptyText
  /-- The text does not have the required form. -/
  | patternMismatch (pattern : String)
  /-- The value is not an integer. -/
  | notInteger
  /-- The text cannot be read as an integer. -/
  | unreadableInteger
  /-- The number is too large. -/
  | oversizedInteger
  /-- The number has a fraction. -/
  | fractionalInteger
  /-- The number is not finite. -/
  | notFinite
  /-- The number lies below the least one allowed. -/
  | below (least : Int)
  /-- The number lies above the greatest one allowed. -/
  | above (greatest : Int)
  /-- The value is not a truth value. -/
  | notBoolean
  /-- The value cannot be read as a truth value. -/
  | unreadableBoolean
  /-- The value is not a list. -/
  | notList
  /-- The value is not a tuple. -/
  | notTuple
  /-- The tuple has no item. -/
  | emptyTuple
  /-- The value is none of the names allowed. -/
  | notOneOf (names : List String)
  /-- The value is not a mapping that a record can be read from. -/
  | notRecord (record : String)
  /-- A rule of the record itself is broken. -/
  | refused (reason : String)
  /-- The value is nested too deeply to be shown, and the reading is given up. -/
  | tooDeep
deriving DecidableEq

/-- Names in quotes, the last two joined by "or". -/
def alternatives : List String → String
  | [] => ""
  | [a] => Text.quote a
  | [a, b] => Text.quote a ++ " or " ++ Text.quote b
  | a :: rest => Text.quote a ++ ", " ++ alternatives rest

namespace Flaw

/-- The stable code of a flaw. -/
def code : Flaw → String
  | .missing => "missing"
  | .surplusKey => "extra_forbidden"
  | .keyNotText => "invalid_key"
  | .notText => "string_type"
  | .notUnicode => "string_unicode"
  | .emptyText => "string_too_short"
  | .patternMismatch _ => "string_pattern_mismatch"
  | .notInteger => "int_type"
  | .unreadableInteger => "int_parsing"
  | .oversizedInteger => "int_parsing_size"
  | .fractionalInteger => "int_from_float"
  | .notFinite => "finite_number"
  | .below _ => "greater_than_equal"
  | .above _ => "less_than_equal"
  | .notBoolean => "bool_type"
  | .unreadableBoolean => "bool_parsing"
  | .notList => "list_type"
  | .notTuple => "tuple_type"
  | .emptyTuple => "too_short"
  | .notOneOf _ => "enum"
  | .notRecord _ => "model_type"
  | .refused _ => "value_error"
  | .tooDeep => "RecursionError"

/-- A text as reports show it: a half of a surrogate pair leaves a mark for each of its bytes. -/
def shown (s : String) : String :=
  let mark : CodePoint → List CodePoint
    | .half _ => List.replicate 3 (.char (Char.ofNat 0xfffd))
    | p => [p]
  String.ofList (spellingOf ((codePoints s.toList).flatMap mark))

/-- The wording of a flaw. -/
def message : Flaw → String
  | .missing => "Field required"
  | .surplusKey => "Extra inputs are not permitted"
  | .keyNotText => "Keys should be strings"
  | .notText => "Input should be a valid string"
  | .notUnicode =>
    "Input should be a valid string, unable to parse raw data as a unicode string"
  | .emptyText => "String should have at least 1 character"
  | .patternMismatch pattern => s!"String should match pattern '{pattern}'"
  | .notInteger => "Input should be a valid integer"
  | .unreadableInteger => "Input should be a valid integer, unable to parse string as an integer"
  | .oversizedInteger =>
    "Unable to parse input string as an integer, exceeded maximum size"
  | .fractionalInteger =>
    "Input should be a valid integer, got a number with a fractional part"
  | .notFinite => "Input should be a finite number"
  | .below least => "Input should be greater than or equal to " ++ intText least
  | .above greatest => "Input should be less than or equal to " ++ intText greatest
  | .notBoolean => "Input should be a valid boolean"
  | .unreadableBoolean => "Input should be a valid boolean, unable to interpret input"
  | .notList => "Input should be a valid list"
  | .notTuple => "Input should be a valid tuple"
  | .emptyTuple => "Tuple should have at least 1 item after validation, not 0"
  | .notOneOf names => "Input should be " ++ alternatives names
  | .notRecord record => s!"Input should be a valid dictionary or instance of {record}"
  | .refused reason => s!"Value error, {shown reason}"
  | .tooDeep => "maximum recursion depth exceeded while getting the repr of an object"

end Flaw

/-- A flaw and the place where it was found. -/
structure Problem where
  /-- The steps from the outermost value to the place. -/
  path : List PathStep
  /-- What is wrong there. -/
  flaw : Flaw
deriving DecidableEq

/-- The same problem seen from one step further out. -/
def Problem.within (step : PathStep) (p : Problem) : Problem :=
  { p with path := step :: p.path }

/-- The problems that kept a record from being read. -/
structure ShapeError where
  /-- The kind of record. -/
  record : String
  /-- The problems, of which there is at least one. -/
  problems : List Problem
deriving DecidableEq

/-- Whether the reading is given up, so that there is no report. -/
def ShapeError.isGivenUp (e : ShapeError) : Bool :=
  e.problems.any fun p => p.flaw == .tooDeep

/-- The first line of the report on a record: how many problems it has. -/
def ShapeError.summary (e : ShapeError) : String :=
  let n := e.problems.length
  natText n ++ (if n = 1 then " validation error for " else " validation errors for ") ++ e.record

end SqlMapping.Shape
