import SqlMapping.Shape.Record
import SqlMapping.Text.Blank
import SqlMapping.Text.Case
import SqlMapping.Text.Delimited

/-!
# Column defaults

A default is declared as a kind and a value. Only a value that fits its kind makes a default, so a
default is one of a few typed constants, each with one SQL literal. The refusal of a value shows its
literal, for which the reader is given room.
-/

namespace SqlMapping

open SqlMapping.Number SqlMapping.Shape SqlMapping.Text

/-- The kinds under which a default is declared. -/
inductive DefaultKind where
  | int | string | float | double | long | short | bool | none
deriving DecidableEq

namespace DefaultKind

/-- Every kind. -/
def all : List DefaultKind :=
  [.int, .string, .float, .double, .long, .short, .bool, .none]

/-- The name of a kind. -/
def name : DefaultKind → String
  | .int => "int"
  | .string => "string"
  | .float => "float"
  | .double => "double"
  | .long => "long"
  | .short => "short"
  | .bool => "bool"
  | .none => "none"

/-- Reads a kind from its name in any case and with blanks around it. -/
def read : Value → Checked DefaultKind
  | .text s => readOneOf all name (.text (lower (strip s)))
  | v => readOneOf all name v

end DefaultKind

/-- The widths under which an integer default is declared. -/
inductive IntegerWidth where
  | int | long | short
deriving DecidableEq

/-- The precisions under which a default with a fraction is declared. -/
inductive RealPrecision where
  | float | double
deriving DecidableEq

/-- The constant that a column takes when no value is given. -/
inductive DefaultValue where
  /-- No default. -/
  | none
  /-- An integer. -/
  | integer (width : IntegerWidth) (n : Int)
  /-- An integer declared for a column of numbers with a fraction. -/
  | whole (precision : RealPrecision) (n : Int)
  /-- A floating-point number. -/
  | real (precision : RealPrecision) (x : Real64)
  /-- A truth value. -/
  | bool (b : Bool)
  /-- A text. -/
  | text (s : String)
deriving DecidableEq

namespace DefaultValue

/-- The kind that a width is declared by. -/
def kindOfWidth : IntegerWidth → DefaultKind
  | .int => .int
  | .long => .long
  | .short => .short

/-- The kind that a precision is declared by. -/
def kindOfPrecision : RealPrecision → DefaultKind
  | .float => .float
  | .double => .double

/-- The kind of a default. -/
def kind : DefaultValue → DefaultKind
  | .none => .none
  | .integer width _ => kindOfWidth width
  | .whole precision _ => kindOfPrecision precision
  | .real precision _ => kindOfPrecision precision
  | .bool _ => .bool
  | .text _ => .string

/-- The untyped value of a default. -/
def value : DefaultValue → Value
  | .none => .null
  | .integer _ n => .int n
  | .whole _ n => .int n
  | .real _ x => .real x
  | .bool b => .bool b
  | .text s => .text s

/-- Whether there is a default. -/
def isPresent (d : DefaultValue) : Bool :=
  d != .none

/-- The refusal of a value that does not fit a kind. -/
def mismatch (room : Nat) (kind : DefaultKind) (needs : String) (v : Value) :
    Checked DefaultValue :=
  match v.literal room with
  | .ok literal =>
    .flaw (.refused s!"Default of kind '{kind.name}' needs {needs}, got {literal}.")
  | .error .overlong => .flaw (.refused writeLimitMessage)
  | .error .tooDeep => .flaw .tooDeep

/-- The default of a width with a value, which has to be an integer. -/
def ofInteger (room : Nat) (width : IntegerWidth) : Value → Checked DefaultValue
  | .int n => .valid (.integer width n)
  | v => mismatch room (kindOfWidth width) "an integer" v

/-- The default of a precision with a value, which has to be a number. -/
def ofReal (room : Nat) (precision : RealPrecision) : Value → Checked DefaultValue
  | .int n => .valid (.whole precision n)
  | .real x => .valid (.real precision x)
  | v => mismatch room (kindOfPrecision precision) "a number" v

/-- The default of a kind with a value that fits it. -/
def ofParts (room : Nat) : DefaultKind → Value → Checked DefaultValue
  | .none, .null => .valid .none
  | .none, _ => .flaw (.refused "Default of kind 'none' cannot carry a value.")
  | .int, v => ofInteger room .int v
  | .long, v => ofInteger room .long v
  | .short, v => ofInteger room .short v
  | .float, v => ofReal room .float v
  | .double, v => ofReal room .double v
  | .bool, .bool b => .valid (.bool b)
  | .bool, v => mismatch room .bool "true/false" v
  | .string, .text s => .valid (.text s)
  | .string, v => mismatch room .string "a string" v

/-- The name of the record in reports. -/
def recordName : String := "DefaultValue"

/-- Reads a default, with room for so many levels of a value that is refused. -/
def read (room : Nat) (v : Value) : Checked DefaultValue :=
  (readRecord recordName [["kind"], ["value"]]
    (fun entries =>
      ((optional ["kind"] DefaultKind.none DefaultKind.read entries).map Prod.mk).apply
        (optional ["value"] Value.null .valid entries)) v).andThen
    fun (kind, value) => ofParts room kind value

/-- The SQL literal of a default; it is empty when there is no default. -/
def literal : DefaultValue → Except OverlongInteger String
  | .none => .ok ""
  | .integer _ n => writeInteger n
  | .whole _ n => writeInteger n
  | .real _ x => .ok x.text
  | .bool b => .ok (if b then "true" else "false")
  | .text s => .ok (delimit '\'' s)

/-- The clause of a default; it is empty when there is no default. -/
def clause (d : DefaultValue) : Except OverlongInteger String :=
  d.literal.map fun s => if s = "" then "" else "DEFAULT " ++ s

end DefaultValue

end SqlMapping
