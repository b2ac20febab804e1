import SqlMapping.CommandLine.Options
import SqlMapping.Text.Quoted

/-!
# Misuse of the command line
-/

namespace SqlMapping.CommandLine

open SqlMapping.Text

/-- What is wrong with a command line. -/
inductive Misuse where
  /-- An abbreviation stands for several switches. -/
  | ambiguous (argument : String) (spellings : List String)
  /-- A switch is given a value that it does not take. -/
  | uselessValue (switch : Switch) (value : String)
  /-- A switch is not given the value that it takes. -/
  | missingValue (switch : Switch)
  /-- The value of a switch is not an integer. -/
  | notInteger (switch : Switch) (value : String)
  /-- The value of a switch is none of those allowed. -/
  | notOneOf (switch : Switch) (value : String) (names : List String)
  /-- A switch that has to be given is missing. -/
  | missingSwitch (switch : Switch)
  /-- There are arguments that mean nothing. -/
  | surplus (arguments : List String)
deriving DecidableEq

namespace Misuse

/-- A wording about a switch. -/
def about (switch : Switch) (wording : String) : String :=
  s!"argument {switch.label}: " ++ wording

/-- The wording of a misuse. -/
def message : Misuse → String
  | .ambiguous argument spellings =>
    s!"ambiguous option: {argument} could match " ++ commaList spellings
  | .uselessValue switch value => about switch ("ignored explicit argument " ++ quote value)
  | .missingValue switch => about switch "expected one argument"
  | .notInteger switch value => about switch ("invalid int value: " ++ quote value)
  | .notOneOf switch value names =>
    about switch ("invalid choice: " ++ quote value ++ " (choose from " ++
      commaList (names.map quote) ++ ")")
  | .missingSwitch switch => "the following arguments are required: " ++ switch.label
  | .surplus arguments => "unrecognized arguments: " ++ String.intercalate " " arguments

end Misuse

end SqlMapping.CommandLine
