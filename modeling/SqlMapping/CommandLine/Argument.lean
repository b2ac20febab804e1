import SqlMapping.CommandLine.Misuse
import SqlMapping.Text.Digit

/-!
# Arguments by kind

An argument is a switch when it is the spelling of one, or begins one in an unambiguous way. A value
may follow the spelling after an equals sign, and that of a short spelling also directly. Negative
numbers and arguments with a space are values, also when they begin with a hyphen.
-/

namespace SqlMapping.CommandLine

open SqlMapping.Text

/-- What follows the spelling of a switch in the same argument. -/
inductive Attached where
  /-- Nothing. -/
  | nothing
  /-- A text, directly. -/
  | adjoined (text : List Char)
  /-- A text after an equals sign. -/
  | assigned (text : List Char)
deriving DecidableEq

/-- An argument. -/
inductive Argument where
  /-- A value. -/
  | value (text : String)
  /-- The two hyphens after which every argument is a value. -/
  | divider
  /-- A switch. -/
  | spelled (switch : Switch) (isLong : Bool) (attached : Attached)
  /-- An argument that looks like a switch but is none. -/
  | unknown (text : String)

namespace Argument

/-- A list of characters cut at its first equals sign, if there is one. -/
def cutAtEquals (cs : List Char) : List Char × Attached :=
  let name := cs.takeWhile (· != '=')
  match cs.drop name.length with
  | [] => (name, .nothing)
  | _ :: text => (name, .assigned text)

/-- Whether a list of characters begins with two hyphens. -/
def isLong : List Char → Bool
  | '-' :: '-' :: _ => true
  | _ => false

/-- The switches that an argument may stand for, with their spellings. -/
def candidates (cs : List Char) : List (String × Switch × Attached) :=
  if isLong cs then
    let (name, attached) := cutAtEquals cs
    (Switch.table.filter fun (spelling, _) => name.isPrefixOf spelling.toList).map
      fun (spelling, switch) => (spelling, switch, attached)
  else
    (Switch.table.filter fun (spelling, _) => spelling.toList == cs.take 2).map
      fun (spelling, switch) => (spelling, switch, .adjoined (cs.drop 2))

/-- Whether a list of characters is not empty and holds digits only. -/
def isDigits (cs : List Char) : Bool :=
  !cs.isEmpty && cs.all fun c => (digitValue? c).isSome

/-- Whether an argument is a negative number, possibly followed by a line feed. -/
def isNegativeNumber : List Char → Bool
  | '-' :: cs =>
    let body := if cs.getLast? == some '\n' then cs.dropLast else cs
    let whole := body.takeWhile (· != '.')
    isDigits body ||
      (whole.all (fun c => (digitValue? c).isSome) && isDigits (body.drop (whole.length + 1)))
  | _ => false

/-- The switch of an exact spelling, possibly with a value after an equals sign. -/
def ofSpelling? (cs : List Char) : Option Argument :=
  match Switch.ofSpelling? (String.ofList cs) with
  | some switch => some (.spelled switch (isLong cs) .nothing)
  | none =>
    let (name, attached) := cutAtEquals cs
    match attached with
    | .nothing => none
    | attached =>
      (Switch.ofSpelling? (String.ofList name)).map fun switch =>
        .spelled switch (isLong cs) attached

/-- The kind of an argument. -/
def ofText (s : String) : Except Misuse Argument :=
  let cs := s.toList
  if cs.length < 2 || cs.head? != some '-' then .ok (.value s)
  else match ofSpelling? cs with
    | some argument => .ok argument
    | none => match candidates cs with
      | [(_, switch, attached)] => .ok (.spelled switch (isLong cs) attached)
      | [] => .ok (if isNegativeNumber cs || cs.contains ' ' then .value s else .unknown s)
      | several => .error (.ambiguous s (several.map Prod.fst))

/-- The kinds of arguments. -/
def ofTexts : List String → Except Misuse (List Argument)
  | [] => .ok []
  | "--" :: rest => .ok (.divider :: rest.map .value)
  | s :: rest => do
    let argument ← ofText s
    let others ← ofTexts rest
    return argument :: others

end Argument

end SqlMapping.CommandLine
