import SqlMapping.Document.Yaml.Node
import SqlMapping.Number.Arithmetic
import SqlMapping.Text.Base64
import SqlMapping.Text.Blank
import SqlMapping.Text.Case
import SqlMapping.Value

/-!
# The value of a YAML text

A node means the value that its tag makes of it. A mapping first takes over the entries of the
mappings that it merges; its own entries win over those.
-/

namespace SqlMapping.Document.Yaml

open SqlMapping.Calendar SqlMapping.Number SqlMapping.Text

/-- Why a text has no value. -/
inductive Fault where
  /-- The text is malformed, or a node does not fit its tag. -/
  | malformed
  /-- A scalar does not denote a value of its tag; the wording is given. -/
  | badValue (message : String)
  /-- A scalar is empty where a number has to stand. -/
  | emptyNumber
  /-- A scalar is not the word of a truth value; its literal is given. -/
  | badWord (literal : String)
  /-- A scalar is not a date. -/
  | badDate
  /-- A number has too many parts in base sixty. -/
  | overflow
  /-- Nodes are nested too deeply. -/
  | tooDeep
deriving DecidableEq

/-- The wording of a fault that is one of a scalar, for the faults that are put into words. -/
def Fault.message? : Fault → Option String
  | .badValue message => some message
  | _ => none

/-! ## Numbers -/

/-- The value of a digit in a base up to sixteen. -/
def digitIn? (base : Nat) (c : Char) : Option Nat :=
  match digitValue? c with
  | some d => if d < base then some d else none
  | none => match hexValue? c with
    | some d => if d < base then some d else none
    | none => none

/-- Digits without the mark of their base, which may stand in front of them. -/
def dropBaseMark (base : Nat) (cs : List Char) : List Char :=
  let mark := if base = 2 then 'b' else if base = 8 then 'o' else 'x'
  match cs with
  | '0' :: c :: rest => if c.toLower = mark && !rest.isEmpty then rest else cs
  | cs => cs

/-- The most characters of a faulty number that a message shows. -/
def shownCharacters : Nat := 200

/-- What is said of a text that is no integer. -/
def badInteger (base : Nat) (cs : List Char) : Fault :=
  .badValue ("invalid literal for int() with base " ++ natText base ++ ": " ++
    String.ofList ((quoteList cs).take shownCharacters))

/-- The integer of a text in base two, eight or sixteen. -/
def integerIn (base : Nat) (cs : List Char) : Except Fault Int :=
  let (negative, body) := splitSign (trimWith isWhiteSpace cs)
  let digits := dropBaseMark base body
  let value? := digits.foldl
    (fun n? c => n?.bind fun n => (digitIn? base c).map fun d => base * n + d) (some 0)
  match value? with
  | some n => if digits.isEmpty then .error (badInteger base cs) else .ok (signed negative n)
  | none => .error (badInteger base cs)

/-- The integer of a text in base ten. -/
def integerInTen (cs : List Char) : Except Fault Int :=
  match readInteger cs with
  | .ok n => .ok n
  | .error .malformed => .error (badInteger 10 cs)
  | .error (.tooLong digits) => .error (.badValue (readLimitMessage digits))

/-- Applies a sign to an integer. -/
def applySign (negative : Bool) (n : Int) : Int :=
  if negative then -n else n

/-- The integer of a scalar. -/
def integerOf (s : String) : Except Fault Int :=
  let cs := s.toList.filter (· != '_')
  let (negative, body) := splitSign cs
  let value : Except Fault Int :=
    match body with
    | [] => .error .emptyNumber
    | ['0'] => .ok 0
    | '0' :: 'b' :: digits => integerIn 2 digits
    | '0' :: 'x' :: digits => integerIn 16 digits
    | '0' :: _ => integerIn 8 body
    | _ =>
      if body.contains ':' then do
        let parts ← (cutAtColons body).mapM integerInTen
        return parts.foldl (fun n part => 60 * n + part) 0
      else integerInTen body
  value.map (applySign negative)

/-- The floating-point number of a text. -/
def realOfText (cs : List Char) : Except Fault Real64 :=
  match Real64.read? cs with
  | some x => .ok x
  | none => .error (.badValue ("could not convert string to float: " ++ String.ofList (quoteList cs)))

/-- The sum of numbers, the last of which counts once and each one before it sixty times as much as
the next one. -/
def sexagesimalSum (parts : List Real64) : Except Fault Real64 := do
  let weighted ← parts.reverse.zipIdx.mapM fun (x, k) =>
    match Real64.ofInt? (Int.pow 60 k) with
    | some weight => .ok (x.mul weight)
    | none => .error .overflow
  return weighted.foldl Real64.add (Real64.zero false)

/-- The floating-point number of a scalar. -/
def realOf (s : String) : Except Fault Real64 :=
  let cs := (lower (String.ofList (s.toList.filter (· != '_')))).toList
  let (negative, body) := splitSign cs
  let value : Except Fault Real64 :=
    if cs.isEmpty then .error .emptyNumber
    else if body = ".inf".toList then .ok (.infinite false)
    else if body = ".nan".toList then .ok .nan
    else if body.contains ':' then do
      let parts ← (cutAtColons body).mapM realOfText
      sexagesimalSum parts
    else realOfText body
  value.map fun x => if negative && body != ".nan".toList then x.negate else x

/-! ## Dates -/

/-- The number of the digits at the start of a text, and what follows them. -/
def takeNumber (cs : List Char) : Nat × List Char :=
  let digits := cs.takeWhile Char.isDigit
  (digits.foldl (fun n d => 10 * n + (d.toNat - 48)) 0, cs.drop digits.length)

/-- The fault of a date that does not exist. -/
def dateFault? (d : Date) : Option Fault :=
  if d.year < 1 || 9999 < d.year then
    some (.badValue ("year " ++ natText d.year ++ " is out of range"))
  else if d.month < 1 || 12 < d.month then some (.badValue "month must be in 1..12")
  else if d.day < 1 || daysInMonth d.year d.month < d.day then
    some (.badValue "day is out of range for month")
  else none

/-- The fault of a time that does not exist. -/
def timeFault? (t : DateTime) : Option Fault :=
  match dateFault? t.date with
  | some fault => some fault
  | none =>
    if 23 < t.hour then some (.badValue "hour must be in 0..23")
    else if 59 < t.minute then some (.badValue "minute must be in 0..59")
    else if 59 < t.second then some (.badValue "second must be in 0..59")
    else none

/-- The microseconds of a fraction, of which six digits count. -/
def microsecondsOf (digits : List Char) : Nat :=
  let kept := digits.take 6
  (takeNumber (kept ++ List.replicate (6 - kept.length) '0')).1

/-- What is said of an offset of a day or more. -/
def offsetFault (offset : Int) : Fault :=
  let days := offset / Int.ofNat perDay
  let seconds := offset % Int.ofNat perDay / Int.ofNat perSecond
  let parts := (if days = 0 then [] else ["days=" ++ intText days]) ++
    (if seconds = 0 then [] else ["seconds=" ++ intText seconds])
  .badValue ("offset must be a timedelta strictly between -timedelta(hours=24) and " ++
    "timedelta(hours=24), not datetime.timedelta(" ++ String.intercalate ", " parts ++ ").")

/-- Reads an offset in microseconds, if there is one. -/
def offsetOf (cs : List Char) : Except Fault (Option Int) :=
  match cs.dropWhile (fun c => c == ' ' || c == '\t') with
  | [] => .ok none
  | 'Z' :: _ => .ok (some 0)
  | sign :: rest =>
    let (hours, rest) := takeNumber rest
    let (minutes, _) := takeNumber (rest.drop 1)
    let size := (hours * 60 + minutes) * 60 * perSecond
    let offset := applySign (sign == '-') (Int.ofNat size)
    if size < perDay then .ok (some offset) else .error (offsetFault offset)

/-- The date or time of a scalar that looks like one. -/
def timestampOf (s : String) : Except Fault Value := do
  if !looksTimestamp s.toList && !looksTimestamp (s.toList ++ " 0:00:00".toList) then
    throw .badDate
  let (year, cs) := takeNumber s.toList
  let (month, cs) := takeNumber (cs.drop 1)
  let (day, cs) := takeNumber (cs.drop 1)
  let date : Date := ⟨year, month, day⟩
  if cs.isEmpty then
    match dateFault? date with
    | some fault => throw fault
    | none => return .date date
  else
    let (hour, cs) := takeNumber (cs.dropWhile fun c => !c.isDigit)
    let (minute, cs) := takeNumber (cs.drop 1)
    let (second, cs) := takeNumber (cs.drop 1)
    let fraction := if cs.head? = some '.' then (cs.drop 1).takeWhile Char.isDigit else []
    let cs := if cs.head? = some '.' then cs.drop (1 + fraction.length) else cs
    let offset ← offsetOf cs
    let t : DateTime := ⟨date, hour, minute, second, microsecondsOf fraction, offset⟩
    match timeFault? t with
    | some fault => throw fault
    | none => return .dateTime t

/-! ## Scalars -/

/-- The truth value of a scalar. -/
def booleanOf (s : String) : Except Fault Value :=
  match booleanWords.lookup (lower s) with
  | some b => .ok (.bool b)
  | none => .error (.badWord (quote (lower s)))

/-- The value that a standard tag makes of a scalar. -/
def scalarValue (kind text : String) : Except Fault Value :=
  if kind = "str" then .ok (.text text)
  else if kind = "null" then .ok .null
  else if kind = "bool" then booleanOf text
  else if kind = "int" then (integerOf text).map .int
  else if kind = "float" then (realOf text).map .real
  else if kind = "timestamp" then timestampOf text
  else if kind = "binary" then
    match decodeBase64 text with
    | some data => .ok (.bytes .fixed data)
    | none => .error .malformed
  else .error .malformed

/-- The kind of a standard tag: what follows the common beginning. -/
def kindOf (tag : String) : Option String :=
  if standard.toList.isPrefixOf tag.toList then
    some (String.ofList (tag.toList.drop standard.length))
  else none

/-! ## Mappings -/

/-- The tag of a node. -/
def Node.tag : Node → String
  | .scalar tag _ | .sequence tag _ | .mapping tag _ => tag
  | .again _ => ""

mutual

/-- The height of a node. -/
def Node.height : Node → Nat
  | .scalar _ _ | .again _ => 1
  | .sequence _ items => heightOfItems items + 1
  | .mapping _ entries => heightOfEntries entries + 1

/-- The height of the highest of some nodes. -/
def heightOfItems : List Node → Nat
  | [] => 0
  | item :: rest => max item.height (heightOfItems rest)

/-- The height of the highest node of some entries. -/
def heightOfEntries : List (Node × Node) → Nat
  | [] => 0
  | (key, value) :: rest => max (max key.height value.height) (heightOfEntries rest)

end

/-- A key node whose tag asks for the default value, as a text. -/
def plainKey (key : Node) : Node :=
  match key with
  | .scalar tag text => if tag = standard ++ "value" then .scalar (standard ++ "str") text else key
  | key => key

/-- The entries of a mapping after those that it merges; the fuel bounds how deep merged mappings
merge others. -/
def mergedEntries : Nat → List (Node × Node) → Except Fault (List (Node × Node))
  | 0, _ => .error .malformed
  | fuel + 1, entries => do
    let isMerge := fun (key : Node) => key.tag == standard ++ "merge"
    let merged ← (entries.filter fun (key, _) => isMerge key).mapM fun (_, value) =>
      match value with
      | .mapping _ entries => mergedEntries fuel entries
      | .sequence _ items => do
        let parts ← items.mapM fun item =>
          match item with
          | .mapping _ entries => mergedEntries fuel entries
          | _ => .error .malformed
        return parts.reverse.flatten
      | .scalar .. | .again _ => .error .malformed
    let own := (entries.filter fun (key, _) => !isMerge key).map fun (key, value) =>
      (plainKey key, value)
    return merged.flatten ++ own

/-- Whether a value may be a key. -/
def isKeyValue : Value → Bool
  | .list _ | .mapping _ | .set _ => false
  | _ => true

/-- The text of a scalar, also of one that stands as the default value of a mapping. -/
def textOf : Nat → Node → Option String
  | 0, _ => none
  | fuel + 1, node =>
    match node with
    | .scalar _ text => some text
    | .mapping _ entries =>
      (entries.find? fun (key, _) => key.tag == standard ++ "value").bind fun (_, value) =>
        textOf fuel value
    | .sequence .. | .again _ => none

mutual

/-- The value of a node; the fuel bounds its height. -/
def valueOf : Nat → Node → Except Fault Value
  | 0, _ => .error .malformed
  | fuel + 1, node =>
    match kindOf node.tag with
    | none => .error .malformed
    | some kind =>
      if kind = "map" then (entriesOf fuel node).map .mapping
      else if kind = "set" then
        (entriesOf fuel node).map fun entries => .set (entries.map Prod.fst)
      else if kind = "seq" then
        match node with
        | .sequence _ items => (items.mapM (valueOf fuel)).map .list
        | _ => .error .malformed
      else if kind = "omap" || kind = "pairs" then
        match node with
        | .sequence _ items => (items.mapM (pairOf fuel)).map .list
        | _ => .error .malformed
      else
        match textOf (fuel + 1) node with
        | some text => scalarValue kind text
        | none => .error .malformed

/-- The pair of a mapping with one entry. -/
def pairOf : Nat → Node → Except Fault Value
  | fuel + 1, .mapping _ [(key, value)] => do
    let key ← valueOf fuel key
    let value ← valueOf fuel value
    return .tuple [key, value]
  | _, _ => .error .malformed

/-- The entries of a mapping; of two with one key the last one counts. -/
def entriesOf : Nat → Node → Except Fault (List (Value × Value))
  | fuel + 1, .mapping _ entries => do
    let pairs ← (← mergedEntries (fuel + 1) entries).mapM fun (key, value) => do
      let key ← valueOf fuel key
      if !isKeyValue key then throw .malformed
      let value ← valueOf fuel value
      return (key, value)
    return pairs.foldl (fun entries (key, value) => Value.insertKey key value entries) []
  | _, _ => .error .malformed

end

/-- The value of a text whose nodes are nested no deeper than there is room for; a text without a
document is null. -/
def read (room : Nat) (s : String) : Except Fault Value :=
  match (tokens? s).bind Node.ofTokens? with
  | none => .error .malformed
  | some none => .ok .null
  | some (some node) =>
    if room < node.height then .error .tooDeep else valueOf (2 * node.height + 2) node

end SqlMapping.Document.Yaml
