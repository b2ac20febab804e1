import SqlMapping.Calendar.DateTime
import SqlMapping.Number.Decimal
import SqlMapping.Number.Shortest
import SqlMapping.Text.Quoted

/-!
# Untyped values

The values that documents hold, that database drivers return, and that statements are bound to.
A mapping keeps its entries in order, and its keys are values too.
-/

namespace SqlMapping

open SqlMapping.Calendar SqlMapping.Number

/-- The three forms in which a driver may return a byte string. -/
inductive BufferKind where
  /-- A fixed byte string. -/
  | fixed
  /-- A byte string that may be changed. -/
  | mutable
  /-- A view of bytes held elsewhere. -/
  | view
deriving DecidableEq

/-- An untyped value. -/
inductive Value where
  /-- No value. -/
  | null
  /-- A truth value. -/
  | bool (b : Bool)
  /-- An integer of any size. -/
  | int (n : Int)
  /-- A floating-point number. -/
  | real (x : Real64)
  /-- A decimal number. -/
  | decimal (d : Decimal)
  /-- A text. -/
  | text (s : String)
  /-- A byte string. -/
  | bytes (kind : BufferKind) (data : List UInt8)
  /-- A date. -/
  | date (d : Date)
  /-- A date with a time of day. -/
  | dateTime (t : DateTime)
  /-- A list. -/
  | list (items : List Value)
  /-- A tuple. -/
  | tuple (items : List Value)
  /-- A set. -/
  | set (items : List Value)
  /-- A mapping. -/
  | mapping (entries : List (Value × Value))
  /-- An object with named attributes. -/
  | object (attributes : List (String × Value))
  /-- A result row: values by position, and by column name if the driver offers that. -/
  | row (byName : Option (List (Value × Value))) (values : List Value)

instance : Inhabited Value := ⟨.null⟩

namespace Value

/-- The name of a value's type, as messages give it. -/
def typeName : Value → String
  | .null => "NoneType"
  | .bool _ => "bool"
  | .int _ => "int"
  | .real _ => "float"
  | .decimal _ => "Decimal"
  | .text _ => "str"
  | .bytes .fixed _ => "bytes"
  | .bytes .mutable _ => "bytearray"
  | .bytes .view _ => "memoryview"
  | .date _ => "date"
  | .dateTime _ => "datetime"
  | .list _ => "list"
  | .tuple _ => "tuple"
  | .set _ => "set"
  | .mapping _ => "dict"
  | .object _ => "SimpleNamespace"
  | .row _ _ => "Row"

/-- The integer that a key counts as: numbers and truth values of equal value are one key. -/
def keyNumber? : Value → Option Int
  | .bool b => some (if b then 1 else 0)
  | .int n => some n
  | .real x => x.toInt?
  | .decimal d => d.toInt?
  | _ => none

/-- Whether two keys of a mapping are the same key. -/
def sameKey (a b : Value) : Bool :=
  match a.keyNumber?, b.keyNumber? with
  | some m, some n => m == n
  | some _, none => false
  | none, some _ => false
  | none, none =>
    match a, b with
    | .null, .null => true
    | .text s, .text t => s == t
    | .real x, .real y => x == y && x != .nan
    | .decimal d, .decimal e => d == e
    | .bytes _ s, .bytes _ t => s == t
    | .date s, .date t => s == t
    | .dateTime s, .dateTime t =>
      match s.offset, t.offset with
      | none, none => s == t
      | some i, some j => s.clock - i == t.clock - j
      | _, _ => false
    | _, _ => false

/-- The value of a key. -/
def lookup? (key : Value) : List (Value × Value) → Option Value
  | [] => none
  | (k, v) :: rest => if k.sameKey key then some v else lookup? key rest

/-- The value of a text key. -/
def get? (name : String) (entries : List (Value × Value)) : Option Value :=
  lookup? (.text name) entries

/-- A mapping with one more entry; the value of a key that is there is replaced in its place. -/
def insertKey (key value : Value) : List (Value × Value) → List (Value × Value)
  | [] => [(key, value)]
  | (k, v) :: rest =>
    if k.sameKey key then (k, value) :: rest else (k, v) :: insertKey key value rest

/-- Whether a value counts as true. -/
def isTruthy : Value → Bool
  | .null => false
  | .bool b => b
  | .int n => n != 0
  | .real x => !x.isZero
  | .decimal d => !d.isZero
  | .text s => s != ""
  | .bytes _ data => !data.isEmpty
  | .date _ | .dateTime _ => true
  | .list items | .tuple items | .set items => !items.isEmpty
  | .mapping entries => !entries.isEmpty
  | .object _ => true
  | .row _ _ => true

/-- The literal of an offset from universal time. -/
def offsetLiteral (offset : Int) : String :=
  if offset = 0 then "datetime.timezone.utc"
  else
    let n := offset % Int.ofNat perDay
    let days := offset / Int.ofNat perDay
    let seconds := n / Int.ofNat perSecond
    let micros := n % Int.ofNat perSecond
    let parts :=
      (if days = 0 then [] else ["days=" ++ intText days]) ++
      (if seconds = 0 then [] else ["seconds=" ++ intText seconds]) ++
      (if micros = 0 then [] else ["microseconds=" ++ intText micros])
    "datetime.timezone(datetime.timedelta(" ++ String.intercalate ", " parts ++ "))"

/-- The literal of a time: seconds and microseconds are left out when they are zero. -/
def dateTimeLiteral (t : DateTime) : String :=
  let tail :=
    if t.microsecond != 0 then [t.second, t.microsecond]
    else if t.second != 0 then [t.second]
    else []
  let parts := [t.date.year, t.date.month, t.date.day, t.hour, t.minute] ++ tail
  let zone := match t.offset with
    | none => ""
    | some offset => ", tzinfo=" ++ offsetLiteral offset
  "datetime.datetime(" ++ String.intercalate ", " (parts.map natText) ++ zone ++ ")"

/-- The literal of a byte string. -/
def bytesLiteral (kind : BufferKind) (data : List UInt8) : String :=
  match kind with
  | .fixed => Text.quoteBytes data
  | .mutable => "bytearray(" ++ Text.quoteBytes data ++ ")"
  | .view => "<memory>"

/-- Why a value has no literal. -/
inductive LiteralFault where
  /-- A number in it has too many digits to be written. -/
  | overlong
  /-- Its parts are nested more deeply than there is room for. -/
  | tooDeep
deriving DecidableEq

/-- How many levels the zone of a time takes below the time. -/
def zoneLevels (t : DateTime) : Nat :=
  match t.offset with
  | none => 0
  | some offset => if offset = 0 then 1 else 2

/-- The literal of a time, if the given number of levels is left below it. -/
def timeLiteral (room : Nat) (t : DateTime) : Except LiteralFault String :=
  if room < zoneLevels t then .error .tooDeep else .ok (dateTimeLiteral t)

mutual

/-- The literal of a value, as messages and texts show it inside other values, when there is room for
the given number of levels. The value itself takes one of them and leaves the others to its parts; a
set takes two, because its items are listed first. -/
def literal : Nat → Value → Except LiteralFault String
  | 0, _ => .error .tooDeep
  | _ + 1, .null => .ok "None"
  | _ + 1, .bool b => .ok (if b then "True" else "False")
  | _ + 1, .int n => (writeInteger n).mapError fun _ => .overlong
  | _ + 1, .real x => .ok x.text
  | _ + 1, .decimal d => .ok ("Decimal('" ++ d.text ++ "')")
  | _ + 1, .text s => .ok (Text.quote s)
  | _ + 1, .bytes kind data => .ok (bytesLiteral kind data)
  | _ + 1, .date d =>
    .ok ("datetime.date(" ++ String.intercalate ", " ([d.year, d.month, d.day].map natText) ++ ")")
  | room + 1, .dateTime t => timeLiteral room t
  | room + 1, .list items => do
    return "[" ++ String.intercalate ", " (← literals room items) ++ "]"
  | room + 1, .tuple items => do
    let parts ← literals room items
    return "(" ++ String.intercalate ", " parts ++ (if parts.length = 1 then ",)" else ")")
  | _ + 1, .set [] => .ok "set()"
  | 1, .set (_ :: _) => .error .tooDeep
  | room + 2, .set (v :: items) => do
    return "\x7b" ++ String.intercalate ", " (← literals room (v :: items)) ++ "\x7d"
  | room + 1, .mapping entries => do
    return "\x7b" ++ String.intercalate ", " (← entryLiterals room entries) ++ "\x7d"
  | room + 1, .object attributes => do
    return "namespace(" ++ String.intercalate ", " (← attributeLiterals room attributes) ++ ")"
  | room + 1, .row _ values => do
    return "Row(" ++ String.intercalate ", " (← literals room values) ++ ")"

/-- The literals of a list of values. -/
def literals : Nat → List Value → Except LiteralFault (List String)
  | _, [] => .ok []
  | room, v :: rest => do
    let first ← literal room v
    let others ← literals room rest
    return first :: others

/-- The literals of the entries of a mapping. -/
def entryLiterals : Nat → List (Value × Value) → Except LiteralFault (List String)
  | _, [] => .ok []
  | room, (k, v) :: rest => do
    let key ← literal room k
    let value ← literal room v
    let others ← entryLiterals room rest
    return (key ++ ": " ++ value) :: others

/-- The literals of the attributes of an object. -/
def attributeLiterals : Nat → List (String × Value) → Except LiteralFault (List String)
  | _, [] => .ok []
  | room, (name, v) :: rest => do
    let value ← literal room v
    let others ← attributeLiterals room rest
    return (name ++ "=" ++ value) :: others

end

mutual

/-- How many levels the literal of a value takes. -/
def levels : Value → Nat
  | .dateTime t => zoneLevels t + 1
  | .list items | .tuple items => levelsOfAll items + 1
  | .set items => levelsOfAll items + 2
  | .mapping entries => levelsOfEntries entries + 1
  | .object attributes => levelsOfAttributes attributes + 1
  | .row _ values => levelsOfAll values + 1
  | _ => 1

/-- How many levels the literals of values take. -/
def levelsOfAll : List Value → Nat
  | [] => 0
  | v :: rest => max (levels v) (levelsOfAll rest)

/-- How many levels the literals of entries take. -/
def levelsOfEntries : List (Value × Value) → Nat
  | [] => 0
  | (k, v) :: rest => max (max (levels k) (levels v)) (levelsOfEntries rest)

/-- How many levels the literals of attributes take. -/
def levelsOfAttributes : List (String × Value) → Nat
  | [] => 0
  | (_, v) :: rest => max (levels v) (levelsOfAttributes rest)

end

/-- The text of a value on its own: texts, dates and decimal numbers stand without marks. -/
def display : Value → Except LiteralFault String
  | .text s => .ok s
  | .decimal d => .ok d.text
  | .date d => .ok d.text
  | .dateTime t => .ok (t.text " ")
  | v => v.literal v.levels

end Value

end SqlMapping
