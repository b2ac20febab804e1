import SqlMapping.Column.Decoder
import SqlMapping.Text.Blank
import SqlMapping.Text.Case
import SqlMapping.Text.Layout

/-!
# Column types

The fixed vocabulary of SQL column types: which of them take a size, how large it may be, and
which decoder reads a column whose host type says nothing.
-/

namespace SqlMapping

open SqlMapping.Text

/-- The SQL column types. -/
inductive ColumnType where
  | tinyInt | smallInt | mediumInt | int | integer | bigInt | float | double | decimal
  | bool | boolean | bit
  | char | varChar | tinyText | text | mediumText | longText | binary | varBinary | blob
  | date | dateTime | time | timestamp | year
  | json
deriving DecidableEq

/-- The sizes that a column type takes. -/
structure Sizing where
  /-- The greatest size. -/
  max : Nat
  /-- The size of a field that declares none. -/
  default : Nat
deriving DecidableEq

namespace ColumnType

/-- Every column type, in the order of the catalog. -/
def all : List ColumnType :=
  [.tinyInt, .smallInt, .mediumInt, .int, .integer, .bigInt, .float, .double, .decimal, .bool,
   .boolean, .bit, .char, .varChar, .tinyText, .text, .mediumText, .longText, .binary, .varBinary,
   .blob, .date, .dateTime, .time, .timestamp, .year, .json]

/-- The SQL name of a column type. -/
def name : ColumnType → String
  | .tinyInt => "TINYINT"
  | .smallInt => "SMALLINT"
  | .mediumInt => "MEDIUMINT"
  | .int => "INT"
  | .integer => "INTEGER"
  | .bigInt => "BIGINT"
  | .float => "FLOAT"
  | .double => "DOUBLE"
  | .decimal => "DECIMAL"
  | .bool => "BOOL"
  | .boolean => "BOOLEAN"
  | .bit => "BIT"
  | .char => "CHAR"
  | .varChar => "VARCHAR"
  | .tinyText => "TINYTEXT"
  | .text => "TEXT"
  | .mediumText => "MEDIUMTEXT"
  | .longText => "LONGTEXT"
  | .binary => "BINARY"
  | .varBinary => "VARBINARY"
  | .blob => "BLOB"
  | .date => "DATE"
  | .dateTime => "DATETIME"
  | .time => "TIME"
  | .timestamp => "TIMESTAMP"
  | .year => "YEAR"
  | .json => "JSON"

/-- The sizes of a column type that takes one. -/
def sizing? : ColumnType → Option Sizing
  | .decimal => some ⟨65, 10⟩
  | .bit => some ⟨64, 1⟩
  | .char => some ⟨255, 1⟩
  | .varChar => some ⟨65535, 255⟩
  | .binary => some ⟨255, 1⟩
  | .varBinary => some ⟨65535, 255⟩
  | _ => none

/-- The decoder of a column whose host type says nothing; the other types are passed through. -/
def decoder? : ColumnType → Option Decoder
  | .tinyInt | .bool | .boolean => some .boolean
  | .smallInt => some .short
  | .mediumInt | .int | .integer | .year => some .int
  | .bigInt => some .long
  | .float => some .float
  | .double | .decimal => some .double
  | .char | .varChar | .tinyText | .text | .mediumText | .longText | .json => some .string
  | .dateTime | .timestamp => some .timestamp
  | .bit | .binary | .varBinary | .blob | .date | .time => none

/-- Whether a column type takes a size. -/
def isSizeable (t : ColumnType) : Bool :=
  t.sizing?.isSome

/-- The column types that take a size. -/
def sizeable : List ColumnType :=
  all.filter isSizeable

/-- The column type of that exact name. -/
def ofName? (s : String) : Option ColumnType :=
  all.find? fun t => t.name == s

/-- A list of characters without a size in parentheses at its end. The parentheses may hold
anything on one line, and blanks may follow them. -/
def stripSizeList (cs : List Char) : List Char :=
  let trimmed := trimEndWith isBlank cs
  if trimmed.getLast? = some ')' then
    let body := trimmed.dropLast
    let line := (body.reverse.takeWhile (· != '\n')).reverse
    if line.contains '(' then
      trimWith isBlank (body.take (body.length - line.length) ++ line.takeWhile (· != '('))
    else trimWith isBlank cs
  else trimWith isBlank cs

/-- A type text without its size and without the blanks around it. -/
def stripSize (s : String) : String :=
  String.ofList (stripSizeList s.toList)

/-- The column type that a type text names, in any case and with or without a size. -/
def parse? (s : String) : Option ColumnType :=
  ofName? (upper (stripSize s))

/-- What is said of a text that names no column type. -/
def unknownMessage (s : String) : String :=
  s!"Unknown column type '{s}'. Known types: " ++ commaList (all.map name)

/-- The decoder of the column type that a type text names. -/
def decoderOfText? (s : String) : Option Decoder :=
  (parse? (stripSize s)).bind decoder?

end ColumnType

end SqlMapping
