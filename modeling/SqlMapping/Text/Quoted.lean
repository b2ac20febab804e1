import SqlMapping.Text.CodePoint
import SqlMapping.Text.Digit
import SqlMapping.Text.PrintableTable

/-!
# Quoted literals

A text or a byte string written as a literal of the rendered modules. The literal stands between
single quotes, unless the text holds a single quote and no double one; the delimiter and the
backslash are escaped, and so is everything that does not print.
-/

namespace SqlMapping.Text

/-- Whether a character stands for itself on a printed line. -/
def isPrintable (c : Char) : Bool :=
  if c.toNat < 128 then 0x20 ≤ c.toNat && c.toNat < 0x7f else printables.contains c

/-- The quote that delimits the literal of a text. -/
def quoteFor (cs : List Char) : Char :=
  if cs.contains '\'' && !cs.contains '"' then '"' else '\''

/-- One character of a text inside a literal delimited by `quote`. -/
def escapeChar (quote c : Char) : List Char :=
  if c == quote || c == '\\' then ['\\', c]
  else if c == '\n' then ['\\', 'n']
  else if c == '\r' then ['\\', 'r']
  else if c == '\t' then ['\\', 't']
  else if isPrintable c then [c]
  else if c.toNat < 0x100 then '\\' :: 'x' :: hexDigits 2 c.toNat
  else if c.toNat < 0x10000 then '\\' :: 'u' :: hexDigits 4 c.toNat
  else '\\' :: 'U' :: hexDigits 8 c.toNat

/-- One code point of a text inside a literal delimited by `quote`. -/
def escapePoint (quote : Char) : CodePoint → List Char
  | .char c => escapeChar quote c
  | .half c => '\\' :: 'u' :: hexDigits 4 c.number
  | .loose => [guardChar]

/-- The literal of a list of characters. -/
def quoteList (cs : List Char) : List Char :=
  let quote := quoteFor cs
  quote :: (codePoints cs).flatMap (escapePoint quote) ++ [quote]

/-- The literal of a text. -/
def quote (s : String) : String :=
  String.ofList (quoteList s.toList)

/-- One byte of a byte string inside a literal delimited by `quote`. -/
def escapeByte (quote : Char) (b : UInt8) : List Char :=
  let c := Char.ofNat b.toNat
  if c == quote || c == '\\' then ['\\', c]
  else if c == '\n' then ['\\', 'n']
  else if c == '\r' then ['\\', 'r']
  else if c == '\t' then ['\\', 't']
  else if 0x20 ≤ b && b < 0x7f then [c]
  else '\\' :: 'x' :: hexDigits 2 b.toNat

/-- The literal of a byte string, marked by a leading `b`. -/
def quoteBytes (bs : List UInt8) : String :=
  let quote := quoteFor (bs.map fun b => Char.ofNat b.toNat)
  String.ofList ('b' :: quote :: bs.flatMap (escapeByte quote) ++ [quote])

end SqlMapping.Text
