/-!
# Placeholders in the styles of drivers

Statements mark their parameters by question marks. A driver of another style gets every question
mark outside quotes replaced by a mark of its own; where that mark begins with a percent sign, the
percent signs of the text are doubled.
-/

namespace SqlMapping

/-- How a driver marks the parameters of a statement. -/
inductive ParameterStyle where
  /-- Question marks. -/
  | questionMark
  /-- Percent signs; named ones as well, since no name is ever used. -/
  | percent
  /-- Colons and numbers. -/
  | numbered
  /-- Colons and names. -/
  | named
  /-- A style that no placeholder can be written in. -/
  | unknown (name : String)
deriving DecidableEq

namespace ParameterStyle

/-- The style of that name. -/
def ofName (name : String) : ParameterStyle :=
  if name = "qmark" then .questionMark
  else if name = "format" || name = "pyformat" then .percent
  else if name = "numeric" then .numbered
  else if name = "named" then .named
  else .unknown name

/-- Whether percent signs are doubled. -/
def doublesPercent (style : ParameterStyle) : Bool :=
  style == .percent

/-- The mark of the placeholder of that number. -/
def mark : ParameterStyle → Nat → Except String (List Char)
  | .questionMark, _ => .ok ['?']
  | .percent, _ => .ok ['%', 's']
  | .numbered, k => .ok (':' :: Nat.toDigits 10 k)
  | .named, k => .ok (':' :: 'p' :: Nat.toDigits 10 k)
  | .unknown name, _ => .error s!"Unsupported DB-API paramstyle '{name}'."

end ParameterStyle

/-- Whether a character opens a quoted part of a statement. -/
def isStatementQuote (c : Char) : Bool :=
  c == '\'' || c == '"' || c == '\x60'

/-- The quote that is open after a character. -/
def quoteAfter (open? : Option Char) (c : Char) : Option Char :=
  match open? with
  | some quote => if c = quote then none else some quote
  | none => if isStatementQuote c then some c else none

/-- A statement with its placeholders in a style. The quote that is open and the number of
placeholders before are given. -/
def adaptFrom (style : ParameterStyle) :
    Option Char → Nat → List Char → Except String (List Char)
  | _, _, [] => .ok []
  | open?, count, c :: rest =>
    if open?.isNone && c == '?' then do
      let mark ← style.mark (count + 1)
      let others ← adaptFrom style none (count + 1) rest
      return mark ++ others
    else do
      let others ← adaptFrom style (quoteAfter open? c) count rest
      return if c == '%' && style.doublesPercent then '%' :: '%' :: others else c :: others

/-- A statement with its placeholders in a style. It fails with a message when it has a placeholder
that the style cannot write. -/
def adaptPlaceholders (sql : String) (style : ParameterStyle) : Except String String :=
  (adaptFrom style none 0 sql.toList).map String.ofList

end SqlMapping
