import SqlMapping.Document.Yaml.Scalar
import SqlMapping.Document.Yaml.Tag

/-!
# Tokens of a YAML text

The marks and scalars of a text, with the beginnings and ends of blocks made explicit. Indentation
opens and closes blocks outside brackets. A scalar may turn out to be a key only at the colon after
it, at most 1024 characters later and on the same line; the mark of the key is then put in front of
it.
-/

namespace SqlMapping.Document.Yaml

/-- The marks and scalars of a text. -/
inductive Token where
  /-- A directive on the version, by its major number. -/
  | version (major : Nat)
  /-- A directive on a handle and what it stands for. -/
  | handle (name start : String)
  /-- Any other directive. -/
  | directive
  | documentStart | documentEnd | streamEnd
  | blockSequence | blockMapping | blockEnd
  | flowSequence | flowSequenceEnd | flowMapping | flowMappingEnd
  | blockEntry | flowEntry | key | value
  /-- A reference to an anchored node. -/
  | reference (name : String)
  /-- The name of the node that follows. -/
  | anchor (name : String)
  /-- The tag of the node that follows. -/
  | tag (tag : WrittenTag)
  /-- A scalar. -/
  | scalar (text : String) (plain : Bool)
deriving DecidableEq

/-- A token that may turn out to be a key. -/
structure PendingKey where
  /-- The level of brackets at which it stands. -/
  level : Nat
  /-- Its number among the tokens. -/
  number : Nat
  /-- Whether it has to be a key. -/
  isRequired : Bool
  /-- The place where it begins. -/
  place : Cursor

/-- The state of reading tokens. -/
structure Lexer where
  /-- The place reached. -/
  place : Cursor
  /-- The tokens read, the last one first. -/
  tokens : List Token := []
  /-- The number of open brackets. -/
  level : Nat := 0
  /-- The indentation of the innermost block. -/
  indent : Int := -1
  /-- The indentations of the blocks around it, the innermost first. -/
  outer : List Int := []
  /-- Whether a key may begin here. -/
  allowsKey : Bool := true
  /-- The tokens that may turn out to be keys. -/
  pending : List PendingKey := []

namespace Lexer

/-- Adds a token. -/
def push (l : Lexer) (t : Token) : Lexer :=
  { l with tokens := t :: l.tokens }

/-- Puts a token in front of the token of that number. -/
def insertAt (l : Lexer) (number : Nat) (t : Token) : Lexer :=
  let after := l.tokens.length - number
  { l with tokens := l.tokens.take after ++ t :: l.tokens.drop after }

/-- Moves on by `n` characters. -/
def advance (l : Lexer) (n : Nat) : Lexer :=
  { l with place := l.place.advance n }

/-- Whether brackets are open. -/
def inFlow (l : Lexer) : Bool :=
  l.level != 0

/-- Forgets the tokens that can no longer be keys. Fails if one of them had to be a key. -/
def dropStale (l : Lexer) : Option Lexer :=
  let isStale := fun (k : PendingKey) =>
    k.place.line != l.place.line || l.place.index - k.place.index > 1024
  if l.pending.any fun k => isStale k && k.isRequired then none
  else some { l with pending := l.pending.filter fun k => !isStale k }

/-- Forgets the token of this level that might have been a key. Fails if it had to be one. -/
def dropPending (l : Lexer) : Option Lexer :=
  if l.pending.any fun k => k.level == l.level && k.isRequired then none
  else some { l with pending := l.pending.filter fun k => k.level != l.level }

/-- Remembers that the next token may turn out to be a key. -/
def savePending (l : Lexer) : Option Lexer :=
  if l.allowsKey then do
    let l ← l.dropPending
    let isRequired := !l.inFlow && l.indent == Int.ofNat l.place.column
    return { l with pending := ⟨l.level, l.tokens.length, isRequired, l.place⟩ :: l.pending }
  else some l

/-- Closes the blocks that lie to the right of a column; `outer` are the blocks around. -/
def closeBlocks (column : Int) : List Int → Lexer → Lexer
  | [], l => l
  | indent :: outer, l =>
    if l.indent > column then
      closeBlocks column outer { l.push .blockEnd with indent, outer }
    else l

/-- Closes the blocks that lie to the right of a column, unless brackets are open. -/
def unwind (l : Lexer) (column : Int) : Lexer :=
  if l.inFlow then l else closeBlocks column l.outer l

/-- Opens a block at a column if it lies to the right of the innermost one. -/
def openBlock (l : Lexer) (column : Nat) : Option Lexer :=
  if l.indent < Int.ofNat column then
    some { l with indent := Int.ofNat column, outer := l.indent :: l.outer }
  else none

/-- Skips spaces, comments and line breaks; after a break outside brackets a key may begin. -/
def skipGaps : Nat → Lexer → Lexer
  | 0, l => l
  | fuel + 1, l =>
    let place := l.place.skipComment
    if isBreak place.next then
      skipGaps fuel { l with
        place := place.takeBreak.2
        allowsKey := l.allowsKey || !l.inFlow }
    else { l with place }

/-- Skips what stands before the next token. -/
def toNextToken (l : Lexer) : Lexer :=
  let l := if l.place.index = 0 && l.place.next = '\ufeff' then l.advance 1 else l
  skipGaps (l.place.rest.length + 1) l

/-! ## Directives -/

/-- Reads a number. -/
def readNumber (c : Cursor) : Option (Nat × Cursor) :=
  let digits := c.following Char.isDigit
  if digits.isEmpty then none
  else some (digits.foldl (fun n d => 10 * n + (d.toNat - 48)) 0, c.advance digits.length)

/-- Reads the value of a directive on the version. -/
def readVersion (c : Cursor) : Option (Token × Cursor) := do
  let (major, c) ← readNumber c.skipSpaces
  if c.next != '.' then none
  let (_, c) ← readNumber c.step
  if isSpaceOrEnd c.next then some (.version major, c) else none

/-- Reads the value of a directive on a handle. -/
def readHandleDirective (c : Cursor) : Option (Token × Cursor) := do
  let (name, c) ← readHandle c.skipSpaces
  if c.next != ' ' then none
  let (start, c) ← readTagText c.skipSpaces
  if isSpaceOrEnd c.next then some (.handle name start, c) else none

/-- Reads a directive at its percent sign. -/
def readDirective (c : Cursor) : Option (Token × Cursor) := do
  let name := c.step.following isNameChar
  let c := c.step.advance name.length
  if name.isEmpty || !isSpaceOrEnd c.next then none
  let (token, c) ←
    if name = "YAML".toList then readVersion c
    else if name = "TAG".toList then readHandleDirective c
    else some (Token.directive, c.skip fun ch => !isLineEnd ch)
  let c := c.skipComment
  if isLineEnd c.next then some (token, c.takeBreak.2) else none

/-! ## Single tokens -/

/-- Ends all blocks and forgets the key of this level, before a mark between documents. -/
def endContent (l : Lexer) : Option Lexer := do
  let l ← (l.unwind (-1)).dropPending
  return { l with allowsKey := false }

/-- Reads an opening bracket. -/
def openBracket (l : Lexer) (t : Token) : Option Lexer := do
  let l ← l.savePending
  return { (l.advance 1).push t with level := l.level + 1, allowsKey := true }

/-- Reads a closing bracket. -/
def closeBracket (l : Lexer) (t : Token) : Option Lexer := do
  let l ← l.dropPending
  if l.level = 0 then none
  else return { (l.advance 1).push t with level := l.level - 1, allowsKey := false }

/-- Reads the comma between items. -/
def readFlowEntry (l : Lexer) : Option Lexer := do
  let l ← l.dropPending
  return { (l.advance 1).push .flowEntry with allowsKey := true }

/-- Opens a block for a mark at this place, unless brackets are open. -/
def openBlockFor (l : Lexer) (t : Token) : Lexer :=
  if l.inFlow then l
  else match l.openBlock l.place.column with
    | some opened => opened.push t
    | none => l

/-- Reads the hyphen of an item. -/
def readBlockEntry (l : Lexer) : Option Lexer := do
  if !l.inFlow && !l.allowsKey then none
  let l ← (l.openBlockFor .blockSequence).dropPending
  return { (l.advance 1).push .blockEntry with allowsKey := true }

/-- Reads the question mark of a key. -/
def readKey (l : Lexer) : Option Lexer := do
  if !l.inFlow && !l.allowsKey then none
  let l ← (l.openBlockFor .blockMapping).dropPending
  return { (l.advance 1).push .key with allowsKey := !l.inFlow }

/-- Reads the colon of a value, which may make a key of an earlier token. -/
def readValue (l : Lexer) : Option Lexer :=
  match l.pending.find? fun k => k.level == l.level with
  | some k =>
    let l := { l with pending := l.pending.filter fun k => k.level != l.level }
    let l := l.insertAt k.number .key
    let l :=
      if l.inFlow then l
      else match l.openBlock k.place.column with
        | some opened => opened.insertAt k.number .blockMapping
        | none => l
    some { (l.advance 1).push .value with allowsKey := false }
  | none => do
    if !l.inFlow && !l.allowsKey then none
    let l := l.openBlockFor .blockMapping
    let l ← { l with allowsKey := !l.inFlow }.dropPending
    return (l.advance 1).push .value

/-- Adds a token that may turn out to be a key, and moves on to the place after it. -/
def readContent (l : Lexer) (reading : Option (Token × Cursor)) : Option Lexer := do
  let l ← l.savePending
  let (token, place) ← reading
  return { l.push token with place, allowsKey := false }

/-- Reads the name of an anchor or of a reference to one. -/
def readName (token : String → Token) (c : Cursor) : Option (Token × Cursor) :=
  let name := c.step.following isNameChar
  let c := c.step.advance name.length
  if name.isEmpty then none
  else if isGap c.next || "?:,]\x7d%@\x60".toList.contains c.next then
    some (token (String.ofList name), c)
  else none

/-- Reads a quoted scalar. -/
def readQuotedScalar (l : Lexer) (double : Bool) : Option Lexer :=
  l.readContent ((readQuoted double l.place).map fun (s, c) => (.scalar s false, c))

/-- Reads a plain scalar; a line break at its end lets a key begin after it. -/
def readPlainScalar (l : Lexer) : Option Lexer := do
  let l ← l.savePending
  let plain := readPlain l.inFlow l.indent l.place
  return { l.push (.scalar (String.ofList plain.text) true) with
    place := plain.after
    allowsKey := plain.endsLine }

/-- Reads a block scalar. -/
def readBlockScalar (l : Lexer) (fold : Bool) : Option Lexer := do
  let l ← l.dropPending
  let (s, place) ← readBlock fold l.indent l.place
  return { l.push (.scalar s false) with place, allowsKey := true }

/-- The characters that begin a mark and therefore no plain scalar. -/
def markChars : List Char := "-?:,[]\x7b\x7d#&*!|>'\"%@\x60".toList

/-- Whether a plain scalar begins at this place. -/
def startsPlain (l : Lexer) : Bool :=
  let c := l.place.next
  (!isGap c && !markChars.contains c) ||
    (!isGap (l.place.peek 1) && (c == '-' || (!l.inFlow && (c == '?' || c == ':'))))

/-- Reads one token at the place reached. -/
def readToken (l : Lexer) : Option Lexer :=
  let c := l.place.next
  let alone := isGap (l.place.peek 1)
  let atStart := l.place.column == 0
  if c == '%' && atStart then do
    let l ← l.endContent
    let (token, place) ← readDirective l.place
    return { l.push token with place }
  else if atStart && l.place.atMarker '-' then
    l.endContent.map fun l => (l.advance 3).push .documentStart
  else if atStart && l.place.atMarker '.' then
    l.endContent.map fun l => (l.advance 3).push .documentEnd
  else if c == '[' then l.openBracket .flowSequence
  else if c == '\x7b' then l.openBracket .flowMapping
  else if c == ']' then l.closeBracket .flowSequenceEnd
  else if c == '\x7d' then l.closeBracket .flowMappingEnd
  else if c == ',' then l.readFlowEntry
  else if c == '-' && alone then l.readBlockEntry
  else if c == '?' && (l.inFlow || alone) then l.readKey
  else if c == ':' && (l.inFlow || alone) then l.readValue
  else if c == '*' then l.readContent (readName .reference l.place)
  else if c == '&' then l.readContent (readName .anchor l.place)
  else if c == '!' then l.readContent ((readTag l.place).map fun (t, c) => (.tag t, c))
  else if c == '|' && !l.inFlow then l.readBlockScalar false
  else if c == '>' && !l.inFlow then l.readBlockScalar true
  else if c == '\'' then l.readQuotedScalar false
  else if c == '"' then l.readQuotedScalar true
  else if l.startsPlain then l.readPlainScalar
  else none

/-- Reads the remaining tokens, at most `fuel` of them. -/
def readAll : Nat → Lexer → Option (List Token)
  | 0, _ => none
  | fuel + 1, l => do
    let l ← l.toNextToken.dropStale
    let l := l.unwind (Int.ofNat l.place.column)
    if l.place.rest.isEmpty then
      let l ← (l.unwind (-1)).dropPending
      return (l.push .streamEnd).tokens.reverse
    else
      let l ← l.readToken
      readAll fuel l

end Lexer

/-- Whether a character may stand in a text at all. -/
def isAllowed (c : Char) : Bool :=
  let n := c.toNat
  n == 0x09 || n == 0x0a || n == 0x0d || (0x20 ≤ n && n ≤ 0x7e) || n == 0x85 ||
    (0xa0 ≤ n && n ≤ 0xd7ff) || (0xe000 ≤ n && n ≤ 0xfffd) || 0x10000 ≤ n

/-- The tokens of a text. Every token takes at least one character. -/
def tokens? (s : String) : Option (List Token) :=
  let cs := s.toList
  if cs.all isAllowed then Lexer.readAll (cs.length + 1) { place := { rest := cs } } else none

end SqlMapping.Document.Yaml
