import SqlMapping.Document.Yaml.Cursor
import SqlMapping.Text.CodePoint
import SqlMapping.Text.Digit

/-!
# Scalars of a YAML text

A scalar is plain, quoted or a block. Each reader starts at the first character of the scalar and
gives its text and the place after it. A line break inside a scalar is folded into a space, and the
empty lines after it are kept.
-/

namespace SqlMapping.Document.Yaml

open SqlMapping.Text

namespace Cursor

/-- Reads line breaks, each followed by a run of characters that `skips` accepts at its place; at
most `fuel` of them. Fails at a separator of documents if `guarded`. -/
def breaksFrom (guarded : Bool) (skips : Cursor → Cursor) : Nat → Cursor →
    Option (List Char × Cursor)
  | 0, c => some ([], c)
  | fuel + 1, c =>
    if guarded && c.atSeparator then none
    else
      let c := skips c
      if isBreak c.next then do
        let (first, c) := c.takeBreak
        let (others, c) ← breaksFrom guarded skips fuel c
        return (first ++ others, c)
      else some ([], c)

/-- The text of a line break that is folded, and of the breaks after it. -/
def folded (first breaks : List Char) : List Char :=
  if first != ['\n'] then first ++ breaks
  else if breaks.isEmpty then [' '] else breaks

end Cursor

/-! ## Quoted scalars -/

/-- The character of a simple escape. -/
def simpleEscape? (c : Char) : Option Char :=
  [('0', '\x00'), ('a', '\x07'), ('b', '\x08'), ('t', '\t'), ('\t', '\t'), ('n', '\n'),
   ('v', '\x0b'), ('f', '\x0c'), ('r', '\r'), ('e', '\x1b'), (' ', ' '), ('"', '"'), ('\\', '\\'),
   ('/', '/'), ('N', '\x85'), ('_', '\xa0'), ('L', '\u2028'), ('P', '\u2029')].lookup c

/-- How many hexadecimal digits an escape has. -/
def hexEscapeSize? (c : Char) : Option Nat :=
  [('x', 2), ('u', 4), ('U', 8)].lookup c

/-- The number of so many hexadecimal digits, if they follow. -/
def hexNumber? (size : Nat) (cs : List Char) : Option Nat :=
  if cs.length < size then none
  else (cs.take size).foldl
    (fun n? c => n?.bind fun n => (hexValue? c).map fun d => 16 * n + d) (some 0)

/-- The breaks inside a quoted scalar; spaces and tabs around them are dropped. -/
def Cursor.quotedBreaks (c : Cursor) : Option (List Char × Cursor) :=
  c.breaksFrom true (fun c => c.skip fun ch => ch == ' ' || ch == '\t') (c.rest.length + 1)

/-- Reads what a backslash stands for, from the character after it. A number may be that of a half
of a surrogate pair, which is kept as it is. -/
def readEscape (c : Cursor) : Option (List Char × Cursor) :=
  match simpleEscape? c.next with
  | some ch => some ([ch], c.step)
  | none =>
    match hexEscapeSize? c.next with
    | some size => do
      let n ← hexNumber? size c.step.rest
      if n < 0x110000 then some ((CodePoint.ofNumber n).spelling, c.step.advance size) else none
    | none => if isBreak c.next then c.takeBreak.2.quotedBreaks else none

/-- Reads spaces and tabs inside a quoted scalar, folding the line breaks among them. -/
def readQuotedGap (c : Cursor) : Option (List Char × Cursor) :=
  let gap := c.following fun ch => ch == ' ' || ch == '\t'
  let c := c.advance gap.length
  if c.next = '\x00' then none
  else if isBreak c.next then do
    let (first, c) := c.takeBreak
    let (breaks, c) ← c.quotedBreaks
    return (Cursor.folded first breaks, c)
  else some (gap, c)

/-- Reads the rest of a quoted scalar, at most `fuel` parts of it. -/
def readQuotedFrom (double : Bool) : Nat → Cursor → Option (List Char × Cursor)
  | 0, _ => none
  | fuel + 1, c =>
    let ch := c.next
    let go (part : Option (List Char × Cursor)) : Option (List Char × Cursor) := do
      let (first, c) ← part
      let (others, c) ← readQuotedFrom double fuel c
      return (first ++ others, c)
    if isGap ch then go (readQuotedGap c)
    else if double then
      if ch = '"' then some ([], c.step)
      else if ch = '\\' then go (readEscape c.step)
      else go (some ([ch], c.step))
    else if ch = '\'' then
      if c.peek 1 = '\'' then go (some ([ch], c.advance 2)) else some ([], c.step)
    else go (some ([ch], c.step))

/-- Reads a quoted scalar. -/
def readQuoted (double : Bool) (c : Cursor) : Option (String × Cursor) := do
  let (cs, c) ← readQuotedFrom double (c.rest.length + 1) c.step
  return (String.ofList cs, c)

/-! ## Plain scalars -/

/-- Whether a plain scalar ends at a place. -/
def endsPlain (inFlow : Bool) (c next : Char) : Bool :=
  isGap c ||
    (c == ':' && (isGap next || (inFlow && [',', '[', ']', '\x7b', '\x7d'].contains next))) ||
    (inFlow && [',', '?', '[', ']', '\x7b', '\x7d'].contains c)

/-- The characters of a plain scalar up to a gap or its end. -/
def plainRun (inFlow : Bool) : List Char → List Char
  | [] => []
  | c :: rest =>
    if endsPlain inFlow c (rest.headD '\x00') then [] else c :: plainRun inFlow rest

/-- Reads the breaks after a break inside a plain scalar; `none` at a separator of documents. -/
def plainBreaks : Nat → Cursor → Option (List Char) × Cursor
  | 0, c => (some [], c)
  | fuel + 1, c =>
    if c.atSeparator then (none, c)
    else
      let c := c.skipSpaces
      if isBreak c.next then
        let (first, c) := c.takeBreak
        let (others, c) := plainBreaks fuel c
        (others.map (first ++ ·), c)
      else (some [], c)

/-- Reads the gap after a run of a plain scalar: its text, the place after it, and whether it holds
a line break. The text is empty where the scalar cannot go on. -/
def readPlainGap (c : Cursor) : List Char × Cursor × Bool :=
  let gap := c.following (· == ' ')
  let c := c.advance gap.length
  if isBreak c.next then
    let (first, c) := c.takeBreak
    match plainBreaks (c.rest.length + 1) c with
    | (some breaks, c) => (Cursor.folded first breaks, c, true)
    | (none, c) => ([], c, true)
  else (gap, c, false)

/-- What a plain scalar comes to: its text, the place after it, and whether its end stands after a
line break. -/
structure PlainScalar where
  /-- The text. -/
  text : List Char
  /-- The place after it. -/
  after : Cursor
  /-- Whether the gap at its end holds a line break. -/
  endsLine : Bool

/-- Reads a plain scalar after the text `gap`. -/
def readPlainFrom (inFlow : Bool) (indent : Int) : Nat → List Char → Bool → Cursor → PlainScalar
  | 0, _, endsLine, c => ⟨[], c, endsLine⟩
  | fuel + 1, gap, endsLine, c =>
    let run := if c.next = '#' then [] else plainRun inFlow c.rest
    if run.isEmpty then ⟨[], c, endsLine⟩
    else
      let (space, after, broken) := readPlainGap (c.advance run.length)
      if space.isEmpty || after.next = '#' || (!inFlow && Int.ofNat after.column < indent) then
        ⟨gap ++ run, after, broken⟩
      else
        let others := readPlainFrom inFlow indent fuel space broken after
        { others with text := gap ++ run ++ others.text }

/-- Reads a plain scalar inside a block of the given indentation. -/
def readPlain (inFlow : Bool) (indent : Int) (c : Cursor) : PlainScalar :=
  readPlainFrom inFlow (indent + 1) (c.rest.length + 1) [] false c

/-! ## Block scalars -/

/-- What becomes of the line breaks at the end of a block scalar. -/
inductive Chomping where
  /-- One of them is kept. -/
  | clip
  /-- None of them is kept. -/
  | strip
  /-- All of them are kept. -/
  | keep
deriving DecidableEq

/-- Reads the sign of a block scalar. -/
def readChomping (c : Cursor) : Chomping × Cursor :=
  if c.next = '+' then (.keep, c.step) else if c.next = '-' then (.strip, c.step) else (.clip, c)

/-- Reads the indentation digit of a block scalar, which may not be zero. -/
def readIncrement (c : Cursor) : Option (Option Nat × Cursor) :=
  if c.next.isDigit then
    if c.next = '0' then none else some (some (c.next.toNat - 48), c.step)
  else some (none, c)

/-- Reads the sign and the indentation digit of a block scalar, in either order. -/
def readBlockHeader (c : Cursor) : Option (Chomping × Option Nat × Cursor) := do
  let (chomping, c) := readChomping c
  let (increment, c) ← readIncrement c
  let (chomping, c) := if chomping = .clip && increment.isSome then readChomping c
    else (chomping, c)
  if isSpaceOrEnd c.next then some (chomping, increment, c) else none

/-- Reads the empty lines at the beginning of a block scalar, and the greatest column reached by
their spaces. -/
def readBlockIndentation : Nat → Nat → Cursor → List Char × Nat × Cursor
  | 0, width, c => ([], width, c)
  | fuel + 1, width, c =>
    if c.next = ' ' then
      let c := c.step
      readBlockIndentation fuel (max width c.column) c
    else if isBreak c.next then
      let (first, c) := c.takeBreak
      let (others, width, c) := readBlockIndentation fuel width c
      (first ++ others, width, c)
    else ([], width, c)

/-- The place after the spaces that follow, but not beyond a column. -/
def skipToColumn (column : Nat) (c : Cursor) : Cursor :=
  c.advance (min (c.following (· == ' ')).length (column - c.column))

/-- The breaks between the lines of a block scalar. -/
def blockBreaks (indent : Nat) (c : Cursor) : List Char × Cursor :=
  (c.breaksFrom false (skipToColumn indent) (c.rest.length + 1)).getD ([], c)

/-- Reads the lines of a block scalar after `breaks`. The text is without the breaks at its end;
these come apart, the first one and the others. -/
def readBlockLines (fold : Bool) (indent : Nat) :
    Nat → List Char → List Char → Cursor → List Char × List Char × List Char × Cursor
  | 0, last, breaks, c => ([], last, breaks, c)
  | fuel + 1, last, breaks, c =>
    if c.column != indent || c.next = '\x00' then ([], last, breaks, c)
    else
      let startsText := c.next != ' ' && c.next != '\t'
      let line := c.following fun ch => !isLineEnd ch
      let (last, c) := (c.advance line.length).takeBreak
      let (more, c) := blockBreaks indent c
      if c.column = indent && c.next != '\x00' then
        let joint :=
          if fold && last == ['\n'] && startsText && c.next != ' ' && c.next != '\t' then
            (if more.isEmpty then [' '] else [])
          else last
        let (others, last, rest, c) := readBlockLines fold indent fuel last more c
        (breaks ++ line ++ joint ++ others, last, rest, c)
      else (breaks ++ line, last, more, c)

/-- Reads a block scalar inside a block of the given indentation. -/
def readBlock (fold : Bool) (indent : Int) (c : Cursor) : Option (String × Cursor) := do
  let (chomping, increment, c) ← readBlockHeader c.step
  let c := c.skipComment
  if !isLineEnd c.next then none
  let c := c.takeBreak.2
  let least := max 1 (indent + 1).toNat
  let (breaks, column, c) :=
    match increment with
    | some n =>
      let column := least + n - 1
      let (breaks, c) := blockBreaks column c
      (breaks, column, c)
    | none =>
      let (breaks, width, c) := readBlockIndentation (c.rest.length + 1) 0 c
      (breaks, max least width, c)
  let (text, last, rest, c) := readBlockLines fold column (c.rest.length + 1) [] breaks c
  let tail := match chomping with
    | .clip => last
    | .strip => []
    | .keep => last ++ rest
  return (String.ofList (text ++ tail), c)

end SqlMapping.Document.Yaml
