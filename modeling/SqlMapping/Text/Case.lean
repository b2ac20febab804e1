import SqlMapping.Text.CaseTable

/-!
# Upper and lower case

Full case conversion: a character may become several, and the Greek capital sigma becomes its
final form at the end of a word.
-/

namespace SqlMapping.Text

/-- The other case of a code point according to a list of runs. -/
def CaseRun.lookup? (runs : List CaseRun) (n : Nat) : Option Nat :=
  (runs.find? fun r => r.first ≤ n && n ≤ r.last && (n - r.first) % r.step == 0).map fun r =>
    (Int.ofNat n + r.shift).toNat

/-- The lower-case form of one character, wherever it stands. -/
def lowerChar (c : Char) : List Char :=
  if c.toNat < 128 then [c.toLower]
  else if c.toNat = 0x130 then ['i', Char.ofNat 0x307]
  else match CaseRun.lookup? lowerRuns c.toNat with
    | some n => [Char.ofNat n]
    | none => [c]

/-- The upper-case form of one character. -/
def upperChar (c : Char) : List Char :=
  if c.toNat < 128 then [c.toUpper]
  else match upperExpansions.lookup c.toNat with
    | some ns => ns.map Char.ofNat
    | none => match CaseRun.lookup? upperRuns c.toNat with
      | some n => [Char.ofNat n]
      | none => [c]

/-- Whether the nearest character that is not skipped has a case. -/
def meetsCased : List Char → Bool
  | [] => false
  | c :: rest => if caseSkipped.contains c then meetsCased rest else casedLetters.contains c

/-- Lower case of a text whose beginning is already read, nearest character first. -/
def lowerAfter : List Char → List Char → List Char
  | _, [] => []
  | before, c :: rest =>
    let form :=
      if c.toNat = 0x3a3 then
        if meetsCased before && !meetsCased rest then [Char.ofNat 0x3c2] else [Char.ofNat 0x3c3]
      else lowerChar c
    form ++ lowerAfter (c :: before) rest

/-- The lower-case form of a text. -/
def lower (s : String) : String :=
  String.ofList (lowerAfter [] s.toList)

/-- The upper-case form of a text. -/
def upper (s : String) : String :=
  String.ofList (s.toList.flatMap upperChar)

end SqlMapping.Text
