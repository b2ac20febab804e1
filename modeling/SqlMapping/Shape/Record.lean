import SqlMapping.Shape.Scalar

/-!
# Records out of untyped values

A record is read from a mapping. Each field has a key, or several of which the first one present
counts; a key that no field uses is a problem of its own. A key with a half of a surrogate pair is
the only problem that is reported of its record.
-/

namespace SqlMapping.Shape

open SqlMapping.Text

/-- The entries of a mapping. -/
abbrev Entries := List (Value × Value)

variable {α : Type}

/-- The first of several keys that is present, with its value. -/
def findField (keys : List String) (entries : Entries) : Option (String × Value) :=
  keys.findSome? fun key => (Value.get? key entries).map fun v => (key, v)

/-- Reads a field that has to be present. -/
def required (keys : List String) (read : Value → Checked α) (entries : Entries) : Checked α :=
  match findField keys entries with
  | some (key, v) => (read v).within (.key key)
  | none => .invalid [⟨[.key (keys.headD "")], .missing⟩]

/-- Reads a field that has a default. -/
def optional (keys : List String) (default : α) (read : Value → Checked α) (entries : Entries) :
    Checked α :=
  match findField keys entries with
  | some (key, v) => (read v).within (.key key)
  | none => .valid default

/-- Reads a value that may be null. -/
def nullable (read : Value → Checked α) : Value → Checked (Option α)
  | .null => .valid none
  | v => (read v).map some

/-- The step to the value of a key that no field uses. -/
def stepOfKey : Value → PathStep
  | .text s => .key s
  | .int n => .index n
  | .bool b => .index (if b then 1 else 0)
  | v => .key ((v.literal v.levels).toOption.getD s!"<unprintable {v.typeName} object>")

/-- The problems of the keys that no field uses. -/
def surplusKeys (fields : List (List String)) (entries : Entries) : List Problem :=
  let used := fields.filterMap fun keys => (findField keys entries).map Prod.fst
  entries.filterMap fun (k, _) => match k with
    | .text s =>
      if used.contains s then none
      else if isWhole s then some ⟨[.key s], .surplusKey⟩
      else some ⟨[], .notUnicode⟩
    | k => some ⟨[stepOfKey k], .keyNotText⟩

/-- A record with the problems of its surplus keys. -/
def refuseSurplus (x : Checked α) : List Problem → Checked α
  | [] => x
  | surplus =>
    if x.isGivenUp then x
    else if surplus.any fun p => p.flaw == .notUnicode then .flaw .notUnicode
    else (x.map fun a _ => a).apply (.invalid surplus : Checked Unit)

/-- Reads a record with the given fields. -/
def readRecord (record : String) (fields : List (List String)) (read : Entries → Checked α) :
    Value → Checked α
  | .mapping entries => refuseSurplus (read entries) (surplusKeys fields entries)
  | _ => .flaw (.notRecord record)

/-- Reads the items of a list, the first one having the given number. -/
def readItems (read : Value → Checked α) : Nat → List Value → Checked (List α)
  | _, [] => .valid []
  | i, v :: rest =>
    (((read v).within (.index (Int.ofNat i))).map List.cons).apply (readItems read (i + 1) rest)

/-- The items of a list, a tuple or a set. -/
def itemsOf : Value → Option (List Value)
  | .list items | .tuple items | .set items => some items
  | _ => none

/-- Reads a list. -/
def readList (read : Value → Checked α) (v : Value) : Checked (List α) :=
  match itemsOf v with
  | some items => readItems read 0 items
  | none => .flaw .notList

/-- Reads a tuple. -/
def readTuple (read : Value → Checked α) (v : Value) : Checked (List α) :=
  match itemsOf v with
  | some items => readItems read 0 items
  | none => .flaw .notTuple

end SqlMapping.Shape
