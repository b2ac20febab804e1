/-!
# Paths

A path is a list of names, from the root or from the working directory. Empty names and names for
the directory itself are dropped when a path is read; the name `..` is kept, because what it leads
to depends on the directories that are there.
-/

namespace SqlMapping.Files

/-- A path. -/
structure FilePath where
  /-- Whether it begins at the root. -/
  isAbsolute : Bool
  /-- The names on the way. -/
  names : List String
deriving DecidableEq

namespace FilePath

/-- The name that leads one level up. -/
def up : String := ".."

/-- The path that a text denotes. -/
def ofText (s : String) : FilePath :=
  ⟨s.toList.head? == some '/',
    ((s.toList.splitOn '/').map String.ofList).filter fun name => name != "" && name != "."⟩

/-- The text of a path. -/
def text (p : FilePath) : String :=
  if p.isAbsolute then "/" ++ String.intercalate "/" p.names
  else if p.names.isEmpty then "."
  else String.intercalate "/" p.names

/-- A path followed by another one, which replaces it when it begins at the root. -/
def append (p q : FilePath) : FilePath :=
  if q.isAbsolute then q else ⟨p.isAbsolute, p.names ++ q.names⟩

/-- The path of the directory around a path; that of the root or of the working directory is the
path itself. -/
def parent (p : FilePath) : FilePath :=
  ⟨p.isAbsolute, p.names.dropLast⟩

/-- The part of a list of characters from its last point on, unless that point stands at one of
the two ends. -/
def suffixList (cs : List Char) : List Char :=
  let after := (cs.reverse.takeWhile (· != '.')).reverse
  if after.isEmpty || after.length + 1 ≥ cs.length then [] else '.' :: after

/-- The suffix of the last name, with its point. -/
def suffix (p : FilePath) : String :=
  String.ofList (suffixList ((p.names.getLast?.getD "").toList))

/-- The names on the way from the root, where every `..` removes the name before it. -/
def resolveFrom (names : List String) : List String → List String
  | [] => names
  | name :: rest =>
    if name = up then resolveFrom names.dropLast rest else resolveFrom (names ++ [name]) rest

/-- The absolute path of a path, seen from a working directory. -/
def resolve (directory : List String) (p : FilePath) : FilePath :=
  ⟨true, resolveFrom (if p.isAbsolute then [] else directory) p.names⟩

/-- No name on the way leads up again, if none does at the beginning. -/
theorem up_notMem_resolveFrom {names : List String} (h : up ∉ names) (rest : List String) :
    up ∉ resolveFrom names rest := by
  induction rest generalizing names with
  | nil => exact h
  | cons name rest ih =>
    rw [resolveFrom]
    split
    · exact ih fun hmem => h (List.dropLast_subset names hmem)
    · next hname =>
      refine ih fun hmem => ?_
      rcases List.mem_append.mp hmem with hmem | hmem
      · exact h hmem
      · exact hname (List.mem_singleton.mp hmem).symm

/-- No name of a resolved path leads up again. -/
theorem up_notMem_resolve {directory : List String} (h : up ∉ directory) (p : FilePath) :
    up ∉ (p.resolve directory).names := by
  refine up_notMem_resolveFrom ?_ p.names
  split
  · exact List.not_mem_nil
  · exact h

end FilePath

end SqlMapping.Files
