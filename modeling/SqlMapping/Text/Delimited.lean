/-!
# Delimited texts

A text stands between two delimiters, and a delimiter inside it is written twice.
-/

namespace SqlMapping.Text

/-- A list of characters with every delimiter written twice. -/
def doubled (delimiter : Char) (cs : List Char) : List Char :=
  cs.flatMap fun c => if c = delimiter then [c, c] else [c]

/-- A list of characters between two delimiters. -/
def delimitList (delimiter : Char) (cs : List Char) : List Char :=
  delimiter :: (doubled delimiter cs ++ [delimiter])

/-- A text between two delimiters. -/
def delimit (delimiter : Char) (s : String) : String :=
  String.ofList (delimitList delimiter s.toList)

@[simp] theorem doubled_nil (delimiter : Char) : doubled delimiter [] = [] := rfl

/-- A delimited text is delimited by characters. -/
@[simp] theorem toList_delimit (delimiter : Char) (s : String) :
    (delimit delimiter s).toList = delimitList delimiter s.toList := by
  simp [delimit]

end SqlMapping.Text
