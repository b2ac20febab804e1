import SqlMapping.Column.Basic
import SqlMapping.Proofs.Column.TrailingSize
import SqlMapping.Proofs.Number.Digits

/-!
# Type texts

A column type is written by its name, with a size in parentheses behind it if it has one
(`ColumnType.sizedName`). Either text is read back: the name gives the type, whether a size follows
it or not, and the size is the number between the parentheses. Names and digits are plain, that is,
they hold no blank and no parenthesis, and that is all that the readers of types and of sizes need
to know of them.
-/

namespace SqlMapping

open SqlMapping.Number SqlMapping.Shape SqlMapping.Text

/-! ## Plain texts -/

/-- Whether a character is neither a blank nor a parenthesis. -/
def isPlain (c : Char) : Bool :=
  !isBlank c && c != '(' && c != ')'

/-- A plain character is no blank and no parenthesis. -/
lemma isPlain_iff {c : Char} :
    isPlain c = true ↔ isBlank c = false ∧ c ≠ '(' ∧ c ≠ ')' := by
  simp [isPlain, and_assoc]

/-- A plain character does not end a line. -/
lemma ne_lineFeed_of_isPlain {c : Char} (h : isPlain c = true) : c ≠ '\n' := by
  rintro rfl
  exact absurd (isPlain_iff.mp h).1 (by decide)

/-- A digit is plain. -/
lemma isPlain_of_isDigit {c : Char} (h : c.isDigit = true) : isPlain c = true :=
  forall_isDigit (p := fun c => isPlain c = true) (by decide) h

/-- The digits of a number are plain. -/
lemma isPlain_of_mem_toDigits {n : Nat} {c : Char} (h : c ∈ Nat.toDigits 10 n) :
    isPlain c = true :=
  isPlain_of_isDigit (Nat.isDigit_of_mem_toDigits (by decide) (by decide) h)

/-- What follows the part in front of the first character to be met. -/
lemma dropWhile_append_of_notMem {c : Char} {cs : List Char} (h : c ∉ cs) (rest : List Char) :
    (cs ++ c :: rest).dropWhile (· != c) = c :: rest := by
  have hcs : ∀ d ∈ cs, (d != c) = true := by
    intro d hd
    exact bne_iff_ne.mpr fun heq => h (heq ▸ hd)
  rw [List.dropWhile_append_of_pos hcs, List.dropWhile_cons_of_neg (by simp)]

section Suffix

variable {front inner : List Char} (hfront : ∀ c ∈ front, isPlain c = true)
  (hinner : ∀ c ∈ inner, isPlain c = true)

include hfront

/-- There is no parenthesis in a plain text. -/
lemma parenthesis_notMem : '(' ∉ front ∧ ')' ∉ front :=
  ⟨fun h => (isPlain_iff.mp (hfront _ h)).2.1 rfl, fun h => (isPlain_iff.mp (hfront _ h)).2.2 rfl⟩

/-- A plain text stays as it is without blanks around it. -/
lemma trimWith_of_isPlain : trimWith isBlank front = front :=
  trimWith_of_forall fun c hc => (isPlain_iff.mp (hfront c hc)).1

/-- A plain text has no size to be left out. -/
lemma stripSizeList_of_isPlain : ColumnType.stripSizeList front = front := by
  have hsizeless : ¬EndsInSize front := by
    rintro ⟨start, size, after, rfl, -, -⟩
    exact (parenthesis_notMem hfront).1 (by simp)
  rw [ColumnType.stripSizeList_of_not hsizeless, trimWith_of_isPlain hfront]

include hinner

/-- A plain text in parentheses is left out behind a plain text. -/
lemma stripSizeList_append :
    ColumnType.stripSizeList (front ++ '(' :: (inner ++ [')'])) = front := by
  have hfirst : '(' ∉ lastLine front := fun h =>
    (parenthesis_notMem hfront).1 ((List.rtakeWhile_suffix _ _).mem h)
  have hline : '\n' ∉ inner := fun h => ne_lineFeed_of_isPlain (hinner _ h) rfl
  rw [ColumnType.stripSizeList_append_size hfirst hline (by simp), trimWith_of_isPlain hfront]

/-- The size text behind a plain text is the plain text in the parentheses. -/
lemma sizeSuffix_append :
    FieldDeclaration.sizeSuffix? (front ++ '(' :: (inner ++ [')'])) = some inner := by
  have hbody : front ++ '(' :: (inner ++ [')']) = (front ++ '(' :: inner) ++ [')'] := by simp
  have hcondition : ((front ++ '(' :: (inner ++ [')'])).contains '(' &&
      (trimEndWith isBlank (front ++ '(' :: (inner ++ [')']))).getLast? == some ')') = true := by
    rw [hbody, trimEndWith_concat _ (by decide), List.getLast?_concat]
    simp
  have hreverse : (inner ++ [')']).reverse.dropWhile (· != ')') = ')' :: inner.reverse := by
    rw [List.reverse_append, List.reverse_singleton, List.singleton_append,
      List.dropWhile_cons_of_neg (by simp)]
  rw [FieldDeclaration.sizeSuffix?, if_pos hcondition]
  dsimp only
  rw [dropWhile_append_of_notMem (parenthesis_notMem hfront).1, List.drop_succ_cons, List.drop_zero,
    hreverse, List.drop_succ_cons, List.drop_zero, List.reverse_reverse,
    trimWith_of_isPlain hinner]

end Suffix

/-! ## Column types -/

namespace ColumnType

/-- The text of a column type with a size. -/
def sizedName (t : ColumnType) (size : Nat) : String :=
  t.name ++ "(" ++ natText size ++ ")"

/-- The text of a column type with a size as a list of characters. -/
lemma toList_sizedName (t : ColumnType) (size : Nat) :
    (t.sizedName size).toList = t.name.toList ++ '(' :: (Nat.toDigits 10 size ++ [')']) := by
  have hdigits : (natText size).toList = Nat.toDigits 10 size := String.toList_ofList
  rw [sizedName, String.toList_append, String.toList_append, String.toList_append, hdigits]
  simp

/-- The names of column types are plain. -/
lemma isPlain_of_mem_name {t : ColumnType} {c : Char} (h : c ∈ t.name.toList) :
    isPlain c = true := by
  have hall : t.name.toList.all isPlain = true := by
    cases t <;> decide
  exact List.all_eq_true.mp hall c h

/-- The name of a column type in upper case is that of the type. -/
lemma ofName_upper_name (t : ColumnType) : ofName? (upper t.name) = some t := by
  cases t <;> decide

/-- A column type is read back from its name. -/
lemma parse_name (t : ColumnType) : parse? t.name = some t := by
  rw [parse?, stripSize, stripSizeList_of_isPlain fun _ => isPlain_of_mem_name, String.ofList_toList,
    ofName_upper_name]

/-- A column type is read back from its name with a size. -/
lemma parse_sizedName (t : ColumnType) (size : Nat) : parse? (t.sizedName size) = some t := by
  rw [parse?, stripSize, toList_sizedName, stripSizeList_append (fun _ => isPlain_of_mem_name)
    fun _ => isPlain_of_mem_toDigits, String.ofList_toList, ofName_upper_name]

end ColumnType

/-- The SQL type of a column with a size is the text of its type with that size. -/
lemma Column.sqlType_of_sized {c : Column} {size : Nat} (h : c.size = some (Int.ofNat size)) :
    c.sqlType = c.type.sizedName size := by
  rw [sqlType, h, ColumnType.sizedName]
  rfl

/-- The SQL type of a column without a size is the name of its type. -/
lemma Column.sqlType_of_sizeless {c : Column} (h : c.size = none) : c.sqlType = c.type.name := by
  rw [sqlType, h]

end SqlMapping
