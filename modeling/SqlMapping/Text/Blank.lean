/-!
# Blank characters

Two classes of blanks: the white space of the character standard, and that class with the four
information separators added. Text is stripped with the larger class; numbers are read with the
smaller one.
-/

namespace SqlMapping.Text

/-- White space of the character standard. -/
def isWhiteSpace (c : Char) : Bool :=
  let n := c.toNat
  (0x09 ≤ n && n ≤ 0x0d) || n == 0x20 || n == 0x85 || n == 0xa0 || n == 0x1680 ||
    (0x2000 ≤ n && n ≤ 0x200a) || n == 0x2028 || n == 0x2029 || n == 0x202f || n == 0x205f ||
    n == 0x3000

/-- A blank is white space or one of the separators U+001C to U+001F. -/
def isBlank (c : Char) : Bool :=
  isWhiteSpace c || (0x1c ≤ c.toNat && c.toNat ≤ 0x1f)

/-- A list without its longest initial part of members of `p`, and without its longest final one. -/
def trimWith (p : Char → Bool) (cs : List Char) : List Char :=
  ((cs.dropWhile p).reverse.dropWhile p).reverse

/-- A list without its longest final part of members of `p`. -/
def trimEndWith (p : Char → Bool) (cs : List Char) : List Char :=
  (cs.reverse.dropWhile p).reverse

/-- A text without the blanks around it. -/
def strip (s : String) : String :=
  String.ofList (trimWith isBlank s.toList)

/-- Whether a text holds nothing but blanks. -/
def isBlankText (s : String) : Bool :=
  s.toList.all isBlank

/-- Nothing is left of the empty list. -/
@[simp] theorem trimWith_nil (p : Char → Bool) : trimWith p [] = [] := rfl

/-- A space is a blank. -/
@[simp] theorem isBlank_space : isBlank ' ' = true := by decide

end SqlMapping.Text
