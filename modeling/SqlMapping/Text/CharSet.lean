/-!
# Sets of characters by their boundaries

A large set of characters is kept as the increasing list of the code points at which membership
changes. A character belongs to the set exactly when an odd number of boundaries lies at or below
it, so the whole set is plain data and membership is a fold.
-/

namespace SqlMapping.Text

/-- A set of characters, given by the code points at which membership changes. -/
structure CharSet where
  /-- The boundaries in increasing order; the first character of the set is the first of them. -/
  boundaries : List Nat

namespace CharSet

/-- Whether an odd number of the boundaries lies at or below `n`. -/
def oddBelow : List Nat → Nat → Bool
  | [], _ => false
  | b :: rest, n => if b ≤ n then !oddBelow rest n else false

/-- Membership of a character. -/
def contains (s : CharSet) (c : Char) : Bool :=
  oddBelow s.boundaries c.toNat

/-- No character lies in the set without boundaries. -/
@[simp] theorem contains_empty (c : Char) : contains ⟨[]⟩ c = false := rfl

end CharSet

end SqlMapping.Text
