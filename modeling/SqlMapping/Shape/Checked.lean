import SqlMapping.Shape.Problem

/-!
# Checked results

A checked result is either a value or all the problems found on the way to it. Two checked results
combine into one that has the problems of both.
-/

namespace SqlMapping.Shape

/-- A value, or the problems that stand against it. -/
inductive Checked (α : Type) where
  /-- A value without a problem. -/
  | valid (value : α)
  /-- The problems found. -/
  | invalid (problems : List Problem)

namespace Checked

variable {α β : Type}

/-- A result with a single flaw. -/
def flaw (f : Flaw) : Checked α :=
  .invalid [⟨[], f⟩]

/-- Applies a function to the value. -/
def map (f : α → β) : Checked α → Checked β
  | .valid a => .valid (f a)
  | .invalid ps => .invalid ps

/-- Applies a checked function to a checked value and keeps the problems of both. -/
def apply : Checked (α → β) → Checked α → Checked β
  | .valid f, .valid a => .valid (f a)
  | .valid _, .invalid ps => .invalid ps
  | .invalid ps, .valid _ => .invalid ps
  | .invalid ps, .invalid qs => .invalid (ps ++ qs)

instance : Applicative Checked where
  pure := .valid
  seq f x := apply f (x ())

/-- Goes on with the value if there is one. -/
def andThen (x : Checked α) (f : α → Checked β) : Checked β :=
  match x with
  | .valid a => f a
  | .invalid ps => .invalid ps

/-- Whether the reading is given up. -/
def isGivenUp : Checked α → Bool
  | .valid _ => false
  | .invalid ps => ps.any fun p => p.flaw == .tooDeep

/-- The same result seen from one step further out. -/
def within (step : PathStep) : Checked α → Checked α
  | .valid a => .valid a
  | .invalid ps => .invalid (ps.map (Problem.within step))

/-- The value, or the problems as an error about a kind of record. -/
def toExcept (record : String) : Checked α → Except ShapeError α
  | .valid a => .ok a
  | .invalid ps => .error ⟨record, ps⟩

@[simp] theorem map_valid (f : α → β) (a : α) : map f (.valid a) = .valid (f a) := rfl

@[simp] theorem apply_valid (f : α → β) (a : α) : apply (.valid f) (.valid a) = .valid (f a) :=
  rfl

@[simp] theorem andThen_valid (a : α) (f : α → Checked β) : (valid a).andThen f = f a := rfl

end Checked

end SqlMapping.Shape
