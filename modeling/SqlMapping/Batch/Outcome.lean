import SqlMapping.Entity.Artifacts

/-!
# Outcomes of declarations

Every declaration of a batch either builds an entity or fails for a reason of its own.
-/

namespace SqlMapping

open SqlMapping.Number SqlMapping.Shape

/-- A declaration of a batch: untyped data, or a declaration that is already read. -/
inductive DeclarationInput where
  /-- Untyped data, and how many levels of a value there is room to show when it is read. -/
  | raw (room : Nat) (v : Value)
  /-- A declaration. -/
  | declared (d : EntityDeclaration)

namespace DeclarationInput

/-- The name that untyped data of that number goes by: the name it declares, or its number. -/
def nameOf (index : Nat) : Value → String
  | .mapping entries =>
    match Value.get? "name" entries with
    | some (.text name) => name
    | _ => "#" ++ natText index
  | _ => "#" ++ natText index

/-- The name that the declaration of that number goes by. -/
def name (index : Nat) : DeclarationInput → String
  | .declared d => d.name
  | .raw _ v => nameOf index v

/-- The declaration of that number. -/
def declaration (index : Nat) : DeclarationInput → Except Failure EntityDeclaration
  | .declared d => .ok d
  | .raw room (.mapping entries) =>
    ((EntityDeclaration.read room (.mapping entries)).toExcept EntityDeclaration.recordName).mapError
      fun report =>
        .ofReport (some (nameOf index (.mapping entries))) report (.malformedEntity index)
  | .raw _ v => .error (.element none (.entityNotMapping index v.typeName))

/-- Builds the declaration of that number. -/
def build (d : DeclarationInput) (index : Nat) (settings : Settings) : Step BuiltEntity := do
  let d ← Run.ofExcept (d.declaration index)
  d.build settings

end DeclarationInput

/-- Why a declaration has built no entity. -/
structure EntityFailure where
  /-- The name that the declaration goes by. -/
  entity : String
  /-- The code of the failure. -/
  code : FailureCode
  /-- The wording of the failure. -/
  message : String
  /-- The report on data that could not be read, if that is the reason. -/
  report : Option ShapeError := none

/-- The failure of the declaration that goes by a name. -/
def MappingError.toFailure (e : MappingError) (name : String) : EntityFailure :=
  { entity := name
    code := e.code
    message := e.message
    report := match e.fault with
      | .element fault => fault.report?
      | _ => none }

/-- What a declaration has come to. -/
inductive Outcome where
  /-- An entity is built. -/
  | built (entity : BuiltEntity)
  /-- The declaration has failed. -/
  | failed (failure : EntityFailure)

/-- Whether a declaration has failed. -/
def Outcome.isFailed : Outcome → Bool
  | .built _ => false
  | .failed _ => true

/-- What the declaration of that number comes to. What escapes is no failure of the declaration: it
stops the run. -/
def DeclarationInput.outcome (d : DeclarationInput) (index : Nat) (settings : Settings) :
    Logged Escape Outcome :=
  let run := d.build index settings
  match run.result with
  | .ok entity => ⟨.ok (.built entity), run.trace⟩
  | .error (.mapping e) =>
    let name := d.name index
    ⟨.ok (.failed (e.toFailure name)),
      run.trace ++ [⟨.error, .generation, s!"Entity {name} skipped: {e.message}"⟩]⟩
  | .error (.escape reason) => ⟨.error reason, run.trace⟩

end SqlMapping
