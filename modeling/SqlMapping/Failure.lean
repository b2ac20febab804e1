import SqlMapping.Column.Basic

/-!
# Failures

What can be wrong with a declared entity. Each cause has a stable code, a wording, and a context
of named values; the entity stands in front of the wording when it is known.
-/

namespace SqlMapping

open SqlMapping.Number SqlMapping.Shape SqlMapping.Text

/-- The stable codes of failures. -/
inductive FailureCode where
  | general | configuration | missingColumnType | sizeExceeded | noPrimaryKey
  | multiplePrimaryKeys | invalidElement | untypedDecode
deriving DecidableEq

/-- The spelling of a code in reports. -/
def FailureCode.name : FailureCode → String
  | .general => "ENTITYMAP_ERROR"
  | .configuration => "CONFIGURATION_ERROR"
  | .missingColumnType => "MISSING_COLUMN_TYPE"
  | .sizeExceeded => "SIZE_EXCEEDED"
  | .noPrimaryKey => "NO_PRIMARY_KEY"
  | .multiplePrimaryKeys => "MULTIPLE_PRIMARY_KEYS"
  | .invalidElement => "INVALID_ELEMENT"
  | .untypedDecode => "OPAQUE_DECODE"

/-- Why an element of a declaration is not of the kind required. -/
inductive ElementFault where
  /-- The name of the entity is blank. -/
  | blankEntity
  /-- An item of the declaration list is not a mapping. -/
  | entityNotMapping (index : Nat) (typeName : String)
  /-- An item of the declaration list is not a valid declaration. -/
  | malformedEntity (index : Nat) (report : ShapeError)
  /-- An item of the field list is not a mapping. -/
  | fieldNotMapping (index : Nat) (typeName : String)
  /-- An item of the field list is not a valid declaration. -/
  | malformedField (index : Nat) (report : ShapeError)
  /-- Two fields have the same name. -/
  | repeatedField (field : String)
  /-- Two queries have the same name. -/
  | repeatedQuery (query : String)
  /-- Two queries have the same accessor. -/
  | sharedAccessor (first second accessor : String)
  /-- The name of a query is not an identifier. -/
  | badQueryName (query : String)
  /-- The accessor of a query is one that every entity has. -/
  | takenAccessor (query accessor : String)
  /-- A query has no text. -/
  | emptyQuery (query : String)
  /-- The name of a query parameter is not an identifier. -/
  | badParameterName (query parameter : String)
  /-- Two parameters of a query have the same name. -/
  | repeatedParameter (query parameter : String)
deriving DecidableEq

namespace ElementFault

/-- The wording of a fault. -/
def message : ElementFault → String
  | .blankEntity => "Entity name must be a non-empty string."
  | .entityNotMapping index type => s!"Entity #{index} must be a mapping, got {type}."
  | .malformedEntity index report =>
    s!"Entity #{index} is not a valid declaration: {report.summary}"
  | .fieldNotMapping index type => s!"Field #{index} must be a field declaration, got {type}."
  | .malformedField index report =>
    s!"Field #{index} is not a valid field declaration: {report.summary}"
  | .repeatedField field => s!"Field '{field}' is declared more than once."
  | .repeatedQuery query => s!"Query '{query}' is declared more than once."
  | .sharedAccessor first second accessor =>
    s!"Queries '{first}' and '{second}' share the accessor name '{accessor}'."
  | .badQueryName query => s!"Query name '{query}' is not a valid identifier."
  | .takenAccessor query accessor =>
    s!"Query name '{query}' clashes with the accessor method '{accessor}'."
  | .emptyQuery query => s!"Query '{query}' has no SQL text."
  | .badParameterName query parameter =>
    s!"Query '{query}' parameter '{parameter}' is not a valid identifier."
  | .repeatedParameter query parameter =>
    s!"Query '{query}' declares parameter '{parameter}' twice."

/-- The named values of a fault. -/
def context : ElementFault → List (String × Value)
  | .blankEntity => []
  | .entityNotMapping index _ | .malformedEntity index _ | .fieldNotMapping index _
  | .malformedField index _ => [("index", .int (Int.ofNat index))]
  | .repeatedField field => [("field", .text field)]
  | .repeatedQuery query | .sharedAccessor _ query _ | .badQueryName query
  | .takenAccessor query _ | .emptyQuery query => [("query", .text query)]
  | .badParameterName query parameter | .repeatedParameter query parameter =>
    [("query", .text query), ("param", .text parameter)]

/-- The report on the data that could not be read, if that is the fault. -/
def report? : ElementFault → Option ShapeError
  | .malformedEntity _ report | .malformedField _ report => some report
  | _ => none

end ElementFault

/-- Why an entity cannot be mapped. -/
inductive MappingFault where
  /-- A cause given by its code, its wording and its context. -/
  | stated (code : FailureCode) (message : String) (context : List (String × Value))
  /-- A field has no column type. -/
  | missingColumnType (field : String)
  /-- A field asks for a size that its type does not have. -/
  | sizeExceeded (field : String) (requested : Int) (maximum : Int)
  /-- No field is flagged as primary key. -/
  | noPrimaryKey (entity : String)
  /-- Several fields are flagged as primary key. -/
  | multiplePrimaryKeys (fields : List String)
  /-- A column has no typed decoder. -/
  | untypedDecode (field sqlType : String)
  /-- An element is not of the kind required. -/
  | element (fault : ElementFault)

namespace MappingFault

/-- The code of a cause. -/
def code : MappingFault → FailureCode
  | .stated code _ _ => code
  | .missingColumnType _ => .missingColumnType
  | .sizeExceeded .. => .sizeExceeded
  | .noPrimaryKey _ => .noPrimaryKey
  | .multiplePrimaryKeys _ => .multiplePrimaryKeys
  | .untypedDecode .. => .untypedDecode
  | .element _ => .invalidElement

/-- The wording of a cause. -/
def message : MappingFault → String
  | .stated _ message _ => message
  | .missingColumnType field => s!"Field '{field}' must declare a column type."
  | .sizeExceeded field requested maximum =>
    s!"Field '{field}' size must be " ++ intText maximum ++ " or lower. Current size (" ++
      intText requested ++ ")."
  | .noPrimaryKey entity => s!"No field flagged as primary key found in {entity}."
  | .multiplePrimaryKeys fields =>
    "Exactly one primary key is allowed, found " ++ natText fields.length ++ ": " ++
      commaList fields ++ "."
  | .untypedDecode field sqlType =>
    s!"Field '{field}' of SQL type {sqlType} has no typed decoder."
  | .element fault => fault.message

/-- The named values of a cause. -/
def context : MappingFault → List (String × Value)
  | .stated _ _ context => context
  | .missingColumnType field => [("field", .text field)]
  | .sizeExceeded field requested maximum =>
    [("field", .text field), ("requested", .int requested), ("max", .int maximum)]
  | .noPrimaryKey _ => []
  | .multiplePrimaryKeys fields => [("fields", .list (fields.map .text))]
  | .untypedDecode field sqlType => [("field", .text field), ("sql_type", .text sqlType)]
  | .element fault => fault.context

end MappingFault

/-- A cause and the entity that it stands against. -/
structure MappingError where
  /-- The entity, if it is known. -/
  entity : Option String
  /-- The cause. -/
  fault : MappingFault

namespace MappingError

/-- The code of an error. -/
def code (e : MappingError) : FailureCode :=
  e.fault.code

/-- The wording of an error, with the entity in front. -/
def message (e : MappingError) : String :=
  match e.entity with
  | some entity => if entity = "" then e.fault.message else s!"[{entity}] {e.fault.message}"
  | none => e.fault.message

end MappingError

/-- Why there is neither a mapping nor an error of a declaration. -/
inductive Escape where
  /-- A number of the declaration has too many digits to be written. -/
  | overlong
  /-- A default that is refused is nested too deeply to be shown. -/
  | tooDeep
  /-- The settled schema is not taken. -/
  | badSchema (report : ShapeError)
deriving DecidableEq

/-- Why a mapping is not made. -/
inductive Failure where
  /-- The declaration cannot be mapped. -/
  | mapping (e : MappingError)
  /-- The mapping breaks off in a way that is no error of the declaration. -/
  | escape (reason : Escape)

/-- A number of the declaration has too many digits to be written. -/
@[match_pattern]
abbrev Failure.overlong : Failure :=
  .escape .overlong

/-- The failure of an entity with an element that is not of the kind required. -/
def Failure.element (entity : Option String) (fault : ElementFault) : Failure :=
  .mapping ⟨entity, .element fault⟩

/-- The failure of an entity with data that cannot be read: a reading that is given up is no error
of the declaration. -/
def Failure.ofReport (entity : Option String) (report : ShapeError)
    (fault : ShapeError → ElementFault) : Failure :=
  if report.isGivenUp then .escape .tooDeep else .element entity (fault report)

end SqlMapping
