import ShapeFlow.Schema.Signature

/-!
The rules that a schema declaration must keep, each named by the way it is broken, and the two ways
in which registration fails.
-/

namespace ShapeFlow

/-- A rule that a declaration breaks. -/
inductive SchemaRule where
  | emptyName
  | invalidVersion (version : Int)
  | duplicateAttribute (name : String)
  | defaultKindMismatch (name : String) (declared actual : AttributeKind)
  | slotIndex (side : Side) (index : Nat)
  | undefinedTypeVariable (side : Side) (slot typeText : String)
  | variadicNotLast (side : Side) (slot : String)
  | duplicateConstraint (typeVariable : String)
  | emptyConstraint (typeVariable : String)
  | unknownTypeString (typeVariable typeText : String)
deriving DecidableEq

def SchemaRule.message : SchemaRule → String
  | .emptyName => "operator name must not be empty"
  | .invalidVersion version => s!"since_version must be at least 1, got {version}"
  | .duplicateAttribute name => s!"attribute '{name}' is declared more than once"
  | .defaultKindMismatch name declared actual =>
    s!"default for attribute '{name}' is {actual.text}, declared {declared.text}"
  | .slotIndex side index =>
    s!"{side.text} indices must be 0..n without gaps or repeats, found index {index}"
  | .undefinedTypeVariable side slot typeText =>
    s!"{side.text} '{slot}' refers to undefined type constraint '{typeText}'"
  | .variadicNotLast side slot => s!"variadic {side.text} '{slot}' must be the last {side.text}"
  | .duplicateConstraint typeVariable =>
    s!"type constraint '{typeVariable}' is declared more than once"
  | .emptyConstraint typeVariable => s!"type constraint '{typeVariable}' allows no types"
  | .unknownTypeString typeVariable typeText =>
    s!"type constraint '{typeVariable}' lists unknown type '{typeText}'"

/-- Why a declaration does not become a registered schema. -/
inductive RegistrationError where
  | definition (id : OperatorId) (rule : SchemaRule)
  | duplicate (id : OperatorId)
deriving DecidableEq

def RegistrationError.message : RegistrationError → String
  | .definition id rule => s!"invalid schema {id.text}: {rule.message}"
  | .duplicate id => s!"schema {id.text} is already registered"

end ShapeFlow
