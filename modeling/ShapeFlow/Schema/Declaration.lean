import ShapeFlow.Inference.Program
import ShapeFlow.Schema.Rule

/-!
Schemas and the declarations they are built from. A declaration only collects what is said of an
operator. Building checks it as a whole and reports the first rule that it breaks, in the order of
name, version, attributes, type variables, inputs and outputs.
-/

namespace ShapeFlow

/-- One version of an operator: its signature and the inference function, if it has one. -/
structure Schema extends Signature where
  inference : Option InferenceFunction := none

/-- A formal input or output as declared. The type text is a type variable or a type string. -/
structure SlotDeclaration where
  index : Nat
  name : String
  typeText : String
  arity : SlotArity := .single
  doc : String := ""
deriving DecidableEq

/-- A type variable as declared, with the type strings of the types it may stand for. -/
structure ConstraintDeclaration where
  typeVariable : String
  allowed : List String
  doc : String := ""
deriving DecidableEq

/-- Everything said of an operator version, in the order in which it was said. -/
structure Declaration where
  name : String
  sinceVersion : Int
  domain : String := ""
  doc : String := ""
  support : SupportLevel := .common
  permissiveness : Permissiveness := .strict
  attributes : List AttributeSpec := []
  inputs : List SlotDeclaration := []
  outputs : List SlotDeclaration := []
  constraints : List ConstraintDeclaration := []
  inference : Option InferenceFunction := none

namespace Declaration

def addAttribute (declaration : Declaration) (spec : AttributeSpec) : Declaration :=
  { declaration with attributes := declaration.attributes ++ [spec] }

def addInput (declaration : Declaration) (slot : SlotDeclaration) : Declaration :=
  { declaration with inputs := declaration.inputs ++ [slot] }

def addOutput (declaration : Declaration) (slot : SlotDeclaration) : Declaration :=
  { declaration with outputs := declaration.outputs ++ [slot] }

def addConstraint (declaration : Declaration) (constraint : ConstraintDeclaration) :
    Declaration :=
  { declaration with constraints := declaration.constraints ++ [constraint] }

/-- The identity that the declared operator version will have. -/
def id (declaration : Declaration) : OperatorId :=
  .normalized declaration.domain declaration.name declaration.sinceVersion

/-- Checks that attribute names are new and that defaults have the declared kind. -/
def checkAttributes (seen : List String) : List AttributeSpec → Except SchemaRule Unit
  | [] => .ok ()
  | spec :: rest =>
    if spec.name ∈ seen then .error (.duplicateAttribute spec.name)
    else
      match spec.default? with
      | some value =>
        if value.kind = spec.kind then checkAttributes (spec.name :: seen) rest
        else .error (.defaultKindMismatch spec.name spec.kind value.kind)
      | none => checkAttributes (spec.name :: seen) rest

/-- Reads the type strings of a type variable. -/
def readAllowed (typeVariable : String) : List String → Except SchemaRule (List ElementType)
  | [] => .ok []
  | typeText :: rest =>
    match ElementType.parse? typeText with
    | none => .error (.unknownTypeString typeVariable typeText)
    | some type => (readAllowed typeVariable rest).map (type :: ·)

/-- Checks that type variables are new and allow something. Repeated types are listed once, where
they first occur. -/
def resolveConstraints (seen : List String) :
    List ConstraintDeclaration → Except SchemaRule (List TypeConstraint)
  | [] => .ok []
  | constraint :: rest =>
    if constraint.typeVariable ∈ seen then .error (.duplicateConstraint constraint.typeVariable)
    else if constraint.allowed = [] then .error (.emptyConstraint constraint.typeVariable)
    else
      match readAllowed constraint.typeVariable constraint.allowed with
      | .error rule => .error rule
      | .ok types =>
        (resolveConstraints (constraint.typeVariable :: seen) rest).map
          (⟨constraint.typeVariable, types.eraseDups, constraint.doc⟩ :: ·)

/-- What a type text means. A declared variable is one even if its name is a type string. -/
def slotType? (constraints : List TypeConstraint) (typeText : String) : Option SlotType :=
  if constraints.any (·.typeVariable == typeText) then some (.typeVariable typeText)
  else (ElementType.parse? typeText).map SlotType.fixed

/-- Resolves slots that are sorted by index, the first being expected at a position. -/
def resolveSlots (side : Side) (constraints : List TypeConstraint) :
    Nat → List SlotDeclaration → Except SchemaRule (List Slot)
  | _, [] => .ok []
  | position, slot :: rest =>
    if slot.index ≠ position then .error (.slotIndex side slot.index)
    else if slot.arity = .variadic ∧ rest ≠ [] then .error (.variadicNotLast side slot.name)
    else
      match slotType? constraints slot.typeText with
      | none => .error (.undefinedTypeVariable side slot.name slot.typeText)
      | some type =>
        (resolveSlots side constraints (position + 1) rest).map
          (⟨slot.name, type, slot.arity, slot.doc⟩ :: ·)

/-- Sorts by index. Slots with one index keep their order. -/
def sortSlots (slots : List SlotDeclaration) : List SlotDeclaration :=
  slots.mergeSort fun left right => decide (left.index ≤ right.index)

/-- The schema that a declaration describes, or the first rule that it breaks. -/
def check (declaration : Declaration) : Except SchemaRule Schema :=
  if declaration.name = "" then .error .emptyName
  else if declaration.sinceVersion < 1 then .error (.invalidVersion declaration.sinceVersion)
  else do
    checkAttributes [] declaration.attributes
    let constraints ← resolveConstraints [] declaration.constraints
    let inputs ← resolveSlots .input constraints 0 (sortSlots declaration.inputs)
    let outputs ← resolveSlots .output constraints 0 (sortSlots declaration.outputs)
    return {
      id := declaration.id
      doc := declaration.doc
      attributes := declaration.attributes
      inputs
      outputs
      constraints
      support := declaration.support
      permissiveness := declaration.permissiveness
      inference := declaration.inference }

/-- The schema that a declaration describes. A failure names the operator version. -/
def build (declaration : Declaration) : Except RegistrationError Schema :=
  declaration.check.mapError (.definition declaration.id)

end Declaration

end ShapeFlow
