import ShapeFlow.Attribute.Value
import ShapeFlow.Operator

/-!
Signatures of operator versions: the attributes a node may carry, the slots its operands fill, and
the type variables that tie the element types of slots together.
-/

namespace ShapeFlow

/-- Whether an attribute must be present, and what stands in for it when it is absent. -/
inductive Requirement where
  | required
  | optional
  | defaultsTo (value : AttributeValue)

/-- A declared attribute. -/
structure AttributeSpec where
  name : String
  kind : AttributeKind
  requirement : Requirement
  doc : String := ""

namespace AttributeSpec

def isRequired (spec : AttributeSpec) : Bool :=
  match spec.requirement with
  | .required => true
  | _ => false

/-- The declared default. -/
def default? (spec : AttributeSpec) : Option AttributeValue :=
  match spec.requirement with
  | .defaultsTo value => some value
  | _ => none

end AttributeSpec

/-- How many operands a slot takes. -/
inductive SlotArity where
  /-- Exactly one operand. -/
  | single
  /-- One operand or none. -/
  | optional
  /-- Any number of operands. Only the last slot may be variadic. -/
  | variadic
deriving DecidableEq

namespace SlotArity

def text : SlotArity → String
  | single => "single"
  | optional => "optional"
  | variadic => "variadic"

/-- The arity that a text names. -/
def ofText? (text : String) : Option SlotArity :=
  [single, optional, variadic].find? (fun arity => arity.text == text)

theorem ofText?_text (arity : SlotArity) : ofText? arity.text = some arity := by
  cases arity <;> decide

end SlotArity

/-- What the element type of a slot's operands is checked against. -/
inductive SlotType where
  /-- The type shared by all slots under the same variable. -/
  | typeVariable (name : String)
  /-- A type written into the declaration. -/
  | fixed (type : ElementType)
deriving DecidableEq

def SlotType.text : SlotType → String
  | .typeVariable name => name
  | .fixed type => type.typeString

def SlotType.isFixed : SlotType → Bool
  | .typeVariable _ => false
  | .fixed _ => true

/-- A formal input or output. -/
structure Slot where
  name : String
  type : SlotType
  arity : SlotArity
  doc : String := ""
deriving DecidableEq

/-- A type variable and the element types it may stand for. -/
structure TypeConstraint where
  typeVariable : String
  allowed : List ElementType
  doc : String := ""
deriving DecidableEq

def TypeConstraint.allows (constraint : TypeConstraint) (type : ElementType) : Bool :=
  constraint.allowed.contains type

/-- The maturity of an operator. -/
inductive SupportLevel where
  | common
  | experimental
deriving DecidableEq

namespace SupportLevel

def text : SupportLevel → String
  | common => "common"
  | experimental => "experimental"

/-- The support level that a text names. -/
def ofText? (text : String) : Option SupportLevel :=
  [common, experimental].find? (fun level => level.text == text)

theorem ofText?_text (level : SupportLevel) : ofText? level.text = some level := by
  cases level <;> decide

end SupportLevel

/-- Whether attributes that are not declared are problems. -/
inductive Permissiveness where
  | strict
  | allowUnchecked
deriving DecidableEq

/-- The two sides of a node on which operands stand. -/
inductive Side where
  | input
  | output
deriving DecidableEq

def Side.text : Side → String
  | .input => "input"
  | .output => "output"

namespace Slot

/-- The slot of the operand at an index. Operands past the last slot belong to it when it is
variadic. -/
def at? (slots : List Slot) (index : Nat) : Option Slot :=
  slots[index]?.or (slots.getLast?.filter fun slot => slot.arity == .variadic)

/-- The least operand count: every slot up to the last single one needs an operand, if only an
empty name. -/
def minCount : List Slot → Nat
  | [] => 0
  | slot :: rest =>
    match minCount rest with
    | 0 => if slot.arity = .single then 1 else 0
    | later + 1 => later + 2

/-- The greatest operand count, unless the last slot is variadic. -/
def maxCount? (slots : List Slot) : Option Nat :=
  match slots.getLast? with
  | some last => if last.arity = .variadic then none else some slots.length
  | none => some 0

end Slot

/-- All that is declared of one operator version, inference apart. -/
structure Signature where
  id : OperatorId
  doc : String := ""
  attributes : List AttributeSpec := []
  inputs : List Slot := []
  outputs : List Slot := []
  constraints : List TypeConstraint := []
  support : SupportLevel := .common
  permissiveness : Permissiveness := .strict

namespace Signature

/-- The declaration of a named attribute. -/
def attribute? (signature : Signature) (name : String) : Option AttributeSpec :=
  signature.attributes.find? fun spec => spec.name == name

/-- The constraint of a type variable. -/
def constraint? (signature : Signature) (typeVariable : String) : Option TypeConstraint :=
  signature.constraints.find? fun constraint => constraint.typeVariable == typeVariable

/-- Whether a type variable is declared and may stand for a type. -/
def allows (signature : Signature) (typeVariable : String) (type : ElementType) : Bool :=
  match signature.constraint? typeVariable with
  | some constraint => constraint.allows type
  | none => false

def slots (signature : Signature) : Side → List Slot
  | .input => signature.inputs
  | .output => signature.outputs

/-- The slot of the operand at an index of one side. -/
def slotAt? (signature : Signature) (side : Side) (index : Nat) : Option Slot :=
  Slot.at? (signature.slots side) index

end Signature

end ShapeFlow
