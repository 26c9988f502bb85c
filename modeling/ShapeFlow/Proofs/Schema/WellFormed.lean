import Mathlib.Data.List.Forall2
import Mathlib.Data.List.Nodup
import Mathlib.Data.List.Range
import ShapeFlow.Schema.Declaration

/-!
What a declaration must be like to become a schema, and what the schema must be like. A declaration
is well-formed when it keeps every rule; it yields a schema that has every slot at its declared
index and every text resolved. Nothing here depends on how a declaration is checked.
-/

namespace ShapeFlow.Declaration

variable {declaration : Declaration}

/-- The slots declared on one side, in the order in which they were declared. -/
def slots (declaration : Declaration) : Side → List SlotDeclaration
  | .input => declaration.inputs
  | .output => declaration.outputs

def typeVariables (declaration : Declaration) : List String :=
  declaration.constraints.map ConstraintDeclaration.typeVariable

/-- The slots of one side fit together: their indices count up from zero in some order, their type
texts mean something, and nothing follows a variadic slot. -/
structure SlotsFit (typeVariables : List String) (slots : List SlotDeclaration) : Prop where
  indexed : (slots.map SlotDeclaration.index).Perm (List.range slots.length)
  typed : ∀ slot ∈ slots, slot.typeText ∈ typeVariables ∨
    ∃ type, ElementType.parse? slot.typeText = some type
  variadicLast : ∀ slot ∈ slots, slot.arity = .variadic → slot.index + 1 = slots.length

/-- A declaration keeps every rule. -/
structure WellFormed (declaration : Declaration) : Prop where
  named : declaration.name ≠ ""
  versioned : 1 ≤ declaration.sinceVersion
  attributesDistinct : (declaration.attributes.map AttributeSpec.name).Nodup
  defaultsFit : ∀ spec ∈ declaration.attributes, ∀ value,
    spec.default? = some value → value.kind = spec.kind
  variablesDistinct : declaration.typeVariables.Nodup
  allowedNonempty : ∀ constraint ∈ declaration.constraints, constraint.allowed ≠ []
  allowedRead : ∀ constraint ∈ declaration.constraints, ∀ typeText ∈ constraint.allowed,
    ∃ type, ElementType.parse? typeText = some type
  slotsFit : ∀ side, SlotsFit declaration.typeVariables (declaration.slots side)

/-- What a declaration must be like for the report of a broken rule to be true. -/
def Breaks (declaration : Declaration) : SchemaRule → Prop
  | .emptyName => declaration.name = ""
  | .invalidVersion version => declaration.sinceVersion = version ∧ version < 1
  | .duplicateAttribute name => 2 ≤ (declaration.attributes.map AttributeSpec.name).count name
  | .defaultKindMismatch name declared actual =>
    ∃ spec ∈ declaration.attributes, spec.name = name ∧ spec.kind = declared ∧
      actual ≠ declared ∧ ∃ value, spec.default? = some value ∧ value.kind = actual
  | .slotIndex side index =>
    index ∈ (declaration.slots side).map SlotDeclaration.index ∧
      (2 ≤ ((declaration.slots side).map SlotDeclaration.index).count index ∨
        ∃ gap < index, gap ∉ (declaration.slots side).map SlotDeclaration.index)
  | .undefinedTypeVariable side name typeText =>
    ∃ slot ∈ declaration.slots side, slot.name = name ∧ slot.typeText = typeText ∧
      typeText ∉ declaration.typeVariables ∧ ElementType.parse? typeText = none
  | .variadicNotLast side name =>
    ∃ slot ∈ declaration.slots side, slot.name = name ∧ slot.arity = .variadic ∧
      slot.index + 1 ≠ (declaration.slots side).length
  | .duplicateConstraint typeVariable => 2 ≤ declaration.typeVariables.count typeVariable
  | .emptyConstraint typeVariable =>
    ∃ constraint ∈ declaration.constraints, constraint.typeVariable = typeVariable ∧
      constraint.allowed = []
  | .unknownTypeString typeVariable typeText =>
    ∃ constraint ∈ declaration.constraints, constraint.typeVariable = typeVariable ∧
      typeText ∈ constraint.allowed ∧ ElementType.parse? typeText = none

/-- A well-formed declaration breaks none of the rules. -/
theorem WellFormed.not_breaks (formed : declaration.WellFormed) (rule : SchemaRule) :
    ¬ declaration.Breaks rule := by
  cases rule with
  | emptyName => exact formed.named
  | invalidVersion version =>
    rintro ⟨rfl, early⟩
    have := formed.versioned
    omega
  | duplicateAttribute name =>
    intro repeated
    have := List.nodup_iff_count_le_one.mp formed.attributesDistinct name
    rw [Breaks] at repeated
    omega
  | defaultKindMismatch name declared actual =>
    rintro ⟨spec, listed, -, rfl, differs, value, defaulted, rfl⟩
    exact differs (formed.defaultsFit spec listed value defaulted)
  | slotIndex side index =>
    rintro ⟨used, broken⟩
    have indexed := (formed.slotsFit side).indexed
    rcases broken with repeated | ⟨gap, below, unused⟩
    · have := List.nodup_iff_count_le_one.mp (indexed.nodup_iff.mpr List.nodup_range) index
      omega
    · have bounded := List.mem_range.mp (indexed.mem_iff.mp used)
      exact unused (indexed.mem_iff.mpr (List.mem_range.mpr (by omega)))
  | undefinedTypeVariable side name typeText =>
    rintro ⟨slot, declared, -, rfl, undeclared, unread⟩
    rcases (formed.slotsFit side).typed slot declared with among | ⟨type, read⟩
    · exact undeclared among
    · rw [unread] at read
      cases read
  | variadicNotLast side name =>
    rintro ⟨slot, declared, -, variadic, followed⟩
    exact followed ((formed.slotsFit side).variadicLast slot declared variadic)
  | duplicateConstraint typeVariable =>
    intro repeated
    have := List.nodup_iff_count_le_one.mp formed.variablesDistinct typeVariable
    rw [Breaks] at repeated
    omega
  | emptyConstraint typeVariable =>
    rintro ⟨constraint, declared, -, empty⟩
    exact formed.allowedNonempty constraint declared empty
  | unknownTypeString typeVariable typeText =>
    rintro ⟨constraint, declared, -, listed, unread⟩
    obtain ⟨type, read⟩ := formed.allowedRead constraint declared typeText listed
    rw [unread] at read
    cases read

/-- A type variable stands for the declared types, in the order of the first text of each. -/
structure Admits (declared : ConstraintDeclaration) (constraint : TypeConstraint) : Prop where
  typeVariable : constraint.typeVariable = declared.typeVariable
  doc : constraint.doc = declared.doc
  mem_allowed : ∀ type, type ∈ constraint.allowed ↔
    ∃ typeText ∈ declared.allowed, ElementType.parse? typeText = some type
  ordered : constraint.allowed.Pairwise fun earlier later =>
    declared.allowed.findIdx (ElementType.parse? · == some earlier) <
      declared.allowed.findIdx (ElementType.parse? · == some later)

/-- A slot is the declared one. Its type is a variable exactly when the type text names one, even
if the text is a type string as well. -/
structure Resolves (typeVariables : List String) (declared : SlotDeclaration) (slot : Slot) :
    Prop where
  name : slot.name = declared.name
  arity : slot.arity = declared.arity
  doc : slot.doc = declared.doc
  type : (declared.typeText ∈ typeVariables ∧ slot.type = .typeVariable declared.typeText) ∨
    (declared.typeText ∉ typeVariables ∧ ∃ type,
      ElementType.parse? declared.typeText = some type ∧ slot.type = .fixed type)

/-- The schema is the declared one: under the normalized domain, with each slot at its declared
index, and with everything else as it was said. -/
structure Yields (declaration : Declaration) (schema : Schema) : Prop where
  id : schema.id = .normalized declaration.domain declaration.name declaration.sinceVersion
  doc : schema.doc = declaration.doc
  attributes : schema.attributes = declaration.attributes
  constraints : List.Forall₂ Admits declaration.constraints schema.constraints
  slots : ∀ side, ∀ declared ∈ declaration.slots side, ∃ slot,
    (schema.slots side)[declared.index]? = some slot ∧
      Resolves declaration.typeVariables declared slot
  slotCount : ∀ side, (schema.slots side).length = (declaration.slots side).length
  support : schema.support = declaration.support
  permissiveness : schema.permissiveness = declaration.permissiveness
  inference : schema.inference = declaration.inference

end ShapeFlow.Declaration
