import ShapeFlow.Schema.Signature

/-!
Binding of type variables to element types. The first operand of known type under a variable binds
it, and every later operand under the same variable must carry that type. Operands of unknown type
bind nothing and violate nothing.
-/

namespace ShapeFlow

/-- The element types that type variables stand for at one node. -/
abbrev TypeBindings := NameMap ElementType

/-- How an operand's element type disagrees with its slot. -/
inductive ConstraintViolation where
  /-- The variable is bound to another type. -/
  | conflict (typeVariable : String) (bound observed : ElementType) (slot : String)
  /-- The variable may not stand for the type. -/
  | disallowed (typeVariable : String) (observed : ElementType) (slot : String)
  /-- The slot has a fixed type. -/
  | fixedType (expected observed : ElementType) (slot : String)
deriving DecidableEq

def ConstraintViolation.message : ConstraintViolation → String
  | .conflict typeVariable bound observed slot =>
    s!"type variable '{typeVariable}' is bound to {bound.name} but {slot} has {observed.name}"
  | .disallowed typeVariable observed slot =>
    s!"{slot} has {observed.name}, which type variable '{typeVariable}' does not allow"
  | .fixedType expected observed slot =>
    s!"{slot} must be {expected.name}, got {observed.name}"

/-- The bindings after a row of operands, and the violation at which the row ended. What was bound
before the violation stays bound. -/
structure Observation where
  bindings : TypeBindings
  violation : Option ConstraintViolation := none

namespace Check

/-- How messages refer to an operand's slot. -/
def slotText (side : Side) (index : Nat) (slot : Slot) : String :=
  s!"{side.text} {index} ('{slot.name}')"

/-- Accounts for one operand of known type. An operand without a slot is left to the arity
check. -/
def observe (signature : Signature) (side : Side) (index : Nat) (type : ElementType)
    (bindings : TypeBindings) : Except ConstraintViolation TypeBindings :=
  match signature.slotAt? side index with
  | none => .ok bindings
  | some slot =>
    match slot.type with
    | .fixed expected =>
      if type = expected then .ok bindings
      else .error (.fixedType expected type (slotText side index slot))
    | .typeVariable name =>
      if signature.allows name type then
        match bindings.get? name with
        | none => .ok (bindings.insert name type)
        | some bound =>
          if bound = type then .ok bindings
          else .error (.conflict name bound type (slotText side index slot))
      else .error (.disallowed name type (slotText side index slot))

/-- Accounts for a row of operands, the first having the given index. The row ends at the first
violation. -/
def observeAll (signature : Signature) (side : Side) :
    Nat → List (Option ElementType) → TypeBindings → Observation
  | _, [], bindings => { bindings }
  | index, none :: rest, bindings => observeAll signature side (index + 1) rest bindings
  | index, some type :: rest, bindings =>
    match observe signature side index type bindings with
    | .error violation => { bindings, violation }
    | .ok extended => observeAll signature side (index + 1) rest extended

/-- Accounts for output types on top of existing bindings. -/
def outputTypes (signature : Signature) (bindings : TypeBindings)
    (outputs : List (Option ElementType)) : Observation :=
  observeAll signature .output 0 outputs bindings

/-- Binds the type variables from the input types and then the output types. -/
def resolve (signature : Signature) (inputs outputs : List (Option ElementType)) :
    Except ConstraintViolation TypeBindings :=
  let afterInputs := observeAll signature .input 0 inputs .empty
  match afterInputs.violation with
  | some violation => .error violation
  | none =>
    let afterOutputs := outputTypes signature afterInputs.bindings outputs
    match afterOutputs.violation with
    | some violation => .error violation
    | none => .ok afterOutputs.bindings

end Check

end ShapeFlow
