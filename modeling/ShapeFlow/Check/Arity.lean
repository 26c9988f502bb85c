import ShapeFlow.Schema.Signature

/-!
Operand counts. A side of a node fits its slots when it lists neither too few nor too many
operands and names the operand of every single slot.
-/

namespace ShapeFlow

/-- Why the operands on one side do not fit their slots. -/
inductive ArityError where
  | count (side : Side) (min : Nat) (max : Option Nat) (actual : Nat)
  | missingOperand (side : Side) (slot : String) (index : Nat)
deriving DecidableEq

namespace ArityError

/-- The accepted operand counts in words. -/
def boundsText (min : Nat) : Option Nat → String
  | some max => if max = min then toString min else s!"{min} to {max}"
  | none => s!"at least {min}"

def message : ArityError → String
  | .count side min max actual =>
    s!"expected {boundsText min max} {side.text}s, node has {actual}"
  | .missingOperand side slot index => s!"required {side.text} '{slot}' (index {index}) is absent"

end ArityError

namespace Check

/-- One problem for each single slot whose operand is absent, the first slot having the given
index. -/
def absentOperands (side : Side) : Nat → List Slot → List String → List ArityError
  | index, slot :: slots, operand :: operands =>
    if slot.arity = .single ∧ operand = "" then
      .missingOperand side slot.name index :: absentOperands side (index + 1) slots operands
    else absentOperands side (index + 1) slots operands
  | _, _, _ => []

/-- The problems of one side. A wrong count hides absent operands. -/
def sideArity (side : Side) (slots : List Slot) (operands : List String) : List ArityError :=
  let min := Slot.minCount slots
  let max := Slot.maxCount? slots
  if operands.length < min ∨ max.any (· < operands.length) then
    [.count side min max operands.length]
  else absentOperands side 0 slots operands

/-- The arity problems of a node, its inputs before its outputs. -/
def arity (signature : Signature) (node : Node) : List ArityError :=
  sideArity .input signature.inputs node.inputs ++ sideArity .output signature.outputs node.outputs

end Check

end ShapeFlow
