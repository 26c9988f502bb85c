import ShapeFlow.NameMap
import ShapeFlow.TensorType

/-!
Nodes and graphs over any type of attribute values. Attribute values may themselves hold graphs,
so the two shapes are fixed here before the values are. A graph lists its nodes in execution order
and keeps one descriptor for each tensor it knows by name.
-/

namespace ShapeFlow

/-- One operator application. An empty operand name marks an absent operand. -/
structure NodeOf (α : Type) where
  name : String := ""
  opType : String
  domain : String := ""
  /-- The opset version the node asks for, which overrides the graph's import. -/
  opsetVersion : Option Int := none
  inputs : List String := []
  outputs : List String := []
  attributes : NameMap α := {}

/-- The name that messages use for a node. -/
def NodeOf.label {α : Type} (node : NodeOf α) : String :=
  if node.name = "" then node.opType else node.name

/-- A computation graph with the descriptors of its tensors. -/
structure GraphOf (α : Type) where
  /-- The nodes in execution order. -/
  nodes : List (NodeOf α) := []
  /-- The place of each named tensor in the list of descriptors. -/
  tensors : NameMap Nat := {}
  tensorInfo : List TensorInfo := []
  /-- The names of the tensors that callers provide. -/
  inputs : List String := []
  /-- The names of the tensors that callers receive. -/
  outputs : List String := []
  /-- The names of the constant tensors. -/
  initializers : List String := []
  /-- The imported opset version of each normalized domain. -/
  opsetImports : NameMap Int := {}

/-- The graph without nodes and tensors. -/
def GraphOf.empty {α : Type} : GraphOf α := {}

end ShapeFlow
