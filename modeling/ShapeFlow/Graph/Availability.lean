import ShapeFlow.Graph.Tensors

/-!
Structural validity of a graph. Every listed name has a tensor, and every node reads only what
callers, constants or earlier nodes provide. Descriptors alone provide nothing.
-/

namespace ShapeFlow.GraphOf

variable {α : Type}

/-- The first operand of a node that nothing provides. Absent operands need no provider. -/
def unavailableInput? (available : List String) (node : NodeOf α) : Option String :=
  node.inputs.find? fun input => input != "" && !available.contains input

/-- Walks the nodes in order, adding the outputs of each to what is available. -/
def checkOrder (available : List String) : List (NodeOf α) → Except GraphError Unit
  | [] => .ok ()
  | node :: rest =>
    match unavailableInput? available node with
    | some input => .error (.unavailableInput node.name node.opType input)
    | none => checkOrder (available ++ node.outputs) rest

/-- Checks the listed names first, then the order of the nodes. -/
def validate (graph : GraphOf α) : Except GraphError Unit :=
  match (graph.inputs ++ graph.outputs ++ graph.initializers).find?
      (fun name => !graph.tensors.contains name) with
  | some name => .error (.missingTensor name)
  | none => checkOrder (graph.inputs ++ graph.initializers) graph.nodes

end ShapeFlow.GraphOf
