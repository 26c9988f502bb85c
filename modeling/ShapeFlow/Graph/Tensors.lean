import ShapeFlow.Graph.Basic
import ShapeFlow.Operator

/-!
The tensors of a graph. Descriptors are kept in a list and found by name through their places,
called ids. Adding a tensor under a known name replaces its descriptor and keeps its id.
-/

namespace ShapeFlow

/-- A reference that a graph cannot follow. -/
inductive GraphError where
  /-- No tensor has the name. -/
  | missingTensor (name : String)
  /-- No descriptor has the id. -/
  | invalidTensorId (id : Nat)
  /-- A node reads a tensor that nothing before it provides. -/
  | unavailableInput (nodeName opType input : String)
deriving DecidableEq

def GraphError.message : GraphError → String
  | .missingTensor name => s!"Missing tensor: {name}"
  | .invalidTensorId id => s!"Invalid graph structure: Invalid tensor ID: {id}"
  | .unavailableInput nodeName opType input =>
    s!"Invalid graph structure: Node '{nodeName}' ({opType}) reads tensor '{input}' before " ++
      "any input, initializer or earlier node provides it"

namespace GraphOf

variable {α : Type}

/-- The id of a named tensor. -/
def tensorId (graph : GraphOf α) (name : String) : Except GraphError Nat :=
  match graph.tensors.get? name with
  | some id => .ok id
  | none => .error (.missingTensor name)

/-- The descriptor with an id. -/
def tensor (graph : GraphOf α) (id : Nat) : Except GraphError TensorInfo :=
  match graph.tensorInfo[id]? with
  | some info => .ok info
  | none => .error (.invalidTensorId id)

/-- The descriptor of a named tensor. -/
def tensorNamed (graph : GraphOf α) (name : String) : Except GraphError TensorInfo :=
  (graph.tensorId name).bind graph.tensor

/-- What is known about a named tensor. Nothing is known about a tensor without a descriptor. -/
def typeOf (graph : GraphOf α) (name : String) : TensorType :=
  match graph.tensorNamed name with
  | .ok info => info.type
  | .error _ => {}

/-- Overwrites what is known about the tensor with an id. Its name stays. -/
def setType (graph : GraphOf α) (id : Nat) (type : TensorType) :
    Except GraphError (GraphOf α) :=
  match graph.tensorInfo[id]? with
  | some info => .ok { graph with tensorInfo := graph.tensorInfo.set id { info with type } }
  | none => .error (.invalidTensorId id)

/-- Adds a descriptor and returns its id. -/
def addTensor (graph : GraphOf α) (info : TensorInfo) : GraphOf α × Nat :=
  match graph.tensors.get? info.name with
  | some id => ({ graph with tensorInfo := graph.tensorInfo.set id info }, id)
  | none =>
    let id := graph.tensorInfo.length
    ({ graph with
        tensorInfo := graph.tensorInfo ++ [info]
        tensors := graph.tensors.insert info.name id }, id)

/-- Appends a name unless it is listed already. -/
def listOnce (name : String) (names : List String) : List String :=
  if name ∈ names then names else names ++ [name]

/-- Declares a tensor that callers provide. -/
def addInput (graph : GraphOf α) (info : TensorInfo) : GraphOf α × Nat :=
  let (added, id) := graph.addTensor info
  ({ added with inputs := listOnce info.name added.inputs }, id)

/-- Declares a constant tensor. -/
def addInitializer (graph : GraphOf α) (info : TensorInfo) : GraphOf α × Nat :=
  let (added, id) := graph.addTensor info
  ({ added with initializers := listOnce info.name added.initializers }, id)

/-- The id of a named tensor, after adding a descriptor that knows nothing if there is none. -/
def ensureTensor (graph : GraphOf α) (name : String) : GraphOf α × Nat :=
  match graph.tensors.get? name with
  | some id => (graph, id)
  | none => graph.addTensor { name }

/-- Appends a node and returns its place. -/
def addNode (graph : GraphOf α) (node : NodeOf α) : GraphOf α × Nat :=
  ({ graph with nodes := graph.nodes ++ [node] }, graph.nodes.length)

/-- Inserts a node at a place, or at the end if the place lies beyond it. -/
def insertNode (graph : GraphOf α) (place : Nat) (node : NodeOf α) : GraphOf α :=
  { graph with nodes := graph.nodes.take place ++ node :: graph.nodes.drop place }

/-- Imports an opset version for a domain. -/
def importOpset (graph : GraphOf α) (domain : String) (version : Int) : GraphOf α :=
  { graph with opsetImports := graph.opsetImports.insert (normalizeDomain domain) version }

/-- The opset version a node is read at: its own if it asks for one, else the import of its
domain. -/
def opsetVersionFor (graph : GraphOf α) (node : NodeOf α) : Option Int :=
  node.opsetVersion.or (graph.opsetImports.get? (normalizeDomain node.domain))

end GraphOf

end ShapeFlow
