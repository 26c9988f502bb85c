import ShapeFlow.Report.Diagnostic

/-!
Reports of analysis passes. A node moves through resolution, attribute checks, type constraints and
inference, and its report keeps the last state that it reached.
-/

namespace ShapeFlow

/-- How far a node got. -/
inductive NodeState where
  /-- No schema was found, or none was sought yet. -/
  | unresolved
  /-- A schema covers the operator and the opset version. -/
  | schemaResolved
  /-- Operand counts and attributes fit the schema. -/
  | attributesValidated
  /-- The known operand types satisfy the type constraints. -/
  | typesConstrained
  /-- The outputs were inferred. -/
  | shapeInferred
  /-- The outputs depend on contents known only when the graph is executed. -/
  | inferenceSkipped
  /-- The schema has no inference function. -/
  | noInferenceFunction
  /-- Inference failed, or what it wrote breaks a type constraint. -/
  | inferenceFailed
deriving DecidableEq

namespace NodeState

/-- Every state, in the order of the stages. -/
def all : List NodeState :=
  [unresolved, schemaResolved, attributesValidated, typesConstrained, shapeInferred,
    inferenceSkipped, noInferenceFunction, inferenceFailed]

def text : NodeState → String
  | unresolved => "unresolved"
  | schemaResolved => "schema_resolved"
  | attributesValidated => "attributes_validated"
  | typesConstrained => "types_constrained"
  | shapeInferred => "shape_inferred"
  | inferenceSkipped => "inference_skipped"
  | noInferenceFunction => "no_inference_function"
  | inferenceFailed => "inference_failed"

/-- Whether nothing further happens to a node in this state. -/
def isTerminal : NodeState → Bool
  | shapeInferred | inferenceSkipped | noInferenceFunction | inferenceFailed => true
  | _ => false

end NodeState

/-- What a pass found out about one node. -/
structure NodeReport where
  node : Nat
  op : Option OperatorId := none
  state : NodeState := .unresolved
  diagnostics : List Diagnostic := []
deriving DecidableEq

/-- What a pass found out about a graph, one entry for each node that it reached. -/
structure PassReport where
  pass : String
  nodes : List NodeReport := []
deriving DecidableEq

namespace PassReport

/-- The first entry about a node. -/
def node? (report : PassReport) (node : Nat) : Option NodeReport :=
  report.nodes.find? fun entry => entry.node == node

/-- The state that a node reached. -/
def state? (report : PassReport) (node : Nat) : Option NodeState :=
  (report.node? node).map NodeReport.state

/-- The diagnostics of all entries in order. -/
def diagnostics (report : PassReport) : List Diagnostic :=
  report.nodes.flatMap NodeReport.diagnostics

/-- Whether no entry has a diagnostic. -/
def isClean (report : PassReport) : Bool :=
  report.diagnostics.isEmpty

/-- The number of entries in a state. -/
def count (report : PassReport) (state : NodeState) : Nat :=
  report.nodes.countP fun entry => entry.state == state

end PassReport

end ShapeFlow
