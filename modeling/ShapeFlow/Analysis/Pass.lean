import ShapeFlow.Graph.Tensors
import ShapeFlow.Registry
import ShapeFlow.Report.Basic

/-!
Analysis passes. A pass reads a frozen registry, may write what it infers into the graph, and
returns a report or the error at which it stopped. The graph is returned in both cases.
-/

namespace ShapeFlow

/-- Why a pass stopped. -/
inductive PassError where
  | registration (problem : RegistrationError)
  | notFound (problem : OperatorNotFound)
  | graph (problem : GraphError)
  /-- The first diagnostic of a pass that stops at one. -/
  | node (diagnostic : Diagnostic)
deriving DecidableEq

def PassError.message : PassError → String
  | .registration problem => problem.message
  | .notFound problem => problem.message
  | .graph problem => problem.message
  | .node diagnostic => diagnostic.text

/-- What a run over a graph leaves behind: the graph, the notes that inference functions left, and
the answer or error. -/
structure GraphRun (α : Type) where
  graph : Graph
  notes : List String := []
  result : Except PassError α

/-- The stage that a pass belongs to. -/
inductive Stage where
  /-- Nodes are checked against their schemas. -/
  | validation
  /-- Element types and shapes are inferred. -/
  | inference
deriving DecidableEq

/-- Validation comes before inference. -/
def Stage.precedes : Stage → Stage → Bool
  | .inference, .validation => false
  | _, _ => true

/-- A pass of an analysis pipeline. -/
structure Pass where
  name : String
  stage : Stage
  run : FrozenRegistry → Graph → GraphRun PassReport

end ShapeFlow
