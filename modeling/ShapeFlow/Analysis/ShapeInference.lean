import ShapeFlow.Analysis.Node
import ShapeFlow.Graph.Availability

/-!
The shape inference pass. Nodes are analyzed in order, and each sees what its predecessors
committed. A node that fails leaves its outputs as they were declared.
-/

namespace ShapeFlow

namespace ShapeInference

/-- Adds the descriptors of a node's outputs that nobody declared. -/
def ensureOutputs (graph : Graph) (node : Node) : Graph :=
  (node.outputs.filter (· != "")).foldl (fun graph name => (graph.ensureTensor name).1) graph

/-- Infers the nodes from an index on. What a node commits is kept even if the pass stops there. -/
def inferNodes (registry : FrozenRegistry) (options : AnalysisOptions) :
    Nat → List Node → Graph → GraphRun (List NodeReport)
  | _, [], graph => { graph, result := .ok [] }
  | index, node :: rest, graph =>
    let prepared := ensureOutputs graph node
    let analysis := Analysis.analyzeNode registry options .infer prepared index node
    match Analysis.commitStaged prepared node analysis.staged with
    | (committed, .error problem) =>
      { graph := committed, notes := analysis.notes, result := .error (.graph problem) }
    | (committed, .ok ()) =>
      match Analysis.enforce options analysis.report with
      | .error problem =>
        { graph := committed, notes := analysis.notes, result := .error problem }
      | .ok () =>
        let later := inferNodes registry options (index + 1) rest committed
        { graph := later.graph
          notes := analysis.notes ++ later.notes
          result := later.result.map (analysis.report :: ·) }

/-- Infers a valid graph node by node. An invalid graph is left untouched. -/
def run (options : AnalysisOptions) (registry : FrozenRegistry) (graph : Graph) :
    GraphRun PassReport :=
  match graph.validate with
  | .error problem => { graph, result := .error (.graph problem) }
  | .ok () =>
    let inferred := inferNodes registry options 0 graph.nodes graph
    { graph := inferred.graph
      notes := inferred.notes
      result := inferred.result.map (⟨"shape_inference", ·⟩) }

end ShapeInference

/-- The shape inference pass with the given options. -/
def Pass.shapeInference (options : AnalysisOptions) : Pass where
  name := "shape_inference"
  stage := .inference
  run := ShapeInference.run options

/-- Infers the shapes of a graph and collects all diagnostics. -/
def inferShapes (registry : FrozenRegistry) (graph : Graph) : GraphRun PassReport :=
  ShapeInference.run {} registry graph

end ShapeFlow
