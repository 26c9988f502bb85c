import ShapeFlow.Analysis.Node
import ShapeFlow.Graph.Availability

/-!
The validation pass. Every node is checked against its schema, and nothing is inferred or written.
-/

namespace ShapeFlow

namespace Validation

/-- Checks the nodes from an index on. -/
def checkNodes (registry : FrozenRegistry) (options : AnalysisOptions) (graph : Graph) :
    Nat → List Node → Except PassError (List NodeReport)
  | _, [] => .ok []
  | index, node :: rest =>
    let report := (Analysis.analyzeNode registry options .validate graph index node).report
    match Analysis.enforce options report with
    | .error problem => .error problem
    | .ok () => (checkNodes registry options graph (index + 1) rest).map (report :: ·)

/-- Checks a valid graph node by node. -/
def check (options : AnalysisOptions) (registry : FrozenRegistry) (graph : Graph) :
    Except PassError PassReport :=
  match graph.validate with
  | .error problem => .error (.graph problem)
  | .ok () => (checkNodes registry options graph 0 graph.nodes).map (⟨"validation", ·⟩)

end Validation

/-- The validation pass with the given options. -/
def Pass.validation (options : AnalysisOptions) : Pass where
  name := "validation"
  stage := .validation
  run registry graph := { graph, result := Validation.check options registry graph }

/-- Checks a graph and collects all diagnostics. -/
def checkGraph (registry : FrozenRegistry) (graph : Graph) : Except PassError PassReport :=
  Validation.check {} registry graph

end ShapeFlow
