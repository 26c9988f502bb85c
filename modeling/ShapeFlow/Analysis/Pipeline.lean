import ShapeFlow.Analysis.ShapeInference
import ShapeFlow.Analysis.Validation

/-!
Analysis pipelines. Passes run stage by stage and, within a stage, in the order in which they were
added. Each pass reads the graph that the previous one left, and the first error ends the run.
-/

namespace ShapeFlow

/-- The passes of a pipeline. -/
structure Pipeline where
  passes : List Pass := []

namespace Pipeline

def empty : Pipeline := {}

def add (pipeline : Pipeline) (pass : Pass) : Pipeline :=
  ⟨pipeline.passes ++ [pass]⟩

/-- The pipeline that infers shapes. -/
def inferring (options : AnalysisOptions := {}) : Pipeline :=
  empty.add (.shapeInference options)

/-- The pipeline that only checks nodes against their schemas. -/
def checking (options : AnalysisOptions := {}) : Pipeline :=
  empty.add (.validation options)

def size (pipeline : Pipeline) : Nat :=
  pipeline.passes.length

def isEmpty (pipeline : Pipeline) : Bool :=
  pipeline.passes.isEmpty

/-- Brings the passes into the order in which they run. -/
def arranged (pipeline : Pipeline) : Pipeline :=
  ⟨pipeline.passes.mergeSort fun left right => left.stage.precedes right.stage⟩

/-- Runs passes one after the other. -/
def runPasses (registry : FrozenRegistry) : List Pass → Graph → GraphRun (List PassReport)
  | [], graph => { graph, result := .ok [] }
  | pass :: rest, graph =>
    let first := pass.run registry graph
    match first.result with
    | .error problem => { graph := first.graph, notes := first.notes, result := .error problem }
    | .ok report =>
      let later := runPasses registry rest first.graph
      { graph := later.graph
        notes := first.notes ++ later.notes
        result := later.result.map (report :: ·) }

/-- Runs every pass and returns the arranged pipeline with one report for each pass. -/
def run (pipeline : Pipeline) (registry : FrozenRegistry) (graph : Graph) :
    Pipeline × GraphRun (List PassReport) :=
  let arranged := pipeline.arranged
  (arranged, runPasses registry arranged.passes graph)

end Pipeline

end ShapeFlow
