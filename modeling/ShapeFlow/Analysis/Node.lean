import ShapeFlow.Analysis.Options
import ShapeFlow.Analysis.Pass

/-!
The analysis of one node. The node is resolved to a schema, checked against it, its operand types
are bound to the schema's type variables, and its inference function is run. The report keeps the
furthest state reached, and the diagnostics say why the node stopped there. Inferred types are only
staged here; committing them writes them into the graph.
-/

namespace ShapeFlow

/-- How far a pass takes each node. -/
inductive Depth where
  /-- Up to the type constraints. -/
  | validate
  /-- Through inference. -/
  | infer
deriving DecidableEq

/-- What the analysis of a node found out. -/
structure NodeAnalysis where
  report : NodeReport
  /-- The types of the outputs, if inference succeeded. -/
  staged : Option (List TensorType) := none
  notes : List String := []

namespace Analysis

/-- The schema in effect for a node, or why there is none. -/
def resolveSchema (registry : FrozenRegistry) (graph : Graph) (node : Node) :
    Except Problem Schema :=
  match graph.opsetVersionFor node with
  | none => .error (.missingOpsetImport (normalizeDomain node.domain))
  | some version => (registry.lookup node.domain node.opType version).mapError .notFound

/-- The arity problems of a node, then its attribute problems. -/
def schemaProblems (schema : Schema) (node : Node) : List Problem :=
  (Check.arity schema.toSignature node).map Problem.arity ++
    (Check.attributes schema.toSignature node.attributes).map Problem.attribute

/-- What the graph knows about the inputs of a node. -/
def inputTypes (graph : Graph) (node : Node) : List (Option TensorType) :=
  node.inputs.map fun name => if name = "" then none else some (graph.typeOf name)

/-- What the graph knows about the outputs of a node. Nothing is known about an absent output. -/
def outputTypes (graph : Graph) (node : Node) : List TensorType :=
  node.outputs.map fun name => if name = "" then {} else graph.typeOf name

/-- Binds the type variables of a schema to the operand types that the graph knows. -/
def bindTypes (schema : Schema) (graph : Graph) (node : Node) :
    Except ConstraintViolation TypeBindings :=
  Check.resolve schema.toSignature
    ((inputTypes graph node).map fun input => input.bind TensorType.elementType)
    ((outputTypes graph node).map TensorType.elementType)

/-- What inference leaves of a node: its state, its staged types if it succeeded, and the problem
if it failed. -/
structure InferenceEnd where
  state : NodeState
  staged : Option (List TensorType) := none
  problem : Option Problem := none
  notes : List String := []

/-- The state of a node whose inference succeeded. -/
def outcomeState : InferenceOutcome → NodeState
  | .inferred => .shapeInferred
  | .deferred => .inferenceSkipped

/-- Runs the inference function of a schema and checks the element types that it staged. -/
def inferOutputs (schema : Schema) (bindings : TypeBindings) (graph : Graph) (node : Node) :
    InferenceEnd :=
  match schema.inference with
  | none => { state := .noInferenceFunction }
  | some function =>
    let run := function.program.run {
      node
      signature := schema.toSignature
      bindings
      inputs := inputTypes graph node
      outputs := outputTypes graph node }
    match run.result with
    | .error failure =>
      { state := .inferenceFailed, problem := some (.inference failure), notes := run.notes }
    | .ok outcome =>
      let staged := run.context.outputs
      match (Check.outputTypes schema.toSignature bindings
          (staged.map TensorType.elementType)).violation with
      | some violation =>
        { state := .inferenceFailed, problem := some (.constraint violation), notes := run.notes }
      | none => { state := outcomeState outcome, staged := some staged, notes := run.notes }

/-- The report of the node at an index. -/
def nodeReport (index : Nat) (node : Node) (op : Option OperatorId) (state : NodeState)
    (problems : List Problem) : NodeReport where
  node := index
  op
  state
  diagnostics := problems.map fun problem => ⟨NodeRef.ofNode index node, op, problem⟩

/-- Analyzes a node against the schema that covers it. -/
def analyzeResolved (schema : Schema) (depth : Depth) (graph : Graph) (index : Nat)
    (node : Node) : NodeAnalysis :=
  let report := nodeReport index node (some schema.id)
  match schemaProblems schema node with
  | problem :: others => { report := report .schemaResolved (problem :: others) }
  | [] =>
    match bindTypes schema graph node with
    | .error violation => { report := report .attributesValidated [.constraint violation] }
    | .ok bindings =>
      match depth with
      | .validate => { report := report .typesConstrained [] }
      | .infer =>
        let reached := inferOutputs schema bindings graph node
        { report := report reached.state reached.problem.toList
          staged := reached.staged
          notes := reached.notes }

/-- Analyzes the node at an index. -/
def analyzeNode (registry : FrozenRegistry) (options : AnalysisOptions) (depth : Depth)
    (graph : Graph) (index : Nat) (node : Node) : NodeAnalysis :=
  match resolveSchema registry graph node with
  | .ok schema => analyzeResolved schema depth graph index node
  | .error problem =>
    match options.missingSchema with
    | .error => { report := nodeReport index node none .unresolved [problem] }
    | .skip => { report := nodeReport index node none .unresolved [] }

/-- Writes types under names, adding descriptors that are missing. Empty names are passed over. A
name whose id is invalid ends the writing. -/
def commit (graph : Graph) : List (String × TensorType) → Graph × Except GraphError Unit
  | [] => (graph, .ok ())
  | (name, type) :: rest =>
    if name = "" then commit graph rest
    else
      let (ensured, id) := graph.ensureTensor name
      match ensured.setType id type with
      | .ok written => commit written rest
      | .error problem => (ensured, .error problem)

/-- Commits the staged types of a node, if there are any. -/
def commitStaged (graph : Graph) (node : Node) :
    Option (List TensorType) → Graph × Except GraphError Unit
  | none => (graph, .ok ())
  | some staged => commit graph (node.outputs.zip staged)

/-- Stops a pass that is to stop at the first diagnostic. -/
def enforce (options : AnalysisOptions) (report : NodeReport) : Except PassError Unit :=
  match options.errorPolicy, report.diagnostics with
  | .failFast, diagnostic :: _ => .error (.node diagnostic)
  | _, _ => .ok ()

end Analysis

end ShapeFlow
