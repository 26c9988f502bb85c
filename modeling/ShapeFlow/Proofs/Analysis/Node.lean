import ShapeFlow.Analysis.Node
import ShapeFlow.Proofs.Except
import ShapeFlow.Proofs.Inference.Run

/-!
The analysis of one node as a function of what the graph says about it. Only the opset version and
the types of the operands are read, and the place of the node shows in its report alone.
-/

namespace ShapeFlow

/-- The report of the same findings at another place. -/
def NodeReport.renumber (report : NodeReport) (index : Nat) : NodeReport :=
  { report with
    node := index
    diagnostics := report.diagnostics.map fun diagnostic =>
      { diagnostic with node := { diagnostic.node with index } } }

@[simp] theorem NodeReport.renumber_renumber (report : NodeReport) (first second : Nat) :
    (report.renumber first).renumber second = report.renumber second := by
  simp [NodeReport.renumber]

/-- A schema is what the registry finds for a node at the opset version the node is read at. -/
def Covers (registry : FrozenRegistry) (graph : Graph) (node : Node) (schema : Schema) : Prop :=
  ∃ version, graph.opsetVersionFor node = some version ∧
    registry.lookup node.domain node.opType version = .ok schema

theorem Covers.congr {registry : FrozenRegistry} {before after : Graph} {node : Node}
    {schema : Schema} (version : after.opsetVersionFor node = before.opsetVersionFor node) :
    Covers registry after node schema ↔ Covers registry before node schema := by
  rw [Covers, Covers, version]

theorem Covers.congr_imports {registry : FrozenRegistry} {before after : Graph} {node : Node}
    {schema : Schema} (imports : after.opsetImports = before.opsetImports) :
    Covers registry after node schema ↔ Covers registry before node schema :=
  Covers.congr (by rw [GraphOf.opsetVersionFor, GraphOf.opsetVersionFor, imports])

namespace Analysis

variable {registry : FrozenRegistry} {options : AnalysisOptions} {depth : Depth}
  {graph left right : Graph} {node : Node} {index place : Nat} {schema : Schema}

/-- Two graphs say the same about a node. -/
structure Agree (left right : Graph) (node : Node) : Prop where
  opsetVersion : left.opsetVersionFor node = right.opsetVersionFor node
  inputs : inputTypes left node = inputTypes right node
  outputs : outputTypes left node = outputTypes right node

theorem inputTypes_congr
    (same : ∀ name ∈ node.inputs, name ≠ "" → left.typeOf name = right.typeOf name) :
    inputTypes left node = inputTypes right node := by
  apply List.map_congr_left
  intro name listed
  by_cases absent : name = ""
  · simp [absent]
  · simp [absent, same name listed absent]

theorem outputTypes_congr
    (same : ∀ name ∈ node.outputs, name ≠ "" → left.typeOf name = right.typeOf name) :
    outputTypes left node = outputTypes right node := by
  apply List.map_congr_left
  intro name listed
  by_cases absent : name = ""
  · simp [absent]
  · simp [absent, same name listed absent]

theorem length_outputTypes (graph : Graph) (node : Node) :
    (outputTypes graph node).length = node.outputs.length := by
  simp [outputTypes]

theorem resolveSchema_congr (version : left.opsetVersionFor node = right.opsetVersionFor node) :
    resolveSchema registry left node = resolveSchema registry right node := by
  simp only [resolveSchema, version]

private theorem analyzeResolved_congr (agree : Agree left right node) :
    analyzeResolved schema depth left index node =
      analyzeResolved schema depth right index node := by
  simp only [analyzeResolved, bindTypes, inferOutputs, agree.inputs, agree.outputs]

/-- The analysis of a node depends on what the graph says about the node alone. -/
theorem analyzeNode_congr (agree : Agree left right node) :
    analyzeNode registry options depth left index node =
      analyzeNode registry options depth right index node := by
  simp only [analyzeNode, resolveSchema_congr agree.opsetVersion, analyzeResolved_congr agree]

theorem nodeReport_renumber (op : Option OperatorId) (state : NodeState)
    (problems : List Problem) :
    (nodeReport index node op state problems).renumber place =
      nodeReport place node op state problems := by
  simp [NodeReport.renumber, nodeReport, NodeRef.ofNode]

/-- At another place the same node is found to be in the same state for the same reasons. -/
theorem analyzeNode_renumber (registry : FrozenRegistry) (options : AnalysisOptions)
    (depth : Depth) (graph : Graph) (node : Node) (index place : Nat) :
    analyzeNode registry options depth graph place node =
      { analyzeNode registry options depth graph index node with
        report := (analyzeNode registry options depth graph index node).report.renumber place } := by
  unfold analyzeNode
  split
  · unfold analyzeResolved
    split
    · simp [nodeReport_renumber]
    · split
      · simp [nodeReport_renumber]
      · cases depth <;> simp [nodeReport_renumber]
  · split <;> simp [nodeReport_renumber]

/-- The states in which a node has staged types. -/
def commits : NodeState → Bool
  | .shapeInferred | .inferenceSkipped => true
  | _ => false

theorem commits_iff {state : NodeState} :
    commits state = true ↔ state = .shapeInferred ∨ state = .inferenceSkipped := by
  cases state <;> simp [commits]

/-- What the inference function of a schema sees of a node. -/
def nodeContext (schema : Schema) (bindings : TypeBindings) (graph : Graph) (node : Node) :
    Context where
  node
  signature := schema.toSignature
  bindings
  inputs := inputTypes graph node
  outputs := outputTypes graph node

theorem resolveSchema_eq_ok_iff :
    resolveSchema registry graph node = .ok schema ↔ Covers registry graph node schema := by
  unfold resolveSchema Covers
  cases graph.opsetVersionFor node with
  | none => simp
  | some version => simp [mapError_eq_ok_iff]

theorem lookup_of_resolveSchema (resolved : resolveSchema registry graph node = .ok schema) :
    ∃ version, registry.lookup node.domain node.opType version = .ok schema := by
  obtain ⟨version, _, found⟩ := resolveSchema_eq_ok_iff.mp resolved
  exact ⟨version, found⟩

end Analysis

end ShapeFlow
