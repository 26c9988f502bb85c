import ShapeFlow.Analysis.ShapeInference
import ShapeFlow.Analysis.Validation
import ShapeFlow.Proofs.Analysis.FailFast
import ShapeFlow.Proofs.Inference.Spelling

/-!
The passes and the spelling of domains. Bringing every node of a graph to the normalized spelling
before a pass is the same as bringing the nodes of the final graph and the node references of the
report to it afterwards. Nothing else of a pass depends on the spelling.
-/

namespace ShapeFlow

def NodeRef.normalized (node : NodeRef) : NodeRef :=
  { node with domain := normalizeDomain node.domain }

def Diagnostic.normalized (diagnostic : Diagnostic) : Diagnostic :=
  { diagnostic with node := diagnostic.node.normalized }

def NodeReport.normalized (report : NodeReport) : NodeReport :=
  { report with diagnostics := report.diagnostics.map Diagnostic.normalized }

def PassReport.normalized (report : PassReport) : PassReport :=
  { report with nodes := report.nodes.map NodeReport.normalized }

def PassError.normalized : PassError → PassError
  | .node diagnostic => .node diagnostic.normalized
  | problem => problem

/-- The answer or error of a pass with all node references in the normalized spelling. -/
def normalizedResult (result : Except PassError PassReport) : Except PassError PassReport :=
  (result.map PassReport.normalized).mapError PassError.normalized

def GraphRun.spelled (scope : SpellingScope) (run : GraphRun PassReport) : GraphRun PassReport where
  graph := run.graph.spelled scope
  notes := run.notes
  result := normalizedResult run.result

theorem Registry.lookup_normalizeDomain (registry : Registry) (domain name : String)
    (version : Int) :
    registry.lookup (normalizeDomain domain) name version =
      registry.lookup domain name version := by
  simp only [lookup, versions, normalizeDomain_normalizeDomain]

theorem Registry.contains_normalizeDomain (registry : Registry) (domain name : String) :
    registry.contains (normalizeDomain domain) name = registry.contains domain name := by
  simp only [contains, versions, normalizeDomain_normalizeDomain]

namespace GraphOf

variable (scope : SpellingScope)

theorem opsetVersionFor_spelled (graph : Graph) (node : Node) :
    graph.opsetVersionFor (node.spelled scope) = graph.opsetVersionFor node := by
  simp only [opsetVersionFor, NodeOf.spelled, normalizeDomain_normalizeDomain]

theorem checkOrder_spelled (available : List String) (nodes : List Node) :
    checkOrder available (nodes.map (NodeOf.spelled scope)) = checkOrder available nodes := by
  induction nodes generalizing available with
  | nil => rfl
  | cons node rest ih =>
    simp only [List.map_cons, checkOrder, ih, NodeOf.spelled]
    rfl

theorem validate_spelled (graph : Graph) : (graph.spelled scope).validate = graph.validate := by
  simp only [spelled, validate, withNodes, checkOrder_spelled]

end GraphOf

variable {scope : SpellingScope} {registry : FrozenRegistry}

namespace Analysis

variable {schema : Schema}

theorem resolveSchema_spelled (registry : FrozenRegistry) (graph : Graph) (node : Node) :
    resolveSchema registry graph (node.spelled scope) = resolveSchema registry graph node := by
  unfold resolveSchema
  rw [GraphOf.opsetVersionFor_spelled]
  cases graph.opsetVersionFor node with
  | none => simp only [NodeOf.spelled, normalizeDomain_normalizeDomain]
  | some version =>
    rw [NodeOf.spelled]
    exact congrArg (Except.mapError Problem.notFound)
      (registry.registry.lookup_normalizeDomain node.domain node.opType version)

theorem nodeReport_spelled (index : Nat) (node : Node) (op : Option OperatorId)
    (state : NodeState) (problems : List Problem) :
    nodeReport index (node.spelled scope) op state problems =
      (nodeReport index node op state problems).normalized := by
  simp [nodeReport, NodeReport.normalized, Diagnostic.normalized, NodeRef.normalized,
    NodeRef.ofNode, NodeOf.spelled]

theorem schemaProblems_spelled (schema : Schema) (node : Node) :
    schemaProblems schema (node.spelled scope) = schemaProblems schema node := by
  simp only [schemaProblems, Check.arity, NodeOf.spelled, Check.attributes_spelled]

theorem inferOutputs_spelled
    (ignores : ∀ function ∈ schema.inference, function.IgnoresSpelling scope)
    (bindings : TypeBindings) (graph : Graph) (node : Node) :
    inferOutputs schema bindings graph (node.spelled scope) =
      inferOutputs schema bindings graph node := by
  cases declared : schema.inference with
  | none => simp only [inferOutputs, declared]
  | some function =>
    have spelled := ignores function declared (nodeContext schema bindings graph node)
    have same : function.program.run (nodeContext schema bindings graph (node.spelled scope)) =
        (function.program.run (nodeContext schema bindings graph node)).spelled scope := spelled
    simp only [nodeContext] at same
    simp only [inferOutputs, declared, same]
    rfl

theorem analyzeNode_spelled
    (ignores : registry.EveryFunction (InferenceFunction.IgnoresSpelling scope))
    (options : AnalysisOptions) (depth : Depth) (graph : Graph) (index : Nat) (node : Node) :
    analyzeNode registry options depth graph index (node.spelled scope) =
      { analyzeNode registry options depth graph index node with
        report := (analyzeNode registry options depth graph index node).report.normalized } := by
  unfold analyzeNode
  rw [resolveSchema_spelled]
  cases resolved : resolveSchema registry graph node with
  | error problem =>
    cases options.missingSchema <;> simp only [nodeReport_spelled]
  | ok schema =>
    obtain ⟨_, _, found⟩ := resolveSchema_eq_ok_iff.mp resolved
    have same (bindings : TypeBindings) := inferOutputs_spelled
      (fun function declared => ignores.of_lookup found declared) bindings graph node
    have bound : bindTypes schema graph (node.spelled scope) = bindTypes schema graph node := rfl
    simp only [analyzeResolved, schemaProblems_spelled, bound, same, nodeReport_spelled]
    cases schemaProblems schema node with
    | cons problem others => rfl
    | nil =>
      cases bindTypes schema graph node with
      | error violation => rfl
      | ok bindings => cases depth <;> rfl

theorem enforce_normalized (options : AnalysisOptions) (report : NodeReport) :
    enforce options report.normalized =
      (enforce options report).mapError PassError.normalized := by
  unfold enforce
  cases options.errorPolicy with
  | collectAll => rfl
  | failFast => cases listed : report.diagnostics <;> simp [NodeReport.normalized, listed,
      Except.mapError, PassError.normalized]

end Analysis

namespace ShapeInference

/-- A pass over nodes in the normalized spelling is the pass over the nodes themselves, with the
node references of its answer in the normalized spelling. -/
theorem inferNodes_spelled
    (ignores : registry.EveryFunction (InferenceFunction.IgnoresSpelling scope))
    (options : AnalysisOptions) (index : Nat) (nodes : List Node) (graph : Graph) :
    inferNodes registry options index (nodes.map (NodeOf.spelled scope)) graph =
      { inferNodes registry options index nodes graph with
        result := ((inferNodes registry options index nodes graph).result.map
          (List.map NodeReport.normalized)).mapError PassError.normalized } := by
  induction nodes generalizing index graph with
  | nil => rfl
  | cons node rest ih =>
    have prepared : ensureOutputs graph (node.spelled scope) = ensureOutputs graph node := rfl
    have committed (graph : Graph) (staged : Option (List TensorType)) :
        Analysis.commitStaged graph (node.spelled scope) staged =
          Analysis.commitStaged graph node staged := by cases staged <;> rfl
    simp only [List.map_cons, inferNodes, prepared, committed,
      Analysis.analyzeNode_spelled ignores, Analysis.enforce_normalized, ih]
    generalize Analysis.analyzeNode registry options .infer (ensureOutputs graph node) index node =
      analysis
    generalize Analysis.commitStaged (ensureOutputs graph node) node analysis.staged = ended
    obtain ⟨written, result⟩ := ended
    cases result with
    | error problem => rfl
    | ok _ =>
      cases Analysis.enforce options analysis.report with
      | error problem => rfl
      | ok _ =>
        simp only
        cases (inferNodes registry options (index + 1) rest written).result <;> rfl

theorem opsetImports_run (options : AnalysisOptions) (registry : FrozenRegistry) (graph : Graph) :
    (run options registry graph).graph.opsetImports = graph.opsetImports :=
  (upheld_opsetImports _).run rfl options registry

theorem run_spelled (ignores : registry.EveryFunction (InferenceFunction.IgnoresSpelling scope))
    (options : AnalysisOptions) (graph : Graph) :
    run options registry (graph.spelled scope) = (run options registry graph).spelled scope := by
  unfold run
  rw [GraphOf.validate_spelled]
  cases graph.validate with
  | error problem => rfl
  | ok _ =>
    have kept := nodes_inferNodes registry options 0 graph.nodes graph
    have passed : inferNodes registry options 0 (graph.spelled scope).nodes (graph.spelled scope) =
        { inferNodes registry options 0 graph.nodes graph with
          graph := (inferNodes registry options 0 graph.nodes graph).graph.spelled scope
          result := ((inferNodes registry options 0 graph.nodes graph).result.map
            (List.map NodeReport.normalized)).mapError PassError.normalized } := by
      rw [GraphOf.spelled, inferNodes_withNodes, GraphOf.spelled, kept]
      exact congrArg (fun answer : GraphRun (List NodeReport) => { answer with
        graph := answer.graph.withNodes (graph.nodes.map (NodeOf.spelled scope)) })
        (inferNodes_spelled ignores options 0 graph.nodes graph)
    simp only [passed]
    cases (inferNodes registry options 0 graph.nodes graph).result <;>
      simp [GraphRun.spelled, normalizedResult, Except.map, Except.mapError,
        PassReport.normalized]

end ShapeInference

namespace Validation

theorem checkNodes_spelled
    (ignores : registry.EveryFunction (InferenceFunction.IgnoresSpelling scope))
    (options : AnalysisOptions) (index : Nat) (nodes : List Node) (graph : Graph) :
    checkNodes registry options graph index (nodes.map (NodeOf.spelled scope)) =
      ((checkNodes registry options graph index nodes).map
        (List.map NodeReport.normalized)).mapError PassError.normalized := by
  induction nodes generalizing index with
  | nil => rfl
  | cons node rest ih =>
    simp only [List.map_cons, checkNodes, Analysis.analyzeNode_spelled ignores,
      Analysis.enforce_normalized, ih]
    cases Analysis.enforce options
        (Analysis.analyzeNode registry options .validate graph index node).report with
    | error problem => rfl
    | ok _ => cases checkNodes registry options graph (index + 1) rest <;> rfl

theorem checkNodes_withNodes (registry : FrozenRegistry) (options : AnalysisOptions)
    (graph : Graph) (others : List Node) (index : Nat) (nodes : List Node) :
    checkNodes registry options (graph.withNodes others) index nodes =
      checkNodes registry options graph index nodes := by
  induction nodes generalizing index with
  | nil => rfl
  | cons node rest ih =>
    have same : Analysis.analyzeNode registry options .validate (graph.withNodes others) index node
        = Analysis.analyzeNode registry options .validate graph index node :=
      Analysis.analyzeNode_congr ⟨rfl, rfl, rfl⟩
    rw [checkNodes, checkNodes, same, ih]

theorem check_spelled (ignores : registry.EveryFunction (InferenceFunction.IgnoresSpelling scope))
    (options : AnalysisOptions) (graph : Graph) :
    check options registry (graph.spelled scope) =
      normalizedResult (check options registry graph) := by
  unfold check
  rw [GraphOf.validate_spelled, GraphOf.spelled, checkNodes_withNodes]
  cases graph.validate with
  | error problem => rfl
  | ok _ =>
    have passed := checkNodes_spelled ignores options 0 graph.nodes graph
    simp only [GraphOf.withNodes, passed]
    cases checkNodes registry options graph 0 graph.nodes <;> rfl

end Validation

end ShapeFlow
