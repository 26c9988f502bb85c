import ShapeFlow.Proofs.Analysis.Node

/-!
The courses that the analysis of a node can take. It ends where the schema is missing, where the
node does not fit it, where a type constraint is violated, or, if it is to infer, where inference
ends. Each course is told by what the graph says about the node, and fixes the whole analysis.
-/

namespace ShapeFlow.Analysis

variable {registry : FrozenRegistry} {options : AnalysisOptions} {depth : Depth}
  {graph : Graph} {node : Node} {index : Nat} {schema : Schema} {bindings : TypeBindings}

/-- The problems of a node that no schema covers. -/
def missingProblems (options : AnalysisOptions) (problem : Problem) : List Problem :=
  match options.missingSchema with
  | .error => [problem]
  | .skip => []

/-- A node is resolved, fits its schema, and the types of its operands satisfy the constraints. -/
structure Constrained (registry : FrozenRegistry) (graph : Graph) (node : Node) (schema : Schema)
    (bindings : TypeBindings) : Prop where
  resolved : resolveSchema registry graph node = .ok schema
  conforms : schemaProblems schema node = []
  bound : bindTypes schema graph node = .ok bindings

theorem Constrained.of_agree {seen final : Graph}
    (passed : Constrained registry seen node schema bindings) (agree : Agree final seen node) :
    Constrained registry final node schema bindings where
  resolved := (resolveSchema_congr agree.opsetVersion).trans passed.resolved
  conforms := passed.conforms
  bound := by rw [bindTypes, agree.inputs, agree.outputs, ← bindTypes, passed.bound]

/-- A run of the inference function of a schema at a node. -/
def nodeRun (function : InferenceFunction) (schema : Schema) (bindings : TypeBindings)
    (graph : Graph) (node : Node) : Inference.Run InferenceOutcome :=
  function.program.run (nodeContext schema bindings graph node)

/-- The violation, if any, by the element types that a run leaves staged. -/
def stagedViolation (schema : Schema) (bindings : TypeBindings)
    (run : Inference.Run InferenceOutcome) : Option ConstraintViolation :=
  (Check.outputTypes schema.toSignature bindings
    (run.context.outputs.map TensorType.elementType)).violation

/-- How the analysis of a node goes, and what it amounts to. -/
inductive Course (registry : FrozenRegistry) (options : AnalysisOptions) (graph : Graph)
    (index : Nat) (node : Node) : Depth → NodeAnalysis → Prop where
  | unresolved {depth : Depth} {problem : Problem}
      (missing : resolveSchema registry graph node = .error problem) :
      Course registry options graph index node depth
        { report := nodeReport index node none .unresolved (missingProblems options problem) }
  | unfit {depth : Depth} {schema : Schema} {problem : Problem} {others : List Problem}
      (resolved : resolveSchema registry graph node = .ok schema)
      (found : schemaProblems schema node = problem :: others) :
      Course registry options graph index node depth
        { report := nodeReport index node (some schema.id) .schemaResolved (problem :: others) }
  | violated {depth : Depth} {schema : Schema} {violation : ConstraintViolation}
      (resolved : resolveSchema registry graph node = .ok schema)
      (conforms : schemaProblems schema node = [])
      (violates : bindTypes schema graph node = .error violation) :
      Course registry options graph index node depth
        { report := nodeReport index node (some schema.id) .attributesValidated
            [.constraint violation] }
  /-- Nothing is inferred. -/
  | constrained {schema : Schema} {bindings : TypeBindings}
      (passed : Constrained registry graph node schema bindings) :
      Course registry options graph index node .validate
        { report := nodeReport index node (some schema.id) .typesConstrained [] }
  /-- The schema has no inference function. -/
  | uninferred {schema : Schema} {bindings : TypeBindings}
      (passed : Constrained registry graph node schema bindings)
      (absent : schema.inference = none) :
      Course registry options graph index node .infer
        { report := nodeReport index node (some schema.id) .noInferenceFunction [] }
  /-- The inference function fails. -/
  | failed {schema : Schema} {bindings : TypeBindings} {function : InferenceFunction}
      {failure : InferenceFailure} (passed : Constrained registry graph node schema bindings)
      (declared : schema.inference = some function)
      (ended : (nodeRun function schema bindings graph node).result = .error failure) :
      Course registry options graph index node .infer
        { report := nodeReport index node (some schema.id) .inferenceFailed [.inference failure]
          notes := (nodeRun function schema bindings graph node).notes }
  /-- The inference function ends, but what it staged violates a type constraint. -/
  | miswritten {schema : Schema} {bindings : TypeBindings} {function : InferenceFunction}
      {outcome : InferenceOutcome} {violation : ConstraintViolation}
      (passed : Constrained registry graph node schema bindings)
      (declared : schema.inference = some function)
      (ended : (nodeRun function schema bindings graph node).result = .ok outcome)
      (violates : stagedViolation schema bindings (nodeRun function schema bindings graph node) =
        some violation) :
      Course registry options graph index node .infer
        { report := nodeReport index node (some schema.id) .inferenceFailed [.constraint violation]
          notes := (nodeRun function schema bindings graph node).notes }
  /-- What the inference function staged is accepted. -/
  | inferred {schema : Schema} {bindings : TypeBindings} {function : InferenceFunction}
      {outcome : InferenceOutcome} (passed : Constrained registry graph node schema bindings)
      (declared : schema.inference = some function)
      (ended : (nodeRun function schema bindings graph node).result = .ok outcome)
      (accepted : stagedViolation schema bindings (nodeRun function schema bindings graph node) =
        none) :
      Course registry options graph index node .infer
        { report := nodeReport index node (some schema.id) (outcomeState outcome) []
          staged := some (nodeRun function schema bindings graph node).context.outputs
          notes := (nodeRun function schema bindings graph node).notes }

/-- The analysis of a node takes one of the courses. -/
theorem analyzeNode_course (registry : FrozenRegistry) (options : AnalysisOptions) (depth : Depth)
    (graph : Graph) (index : Nat) (node : Node) :
    Course registry options graph index node depth
      (analyzeNode registry options depth graph index node) := by
  unfold analyzeNode
  cases resolved : resolveSchema registry graph node with
  | error problem =>
    have course : Course registry options graph index node depth _ := .unresolved resolved
    cases policy : options.missingSchema <;> simpa [missingProblems, policy] using course
  | ok schema =>
    simp only [analyzeResolved]
    cases conforms : schemaProblems schema node with
    | cons problem others => exact .unfit resolved conforms
    | nil =>
      cases bound : bindTypes schema graph node with
      | error violation => exact .violated resolved conforms bound
      | ok bindings =>
        have passed : Constrained registry graph node schema bindings := ⟨resolved, conforms, bound⟩
        cases depth with
        | validate => exact .constrained passed
        | infer =>
          cases declared : schema.inference with
          | none => simpa [inferOutputs, declared] using Course.uninferred passed declared
          | some function =>
            simp only [inferOutputs, declared, ← nodeContext.eq_def, ← nodeRun.eq_def]
            cases ended : (nodeRun function schema bindings graph node).result with
            | error failure => exact .failed passed declared ended
            | ok outcome =>
              simp only [← stagedViolation.eq_def]
              cases checked : stagedViolation schema bindings
                  (nodeRun function schema bindings graph node) with
              | some violation => exact .miswritten passed declared ended checked
              | none => exact .inferred passed declared ended checked

theorem Course.analyzeNode_eq {analysis : NodeAnalysis}
    (course : Course registry options graph index node depth analysis) :
    analyzeNode registry options depth graph index node = analysis := by
  cases course with
  | unresolved missing =>
    cases policy : options.missingSchema <;> simp [analyzeNode, missing, missingProblems, policy]
  | unfit resolved found => simp [analyzeNode, analyzeResolved, resolved, found]
  | violated resolved conforms violates =>
    simp [analyzeNode, analyzeResolved, resolved, conforms, violates]
  | constrained passed =>
    simp [analyzeNode, analyzeResolved, passed.resolved, passed.conforms, passed.bound]
  | uninferred passed absent =>
    simp [analyzeNode, analyzeResolved, passed.resolved, passed.conforms, passed.bound,
      inferOutputs, absent]
  | failed passed declared ended =>
    simp [analyzeNode, analyzeResolved, passed.resolved, passed.conforms, passed.bound,
      inferOutputs, declared, ← nodeContext.eq_def, ← nodeRun.eq_def, ended]
  | miswritten passed declared ended violates =>
    simp [analyzeNode, analyzeResolved, passed.resolved, passed.conforms, passed.bound,
      inferOutputs, declared, ← nodeContext.eq_def, ← nodeRun.eq_def, ended,
      ← stagedViolation.eq_def, violates]
  | inferred passed declared ended accepted =>
    simp [analyzeNode, analyzeResolved, passed.resolved, passed.conforms, passed.bound,
      inferOutputs, declared, ← nodeContext.eq_def, ← nodeRun.eq_def, ended,
      ← stagedViolation.eq_def, accepted]

theorem staged_isSome (registry : FrozenRegistry) (options : AnalysisOptions) (graph : Graph)
    (index : Nat) (node : Node) :
    (analyzeNode registry options .infer graph index node).staged.isSome =
      commits (analyzeNode registry options .infer graph index node).report.state := by
  have course := analyzeNode_course registry options .infer graph index node
  generalize analyzeNode registry options .infer graph index node = analysis at course
  cases course with
  | unresolved | unfit | violated | uninferred | failed | miswritten => rfl
  | inferred =>
    rename_i outcome _ _ _ _
    cases outcome <;> rfl

theorem length_staged {staged : List TensorType}
    (done : (analyzeNode registry options depth graph index node).staged = some staged) :
    staged.length = node.outputs.length := by
  have course := analyzeNode_course registry options depth graph index node
  generalize analyzeNode registry options depth graph index node = analysis at done course
  cases course with
  | unresolved | unfit | violated | constrained | uninferred | failed | miswritten => cases done
  | inferred =>
    cases done
    rw [nodeRun, Inference.length_outputs_run]
    exact length_outputTypes graph node

theorem diagnostics_of_staged {staged : List TensorType}
    (done : (analyzeNode registry options depth graph index node).staged = some staged) :
    (analyzeNode registry options depth graph index node).report.diagnostics = [] := by
  have course := analyzeNode_course registry options depth graph index node
  generalize analyzeNode registry options depth graph index node = analysis at done course
  cases course with
  | unresolved | unfit | violated | constrained | uninferred | failed | miswritten => cases done
  | inferred => rfl

/-- A node without diagnostics is resolved, and its inference function, if there is one, ends. -/
theorem analyzeNode_clean (strict : options.missingSchema = .error)
    (clean : (analyzeNode registry options .infer graph index node).report.diagnostics = []) :
    ∃ schema, resolveSchema registry graph node = .ok schema ∧
      ((schema.inference = none ∧
          (analyzeNode registry options .infer graph index node).staged = none) ∨
        ∃ function bindings outcome final, schema.inference = some function ∧
          Inference.Ends function.program (nodeContext schema bindings graph node) outcome final ∧
          (analyzeNode registry options .infer graph index node).staged = some final.outputs) := by
  have course := analyzeNode_course registry options .infer graph index node
  generalize analyzeNode registry options .infer graph index node = analysis at clean course ⊢
  cases course with
  | unresolved => simp [missingProblems, strict, nodeReport] at clean
  | unfit | violated | failed | miswritten => simp [nodeReport] at clean
  | uninferred passed absent => exact ⟨_, passed.resolved, .inl ⟨absent, rfl⟩⟩
  | inferred passed declared ended =>
    exact ⟨_, passed.resolved, .inr ⟨_, _, _, _, declared, ⟨ended, rfl⟩, rfl⟩⟩

end ShapeFlow.Analysis
