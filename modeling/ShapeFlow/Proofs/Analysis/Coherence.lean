import Mathlib
import ShapeFlow.Analysis.Validation
import ShapeFlow.Catalogue
import ShapeFlow.Proofs.Analysis.Upheld
import ShapeFlow.Proofs.Analysis.Writes
import ShapeFlow.Proofs.Except

/-!
The entries of a report. Each entry is about the node at its place, names the operator version that
covers the node, and gives the problems that its state stands for. The analysis of a node ends in
many ways, and each of them leaves an entry whose parts fit together.
-/

namespace ShapeFlow

open GraphOf

variable {registry : FrozenRegistry} {options : AnalysisOptions} {missing : MissingSchemaPolicy}
  {depth : Depth} {graph before after : Graph} {node : Node} {nodes : List Node} {index : Nat}
  {schema : Schema} {entry : NodeReport} {entries : List NodeReport} {state : NodeState}
  {problem : Problem}

/-- The problems that a state stands for. -/
def NodeState.Explained (missing : MissingSchemaPolicy) (problems : List Problem) :
    NodeState → Prop
  | .unresolved =>
    match missing with
    | .error =>
      (∃ domain, problems = [.missingOpsetImport domain]) ∨ ∃ absent, problems = [.notFound absent]
    | .skip => problems = []
  | .schemaResolved =>
    problems ≠ [] ∧ ∃ (arities : List ArityError) (attributes : List AttributeError),
      problems = arities.map Problem.arity ++ attributes.map Problem.attribute
  | .attributesValidated => ∃ violation, problems = [.constraint violation]
  | .inferenceFailed =>
    (∃ failure, problems = [.inference failure]) ∨ ∃ violation, problems = [.constraint violation]
  | .typesConstrained | .shapeInferred | .inferenceSkipped | .noInferenceFunction => problems = []

theorem NodeState.isTerminal_iff :
    state.isTerminal = true ↔
      state ∈ [.shapeInferred, .inferenceSkipped, .noInferenceFunction, .inferenceFailed] := by
  cases state <;> decide

/-- The problems of an entry without the node that they are about. -/
def NodeReport.problems (report : NodeReport) : List Problem :=
  report.diagnostics.map Diagnostic.problem

/-- A diagnostic tells the node that it is about, and the operator version of its entry. -/
structure Diagnostic.Labels (index : Nat) (node : Node) (op : Option OperatorId)
    (diagnostic : Diagnostic) : Prop where
  index : diagnostic.node.index = index
  name : diagnostic.node.name = node.name
  opType : diagnostic.node.opType = node.opType
  domain : diagnostic.node.domain = node.domain
  op : diagnostic.op = op

/-- The parts of an entry fit together, and they fit the node that the entry is about. -/
structure NodeReport.Coherent (registry : FrozenRegistry) (missing : MissingSchemaPolicy)
    (graph : Graph) (index : Nat) (node : Node) (report : NodeReport) : Prop where
  about : report.node = index
  unresolved : report.op = none ↔ report.state = .unresolved
  resolved : ∀ id, report.op = some id ↔ ∃ schema, Covers registry graph node schema ∧
    schema.id = id
  explained : report.state.Explained missing report.problems
  labelled : ∀ diagnostic ∈ report.diagnostics, diagnostic.Labels index node report.op

theorem GraphOf.opsetImports_setType {α : Type} {before after : GraphOf α} {id : Nat}
    {type : TensorType} (written : before.setType id type = .ok after) :
    after.opsetImports = before.opsetImports := by
  unfold setType at written
  split at written
  · cases written
    rfl
  · cases written

namespace Analysis

theorem unresolved_problem (unresolved : resolveSchema registry graph node = .error problem) :
    (∃ domain, problem = .missingOpsetImport domain) ∨ ∃ absent, problem = .notFound absent := by
  unfold resolveSchema at unresolved
  split at unresolved
  · cases unresolved
    exact .inl ⟨_, rfl⟩
  · obtain ⟨absent, _, same⟩ := exists_of_mapError_eq_error unresolved
    exact .inr ⟨absent, same.symm⟩

theorem problems_nodeReport (index : Nat) (node : Node) (op : Option OperatorId)
    (state : NodeState) (problems : List Problem) :
    (nodeReport index node op state problems).problems = problems := by
  simp [NodeReport.problems, nodeReport, Function.comp_def]

theorem labelled_nodeReport (index : Nat) (node : Node) (op : Option OperatorId)
    (state : NodeState) (problems : List Problem) :
    ∀ diagnostic ∈ (nodeReport index node op state problems).diagnostics,
      diagnostic.Labels index node op := by
  intro diagnostic member
  obtain ⟨problem, _, rfl⟩ := List.mem_map.mp member
  exact ⟨rfl, rfl, rfl, rfl, rfl⟩

private theorem coherent_unresolved
    (unresolved : resolveSchema registry graph node = .error problem) :
    (nodeReport index node none .unresolved (missingProblems options problem)).Coherent registry
      options.missingSchema graph index node where
  about := rfl
  unresolved := iff_of_true rfl rfl
  resolved id := by
    refine iff_of_false (by simp [nodeReport]) ?_
    rintro ⟨schema, covers, _⟩
    rw [resolveSchema_eq_ok_iff.mpr covers] at unresolved
    cases unresolved
  explained := by
    rw [problems_nodeReport, missingProblems]
    cases options.missingSchema with
    | skip => rfl
    | error =>
      rcases unresolved_problem unresolved with ⟨domain, rfl⟩ | ⟨absent, rfl⟩
      · exact .inl ⟨domain, rfl⟩
      · exact .inr ⟨absent, rfl⟩
  labelled := labelled_nodeReport _ _ _ _ _

private theorem coherent_resolved {problems : List Problem}
    (resolved : resolveSchema registry graph node = .ok schema) (further : state ≠ .unresolved)
    (explained : state.Explained missing problems) :
    (nodeReport index node (some schema.id) state problems).Coherent registry missing graph index
      node where
  about := rfl
  unresolved := iff_of_false (by simp [nodeReport]) further
  resolved id := by
    constructor
    · intro same
      exact ⟨schema, resolveSchema_eq_ok_iff.mp resolved, Option.some.inj same⟩
    · rintro ⟨other, covers, same⟩
      have again := resolveSchema_eq_ok_iff.mpr covers
      rw [resolved, Except.ok.injEq] at again
      rw [← same, ← again]
      rfl
  explained := by rwa [problems_nodeReport]
  labelled := labelled_nodeReport _ _ _ _ _

/-- However the analysis of a node ends, its entry is coherent. -/
theorem coherent_analyzeNode (registry : FrozenRegistry) (options : AnalysisOptions)
    (depth : Depth) (graph : Graph) (index : Nat) (node : Node) :
    (analyzeNode registry options depth graph index node).report.Coherent registry
      options.missingSchema graph index node := by
  have course := analyzeNode_course registry options depth graph index node
  generalize analyzeNode registry options depth graph index node = analysis at course
  cases course with
  | unresolved missing => exact coherent_unresolved missing
  | unfit resolved found =>
    refine coherent_resolved resolved (by decide) ⟨by simp, ?_⟩
    rw [← found]
    exact ⟨_, _, rfl⟩
  | violated resolved =>
    exact coherent_resolved resolved (by decide) ⟨_, rfl⟩
  | constrained passed => exact coherent_resolved passed.resolved (by decide) rfl
  | uninferred passed => exact coherent_resolved passed.resolved (by decide) rfl
  | failed passed => exact coherent_resolved passed.resolved (by decide) (.inl ⟨_, rfl⟩)
  | miswritten passed => exact coherent_resolved passed.resolved (by decide) (.inr ⟨_, rfl⟩)
  | inferred passed =>
    rename_i outcome _ _ _
    cases outcome <;> exact coherent_resolved passed.resolved (by decide) rfl

theorem validate_not_terminal (registry : FrozenRegistry) (options : AnalysisOptions)
    (graph : Graph) (index : Nat) (node : Node) :
    (analyzeNode registry options .validate graph index node).report.state.isTerminal = false := by
  have course := analyzeNode_course registry options .validate graph index node
  generalize analyzeNode registry options .validate graph index node = analysis at course
  cases course <;> rfl

theorem infer_not_constrained (registry : FrozenRegistry) (options : AnalysisOptions)
    (graph : Graph) (index : Nat) (node : Node) :
    (analyzeNode registry options .infer graph index node).report.state ≠ .typesConstrained := by
  have course := analyzeNode_course registry options .infer graph index node
  generalize analyzeNode registry options .infer graph index node = analysis at course
  cases course with
  | inferred =>
    rename_i outcome _ _ _ _
    cases outcome <;> simp [nodeReport, outcomeState]
  | _ => simp [nodeReport]

/-- What is staged for the outputs of a node is what its inference function left staged, and it is
there in the states of success only. -/
structure Stages (registry : FrozenRegistry) (graph : Graph) (node : Node)
    (analysis : NodeAnalysis) : Prop where
  success : (∃ types, analysis.staged = some types) ↔
    analysis.report.state = .shapeInferred ∨ analysis.report.state = .inferenceSkipped
  counted : ∀ {types : List TensorType}, analysis.staged = some types →
    types.length = node.outputs.length
  inferred : ∀ {types : List TensorType}, analysis.staged = some types →
    ∃ schema bindings function, Covers registry graph node schema ∧
      bindTypes schema graph node = .ok bindings ∧ schema.inference = some function ∧
      types = (function.program.run (nodeContext schema bindings graph node)).context.outputs

theorem stages_analyzeNode (registry : FrozenRegistry) (options : AnalysisOptions) (graph : Graph)
    (index : Nat) (node : Node) :
    Stages registry graph node (analyzeNode registry options .infer graph index node) where
  success := by
    rw [← Option.isSome_iff_exists, staged_isSome, commits_iff]
  counted := length_staged
  inferred {types} done := by
    have course := analyzeNode_course registry options .infer graph index node
    generalize analyzeNode registry options .infer graph index node = analysis at done course
    cases course with
    | inferred passed declared =>
      cases done
      exact ⟨_, _, _, resolveSchema_eq_ok_iff.mp passed.resolved, passed.bound, declared, rfl⟩
    | _ => cases done

end Analysis

namespace ShapeInference

theorem upheld_opsetImports (imports : NameMap Int) :
    Upheld fun reached => reached.opsetImports = imports where
  ensureTensor name kept := (frame_ensureTensor _ name).opsetImports.trans kept
  setType kept written := (opsetImports_setType written).trans kept

theorem opsetImports_ensureOutputs (graph : Graph) (node : Node) :
    (ensureOutputs graph node).opsetImports = graph.opsetImports :=
  (upheld_opsetImports _).ensureOutputs rfl node

theorem opsetImports_commitStaged (graph : Graph) (node : Node)
    (staged : Option (List TensorType)) :
    (Analysis.commitStaged graph node staged).1.opsetImports = graph.opsetImports :=
  (upheld_opsetImports _).commitStaged rfl node staged

theorem opsetImports_inferNodes (registry : FrozenRegistry) (options : AnalysisOptions)
    (index : Nat) (nodes : List Node) (graph : Graph) :
    (inferNodes registry options index nodes graph).graph.opsetImports = graph.opsetImports :=
  (upheld_opsetImports _).inferNodes rfl registry options index nodes

/-- The pass gets over a node: the entry is about the node as the graph describes it, and what the
node stages is written. -/
structure StepsOver (registry : FrozenRegistry) (options : AnalysisOptions) (index : Nat)
    (node : Node) (before after : Graph) (entry : NodeReport) : Prop where
  entry : entry = (Analysis.analyzeNode registry options .infer before index node).report
  committed : Analysis.commitStaged (ensureOutputs before node) node
    (Analysis.analyzeNode registry options .infer before index node).staged = (after, .ok ())

/-- A pass that ends well gets over its first node and goes on from there. The graph that any first
part of it leaves is that of the same pass over fewer nodes. -/
theorem inferNodes_cons_ok {rest : List Node}
    (done : (inferNodes registry options index (node :: rest) graph).result = .ok entries) :
    ∃ after entry later, StepsOver registry options index node graph after entry ∧
      entries = entry :: later ∧
      (inferNodes registry options (index + 1) rest after).result = .ok later ∧
      ∀ part, (inferNodes registry options index (node :: part) graph).graph =
        (inferNodes registry options (index + 1) part after).graph := by
  let analysis := Analysis.analyzeNode registry options .infer (ensureOutputs graph node) index node
  have same : analysis = Analysis.analyzeNode registry options .infer graph index node :=
    Analysis.analyzeNode_congr (agree_ensureOutputs graph node node)
  cases committed : Analysis.commitStaged (ensureOutputs graph node) node analysis.staged with
  | mk after ended =>
    cases ended with
    | error problem => simp [inferNodes, analysis, committed] at done
    | ok _ =>
      cases passed : Analysis.enforce options analysis.report with
      | error problem => simp [inferNodes, analysis, committed, passed] at done
      | ok _ =>
        -- What follows the node does not matter to its own step, so this holds of every part.
        have unfolded (part : List Node) :
            inferNodes registry options index (node :: part) graph =
              let later := inferNodes registry options (index + 1) part after
              { graph := later.graph
                notes := analysis.notes ++ later.notes
                result := later.result.map (analysis.report :: ·) } := by
          simp only [inferNodes, analysis, committed, passed]
        rw [unfolded] at done
        obtain ⟨later, went, rfl⟩ := exists_of_map_eq_ok done
        have step : StepsOver registry options index node graph after analysis.report :=
          ⟨congrArg NodeAnalysis.report same, same ▸ committed⟩
        exact ⟨after, _, later, step, rfl, went, fun part => by rw [unfolded]⟩

/-- A pass that ends well gets over every node, from the graph that the nodes before it leave to
the graph that it leaves together with them. -/
theorem inferNodes_steps (index : Nat)
    (done : (inferNodes registry options index nodes graph).result = .ok entries) :
    entries.length = nodes.length ∧
      ∀ (place : Nat) (node : Node) (entry : NodeReport), nodes[place]? = some node →
        entries[place]? = some entry → StepsOver registry options (index + place) node
          (inferNodes registry options index (nodes.take place) graph).graph
          (inferNodes registry options index (nodes.take (place + 1)) graph).graph entry := by
  induction nodes generalizing index graph entries with
  | nil =>
    cases done
    simp
  | cons head rest ih =>
    obtain ⟨after, first, later, step, rfl, went, parts⟩ := inferNodes_cons_ok done
    obtain ⟨counted, steps⟩ := ih (index + 1) went
    refine ⟨by simp [counted], fun place node entry listed reported => ?_⟩
    cases place with
    | zero =>
      cases listed
      cases reported
      rw [List.take_succ_cons, parts, List.take_zero]
      exact step
    | succ place =>
      have shifted : index + (place + 1) = index + 1 + place := by omega
      rw [List.take_succ_cons, List.take_succ_cons, parts, parts, shifted]
      exact steps place node entry listed reported

theorem run_of_valid (valid : graph.validate = .ok ()) (options : AnalysisOptions)
    (registry : FrozenRegistry) :
    run options registry graph =
      { graph := (inferNodes registry options 0 graph.nodes graph).graph
        notes := (inferNodes registry options 0 graph.nodes graph).notes
        result := (inferNodes registry options 0 graph.nodes graph).result.map
          (⟨"shape_inference", ·⟩) } := by
  simp only [run, valid]

theorem inferNodes_of_run {report : PassReport}
    (done : (run options registry graph).result = .ok report) :
    graph.validate = .ok () ∧
      (inferNodes registry options 0 graph.nodes graph).result = .ok report.nodes := by
  cases valid : graph.validate with
  | error problem => simp [run, valid] at done
  | ok _ =>
    rw [run_of_valid valid] at done
    obtain ⟨entries, ended, rfl⟩ := exists_of_map_eq_ok done
    exact ⟨rfl, ended⟩

end ShapeInference

namespace Validation

theorem checkNodes_entries (index : Nat)
    (done : checkNodes registry options graph index nodes = .ok entries) :
    entries.length = nodes.length ∧
      ∀ (place : Nat) (node : Node) (entry : NodeReport), nodes[place]? = some node →
        entries[place]? = some entry →
          entry = (Analysis.analyzeNode registry options .validate graph (index + place)
            node).report := by
  induction nodes generalizing index entries with
  | nil =>
    cases done
    simp
  | cons head rest ih =>
    rw [checkNodes] at done
    split at done
    · cases done
    · obtain ⟨later, went, rfl⟩ := exists_of_map_eq_ok done
      obtain ⟨counted, reports⟩ := ih (index + 1) went
      refine ⟨by simp [counted], fun place node entry listed reported => ?_⟩
      cases place with
      | zero =>
        cases listed
        cases reported
        rfl
      | succ place =>
        have shifted : index + (place + 1) = index + 1 + place := by omega
        rw [shifted]
        exact reports place node entry listed reported

theorem check_of_valid (valid : graph.validate = .ok ()) (options : AnalysisOptions)
    (registry : FrozenRegistry) :
    check options registry graph =
      (checkNodes registry options graph 0 graph.nodes).map (⟨"validation", ·⟩) := by
  simp only [check, valid]

theorem checkNodes_of_check {report : PassReport}
    (done : check options registry graph = .ok report) :
    graph.validate = .ok () ∧
      checkNodes registry options graph 0 graph.nodes = .ok report.nodes := by
  cases valid : graph.validate with
  | error problem => simp [check, valid] at done
  | ok _ =>
    rw [check_of_valid valid] at done
    obtain ⟨entries, ended, rfl⟩ := exists_of_map_eq_ok done
    exact ⟨rfl, ended⟩

end Validation

/-- A report has one coherent entry for each node, and none is in an excluded state. -/
structure PassReport.Coherent (registry : FrozenRegistry) (missing : MissingSchemaPolicy)
    (graph : Graph) (excluded : NodeState → Prop) (report : PassReport) : Prop where
  counted : report.nodes.length = graph.nodes.length
  entries : ∀ (place : Nat) (node : Node) (entry : NodeReport), graph.nodes[place]? = some node →
    report.nodes[place]? = some entry →
      entry.Coherent registry missing graph place node ∧ ¬excluded entry.state

theorem NodeReport.Coherent.congr
    (version : after.opsetVersionFor node = before.opsetVersionFor node)
    (coherent : entry.Coherent registry missing after index node) :
    entry.Coherent registry missing before index node :=
  { coherent with
    resolved := fun id => by simpa only [Covers.congr version] using coherent.resolved id }

theorem NodeReport.Coherent.diagnostics_of_unresolved
    (coherent : entry.Coherent registry .error graph index node)
    (unresolved : entry.state = .unresolved) : ∃ diagnostic, entry.diagnostics = [diagnostic] := by
  have explained := coherent.explained
  rw [unresolved] at explained
  have single : entry.diagnostics.length = 1 := by
    rw [← List.length_map Diagnostic.problem]
    rcases explained with ⟨_, same⟩ | ⟨_, same⟩
    · exact congrArg List.length same
    · exact congrArg List.length same
  exact List.length_eq_one_iff.mp single

namespace ShapeInference

theorem StepsOver.coherent (step : StepsOver registry options index node before after entry) :
    entry.Coherent registry options.missingSchema before index node := by
  obtain ⟨rfl, _⟩ := step
  exact Analysis.coherent_analyzeNode ..

theorem StepsOver.not_constrained
    (step : StepsOver registry options index node before after entry) :
    entry.state ≠ .typesConstrained := by
  obtain ⟨rfl, _⟩ := step
  exact Analysis.infer_not_constrained _ _ _ _ _

end ShapeInference

/-- Every report of either pass is coherent, on whatever graph and with whatever registry. With
inference no node is left at its type constraints, and each writes what it staged, which it did if
its inference succeeded. Without inference no node gets to a terminal state. -/
theorem reports_coherent (registry : FrozenRegistry) (options : AnalysisOptions) (graph : Graph) :
    (∀ report, (ShapeInference.run options registry graph).result = .ok report →
      report.Coherent registry options.missingSchema graph (· = .typesConstrained) ∧
        let left := fun count =>
          (ShapeInference.inferNodes registry options 0 (graph.nodes.take count) graph).graph
        (ShapeInference.run options registry graph).graph = left graph.nodes.length ∧
          ∀ (place : Nat) (node : Node) (entry : NodeReport), graph.nodes[place]? = some node →
            report.nodes[place]? = some entry →
              let analysis := Analysis.analyzeNode registry options .infer (left place) place node
              entry = analysis.report ∧ Analysis.Stages registry (left place) node analysis ∧
                Writes (left place) node analysis.staged (left (place + 1))) ∧
      ∀ report, Validation.check options registry graph = .ok report →
        report.Coherent registry options.missingSchema graph
          (· ∈ [.shapeInferred, .inferenceSkipped, .noInferenceFunction, .inferenceFailed]) := by
  constructor
  · intro report done
    obtain ⟨valid, ended⟩ := ShapeInference.inferNodes_of_run done
    obtain ⟨counted, steps⟩ := ShapeInference.inferNodes_steps 0 ended
    simp only [Nat.zero_add] at steps
    refine ⟨⟨counted, fun place node entry listed reported => ?_⟩, ?_,
      fun place node entry listed reported => ?_⟩
    · have step := steps place node entry listed reported
      have version : (ShapeInference.inferNodes registry options 0 (graph.nodes.take place)
          graph).graph.opsetVersionFor node = graph.opsetVersionFor node := by
        rw [opsetVersionFor, opsetVersionFor, ShapeInference.opsetImports_inferNodes]
      exact ⟨step.coherent.congr version, step.not_constrained⟩
    · simp only [ShapeInference.run_of_valid valid, List.take_length]
    · have step := steps place node entry listed reported
      exact ⟨step.entry, Analysis.stages_analyzeNode ..,
        ShapeInference.writes_of_committed step.committed⟩
  · intro report done
    obtain ⟨_, ended⟩ := Validation.checkNodes_of_check done
    obtain ⟨counted, reports⟩ := Validation.checkNodes_entries 0 ended
    refine ⟨counted, fun place node entry listed reported => ?_⟩
    obtain rfl := reports place node entry listed reported
    rw [Nat.zero_add]
    refine ⟨Analysis.coherent_analyzeNode .., fun terminal => ?_⟩
    have reached := Analysis.validate_not_terminal registry options graph place node
    rw [NodeState.isTerminal_iff.mpr terminal] at reached
    cases reached

/-- No operator version covers the first node, and the second is inferred. -/
def unknownThenScale : Graph :=
  let start := (GraphOf.empty.importOpset "" 1).addInput ⟨"x", some .float32, .fixed [2]⟩
  let first := start.1.addNode {
    name := "first", opType := "Unknown", domain := "ai.onnx", inputs := ["x"], outputs := ["a"] }
  (first.1.addNode { opType := "Scale", inputs := ["x"], outputs := ["y"] }).1

/-- The one diagnostic of the first node tells that node and no operator version. The second node
writes what it staged for its output. -/
theorem reports_coherent_unknownThenScale :
    ∃ report entry diagnostic info,
      (ShapeInference.run {} .experimental unknownThenScale).result = .ok report ∧
      report.nodes.map NodeReport.state = [.unresolved, .shapeInferred] ∧
      report.nodes[0]? = some entry ∧ entry.diagnostics = [diagnostic] ∧
      diagnostic.node.index = 0 ∧ diagnostic.node.name = "first" ∧
      diagnostic.node.opType = "Unknown" ∧ diagnostic.node.domain = "ai.onnx" ∧
      diagnostic.op = none ∧
      (ShapeInference.run {} .experimental unknownThenScale).graph.tensorNamed "y" = .ok info ∧
      info.type = ⟨some .float32, .fixed [2]⟩ := by
  have ended : (ShapeInference.run {} .experimental unknownThenScale).result.map
      (fun report => report.nodes.map NodeReport.state) = .ok [.unresolved, .shapeInferred] := by
    cbv
  obtain ⟨report, done, states⟩ := exists_of_map_eq_ok ended
  obtain ⟨⟨_, entries⟩, final, steps⟩ :=
    (reports_coherent .experimental {} unknownThenScale).1 report done
  have reported (place : Nat) (state : NodeState)
      (listed : [.unresolved, .shapeInferred][place]? = some state) :
      ∃ entry, report.nodes[place]? = some entry ∧ entry.state = state := by
    rw [← states, List.getElem?_map, Option.map_eq_some_iff] at listed
    exact listed
  obtain ⟨first, firstListed, unresolved⟩ := reported 0 .unresolved rfl
  obtain ⟨coherent, _⟩ := entries 0 _ first rfl firstListed
  obtain ⟨diagnostic, alone⟩ := coherent.diagnostics_of_unresolved unresolved
  have labels := coherent.labelled diagnostic (by rw [alone]; exact .head _)
  obtain ⟨second, secondListed, _⟩ := reported 1 .shapeInferred rfl
  obtain ⟨_, _, writes⟩ := steps 1 _ second rfl secondListed
  have staged : (Analysis.analyzeNode .experimental {} .infer
      (ShapeInference.inferNodes .experimental {} 0 (unknownThenScale.nodes.take 1)
        unknownThenScale).graph 1
      { opType := "Scale", inputs := ["x"], outputs := ["y"] }).staged =
        some [⟨some .float32, .fixed [2]⟩] := by
    cbv
  have output : ["y"][0]? = some "y" := rfl
  obtain ⟨info, found, known⟩ := writes.written staged output (by decide) rfl
    fun later _ after listed => by
      obtain ⟨next, rfl⟩ := Nat.exists_eq_succ_of_ne_zero (Nat.ne_of_gt after)
      cases listed
  exact ⟨report, first, diagnostic, info, done, states, firstListed, alone, labels.index,
    labels.name, labels.opType, labels.domain, labels.op.trans (coherent.unresolved.mpr unresolved),
    final ▸ found, known⟩

end ShapeFlow
