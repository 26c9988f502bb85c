import Mathlib
import ShapeFlow.Proofs.Analysis.Growth
import ShapeFlow.Proofs.Analysis.Revisit
import ShapeFlow.Proofs.Inference.Repeat

/-!
Running the inference of a graph again. The second run finds what the first one committed as
declarations. If the inference functions only hand on what they know of the inputs, they ask for the
same again, so every analysis comes out as before and every commit writes what is already there.
-/

namespace ShapeFlow

open GraphOf

variable {registry : FrozenRegistry} {options : AnalysisOptions} {graph seen final : Graph}
  {node : Node} {index : Nat}

/-- Every inference function of a registry does again what it did. -/
def FrozenRegistry.Repeatable (registry : FrozenRegistry) : Prop :=
  registry.EveryFunction fun function => function.program.Repeatable

namespace Analysis

/-- The places of the outputs that are not absent. -/
def presentPlaces (node : Node) : Set Nat :=
  {place | ∃ name, node.outputs[place]? = some name ∧ name ≠ ""}

private theorem revisit_nodeContext {schema : Schema} {bindings : TypeBindings} {reached : Context}
    (again : TypeBindings) (revisits : Revisits seen final node (some reached.outputs)) :
    Inference.Revisit (presentPlaces node) (nodeContext schema bindings seen node) reached
      (nodeContext schema again final node) where
  same := ⟨rfl, rfl, revisits.inputs⟩
  known := by
    rintro place ⟨name, output, named⟩ staged stagedHere
    refine ⟨staged, ?_, le_rfl⟩
    rw [nodeContext, revisits.committed _ rfl, getElem?_committedTypes named output, stagedHere]
  fresh := by
    intro place absent
    simp only [nodeContext, outputTypes, List.getElem?_map]
    cases output : node.outputs[place]? with
    | none => rfl
    | some name =>
      have unnamed : name = "" := by
        by_contra named
        exact absent ⟨name, output, named⟩
      simp [unnamed]

/-- A node is found to be the same when it is analyzed in a graph that holds what was found. -/
theorem analyzeNode_again (repeatable : registry.Repeatable) {analysis : NodeAnalysis}
    (found : analysis = analyzeNode registry options .infer seen index node)
    (revisits : Revisits seen final node analysis.staged) :
    analyzeNode registry options .infer final index node = analysis := by
  have course := analyzeNode_course registry options .infer seen index node
  rw [← found] at course
  cases course with
  | unresolved | unfit | violated | uninferred | failed | miswritten =>
    rw [analyzeNode_congr revisits.agree, ← found]
  | inferred passed declared ended accepted =>
    rename_i schema bindings function outcome
    obtain ⟨assigned, suited⟩ := passed.accepted accepted
    -- The outputs bind before the second run, so its bindings differ from those of the first. Both
    -- stay within one assignment.
    obtain ⟨again, passedAgain, below⟩ := revisits.constrained passed suited
    obtain ⟨_, lookedUp⟩ := lookup_of_resolveSchema passed.resolved
    have program := repeatable.of_lookup lookedUp declared
    have repeated := program.again ended (revisit_nodeContext again revisits)
    have endedAgain : (nodeRun function schema again final node).result = .ok outcome :=
      repeated.result.trans ended
    have sameOutputs : (nodeRun function schema again final node).context.outputs =
        (nodeRun function schema bindings seen node).context.outputs := by
      refine List.ext_getElem? fun place => ?_
      by_cases present : place ∈ presentPlaces node
      · obtain ⟨name, output, named⟩ := present
        rw [nodeRun, repeated.kept place ⟨name, output, named⟩, nodeContext,
          revisits.committed _ rfl, getElem?_committedTypes named output]
      · exact repeated.redone place present
    have acceptedAgain : stagedViolation schema again (nodeRun function schema again final node) =
        none := by
      rw [stagedViolation, sameOutputs]
      exact Check.outputTypes_of_fits below suited.staged
    have sameNotes : (nodeRun function schema again final node).notes =
        (nodeRun function schema bindings seen node).notes := repeated.notes
    rw [(Course.inferred passedAgain declared endedAgain acceptedAgain).analyzeNode_eq, sameOutputs,
      sameNotes]

end Analysis

namespace ShapeInference

variable {nodes : List Node} {analysis : NodeAnalysis}

/-- A graph in which a node is found to be as it was, and which has what was staged for it. -/
structure Steady (registry : FrozenRegistry) (options : AnalysisOptions) (final : Graph)
    (index : Nat) (node : Node) (analysis : NodeAnalysis) : Prop where
  again : Analysis.analyzeNode registry options .infer final index node = analysis
  unchanged : advance final node analysis.staged = final

/-- A pass over a graph in which every node that an earlier pass analyzed is steady ends as that
pass did and changes nothing. -/
theorem inferNodes_steady (indexed : graph.Indexed) (finalIndexed : final.Indexed) (index : Nat)
    (nodes : List Node)
    (steady : ∀ (i : Nat) (node : Node) (analysis : NodeAnalysis), nodes[i]? = some node →
      (analyses registry options index nodes graph)[i]? = some analysis →
        Steady registry options final (index + i) node analysis) :
    inferNodes registry options index nodes final =
      { graph := final
        notes := (inferNodes registry options index nodes graph).notes
        result := (inferNodes registry options index nodes graph).result } := by
  induction nodes generalizing index graph with
  | nil => rfl
  | cons head rest ih =>
    obtain ⟨analysis, _, valid, _, course⟩ := pass_cons indexed registry options index head rest
    obtain ⟨again, found, _, _, courseAgain⟩ :=
      pass_cons finalIndexed registry options index head rest
    have first : (analyses registry options index (head :: rest) graph)[0]? = some analysis := by
      rcases course with ⟨_, _, _, _, traced⟩ | ⟨_, _, traced⟩ <;> rw [traced] <;> rfl
    have headSteady := steady 0 head analysis rfl first
    have same : again = analysis := found.trans headSteady.again
    subst same
    rw [headSteady.unchanged] at courseAgain
    -- Both passes go on or both stop, since that depends on the policy and on the same report.
    rcases course with ⟨diagnostic, policy, stops, ran, _⟩ | ⟨quiet, ran, traced⟩
    · rcases courseAgain with ⟨other, _, stopsAgain, ranAgain, _⟩ | ⟨quiet, _⟩
      · rw [stops] at stopsAgain
        cases stopsAgain
        rw [ran, ranAgain]
      · simp [quiet policy] at stops
    · rcases courseAgain with ⟨_, policy, stops, _⟩ | ⟨_, ranAgain, _⟩
      · simp [quiet policy] at stops
      · have later := ih valid (index + 1) fun i node other listed analyzed => by
          have shifted := steady (i + 1) node other listed (by rw [traced]; exact analyzed)
          rwa [Nat.add_comm i 1, ← Nat.add_assoc] at shifted
        rw [ranAgain, later, ran]

theorem Settled.steady (repeatable : registry.Repeatable) (indexed : final.Indexed)
    (settled : Settled registry options graph final index node analysis)
    (version : final.opsetVersionFor node = graph.opsetVersionFor node)
    (described : ∀ name ∈ node.presentOutputs, final.tensors.contains name = true) :
    Steady registry options final index node analysis := by
  obtain ⟨seen, found, revisits⟩ := settled.revisits version
  exact ⟨Analysis.analyzeNode_again repeatable found revisits,
    advance_known indexed described settled.committed⟩

/-- Running the inference of a graph a second time gives the same answer and changes nothing, if
the graph assigns each name once and only shared inference functions are registered. -/
theorem run_idempotent (built : Built graph) (single : graph.SingleAssignment)
    (shared : registry.EveryFunction InferenceFunction.Shared) (options : AnalysisOptions) :
    run options registry (run options registry graph).graph = run options registry graph := by
  have indexed := built.indexed
  have repeatable : registry.Repeatable := shared.mono fun _ => InferenceFunction.Shared.repeatable
  cases valid : graph.validate with
  | error problem => simp only [run, valid]
  | ok _ =>
    obtain ⟨final, frame⟩ := inferNodes_frame indexed registry options 0 graph.nodes
    have validAgain := validate_inferNodes indexed registry options 0 graph.nodes valid
    obtain ⟨_, ordered⟩ := validate_eq_ok_iff.mp valid
    have again := inferNodes_steady indexed final 0 graph.nodes
      fun i node analysis listed analyzed => by
        have settled := inferNodes_settled indexed registry options 0 ordered single.distinct
          single.fresh i node analysis listed analyzed
        refine settled.steady repeatable final (frame.opsetVersionFor_eq node) ?_
        intro name present
        refine (contains_inferNodes indexed registry options 0 graph.nodes).mpr (.inl ?_)
        have reached := (List.getElem?_eq_some_iff.mp analyzed).1
        have early := (List.getElem?_take_of_lt reached).trans listed
        exact mem_produced.mpr ⟨node, List.mem_of_getElem? early, present⟩
    simp only [run, valid, validAgain, frame.nodes, again]

/-- The shape that is filled in for `a` clashes with what is declared of `b`. -/
def clashingScale : Graph :=
  let start := (GraphOf.empty.importOpset "" 1).addInput
    ⟨"x", { elementType := some .float32, shape := .ranked [.symbol "n", .size 3] }⟩
  let partly := start.1.addTensor ⟨"a", { shape := .ranked [.size 5, .unknown, .unknown] }⟩
  let declared := partly.1.addTensor ⟨"b", { shape := .ranked [.unknown, .size 4, .unknown] }⟩
  let filled := declared.1.addNode
    { opType := "GivenTensorFill", inputs := ["x"], outputs := ["a"],
      attributes := .ofList [("extra_shape", .ints [2])] }
  let scaled := filled.1.addNode { opType := "Scale", inputs := ["a"], outputs := ["b"] }
  (scaled.1.addNode { opType := "ScaledTanh", inputs := ["a"], outputs := ["c"] }).1

/-- It clashes again, whether or not the run stops there. -/
theorem run_idempotent_clashingScale :
    (∃ report, (run {} .experimental clashingScale).result = .ok report ∧
      report.nodes.map NodeReport.state = [.shapeInferred, .inferenceFailed, .shapeInferred] ∧
      (run {} .experimental (run {} .experimental clashingScale).graph).result = .ok report) ∧
    let failFast : AnalysisOptions := { errorPolicy := .failFast }
    ∃ problem, (run failFast .experimental clashingScale).result = .error problem ∧
      (run failFast .experimental (run failFast .experimental clashingScale).graph).result =
        .error problem := by
  have built : Built clashingScale :=
    .addNode (.addNode (.addNode (.addTensor (.addTensor (.addInput (.importOpset .empty _ _) _)
      _) _) _) _) _
  have single : clashingScale.SingleAssignment := ⟨by decide, by decide⟩
  have again := run_idempotent built single FrozenRegistry.experimental_shared
  constructor
  · have states : (run {} .experimental clashingScale).result.map (fun report =>
        report.nodes.map NodeReport.state) =
          .ok [.shapeInferred, .inferenceFailed, .shapeInferred] := by cbv
    cases done : (run {} .experimental clashingScale).result with
    | error problem => simp [done, Except.map] at states
    | ok report =>
      rw [done, Except.map, Except.ok.injEq] at states
      exact ⟨report, rfl, states, by rw [again, done]⟩
  · intro failFast
    have stopped : (run failFast .experimental clashingScale).result.isOk = false := by cbv
    cases done : (run failFast .experimental clashingScale).result with
    | ok report => simp [done, Except.isOk, Except.toBool] at stopped
    | error problem => exact ⟨problem, rfl, by rw [again, done]⟩

end ShapeInference

end ShapeFlow
