import Mathlib
import ShapeFlow.Catalogue
import ShapeFlow.Proofs.Analysis.Checker
import ShapeFlow.Proofs.Analysis.Coherence
import ShapeFlow.Proofs.Analysis.Revisit

/-!
What validity is worth to a pass. A graph that the operations build is refused exactly when it is
not valid, and nothing else is wrong with the structure of a graph once a pass has begun. A run
describes what each node produces before a later node reads it, so whatever a node reads is
described when the node is analyzed, whether or not its producer was inferred.
-/

namespace ShapeFlow

open GraphOf

variable {registry : FrozenRegistry} {options : AnalysisOptions} {graph : Graph} {node : Node}
  {nodes : List Node} {index : Nat} {problem : PassError}

/-- What a pass makes of the structure of a graph. -/
structure Judges (pass : AnalysisOptions → Pass) (registry : FrozenRegistry) (graph : Graph) :
    Prop where
  /-- A pass that collects reports on the valid graphs and on no others. -/
  accepts : ∀ missing : MissingSchemaPolicy,
    (∃ report, ((pass ⟨.collectAll, missing⟩).run registry graph).result = .ok report) ↔
      graph.validate = .ok ()
  /-- An invalid graph is left as it is, and the error is that of its validation. -/
  refuses : ∀ invalid, graph.validate = .error invalid → ∀ options,
    (pass options).run registry graph = { graph, result := .error (.graph invalid) }
  /-- A pass has no other complaint about the structure of a graph. -/
  structural : ∀ options invalid,
    ((pass options).run registry graph).result = .error (.graph invalid) →
      graph.validate = .error invalid

/-- What a node finds in the graph in which it is analyzed. -/
structure ProvidedFor (registry : FrozenRegistry) (options : AnalysisOptions) (seen : Graph)
    (index : Nat) (node : Node) : Prop where
  /-- Whatever it reads has a descriptor, so no type of an input is made up. -/
  inputs : ∀ input ∈ node.inputs, input ≠ "" → ∃ info, seen.tensorNamed input = .ok info
  /-- What is inferred of it can be written. -/
  committed : (Analysis.commitStaged seen node
    (Analysis.analyzeNode registry options .infer seen index node).staged).2 = .ok ()

/-- What a run provides for the nodes of a graph, and what it leaves. -/
structure Provides (registry : FrozenRegistry) (graph : Graph) : Prop where
  /-- A run over a valid graph gets to a node when it gets over all nodes before it. The node is
  analyzed in the graph that those leave, with its own outputs described. -/
  nodes : ∀ (options : AnalysisOptions) (i : Nat) (node : Node) (entries : List NodeReport),
    graph.validate = .ok () → graph.nodes[i]? = some node →
      let before := ShapeInference.inferNodes registry options 0 (graph.nodes.take i) graph
      before.result = .ok entries →
        ProvidedFor registry options (ShapeInference.ensureOutputs before.graph node) i node
  /-- A run that ends well describes every output and leaves the graph valid. -/
  final : ∀ (options : AnalysisOptions) (report : PassReport),
    (ShapeInference.run options registry graph).result = .ok report →
      let final := (ShapeInference.run options registry graph).graph
      final.validate = .ok () ∧ ∀ node ∈ final.nodes, ∀ output ∈ node.outputs, output ≠ "" →
        ∃ info, final.tensorNamed output = .ok info

theorem Analysis.exists_of_enforce_eq_error {report : NodeReport}
    (stopped : enforce options report = .error problem) :
    ∃ diagnostic, problem = .node diagnostic := by
  unfold enforce at stopped
  split at stopped
  · cases stopped
    exact ⟨_, rfl⟩
  · cases stopped

namespace Validation

theorem checkNodes_stopped
    (stopped : checkNodes registry options graph index nodes = .error problem) :
    ∃ diagnostic, problem = .node diagnostic := by
  induction nodes generalizing index with
  | nil => cases stopped
  | cons node rest ih =>
    rw [checkNodes] at stopped
    split at stopped
    · rename_i enforced
      cases stopped
      exact Analysis.exists_of_enforce_eq_error enforced
    · exact ih (eq_error_of_map stopped)

theorem check_judges (registry : FrozenRegistry) (graph : Graph) :
    Judges Pass.validation registry graph := by
  constructor
  case accepts =>
    intro missing
    constructor
    · rintro ⟨report, done⟩
      exact (checkNodes_of_check done).1
    · intro valid
      exact ⟨_, check_collects rfl registry valid⟩
  case refuses =>
    intro invalid refused options
    simp only [Pass.validation, check, refused]
  case structural =>
    intro options invalid stopped
    cases validated : graph.validate with
    | error found =>
      simp only [Pass.validation, check, validated, Except.error.injEq, PassError.graph.injEq]
        at stopped
      rw [stopped]
    | ok _ =>
      simp only [Pass.validation, check_of_valid validated] at stopped
      obtain ⟨diagnostic, impossible⟩ := checkNodes_stopped (eq_error_of_map stopped)
      cases impossible

end Validation

namespace ShapeInference

theorem run_judges (indexed : graph.Indexed) (registry : FrozenRegistry) :
    Judges Pass.shapeInference registry graph := by
  constructor
  case accepts =>
    intro missing
    constructor
    · rintro ⟨report, done⟩
      exact (inferNodes_of_run done).1
    · intro valid
      have collect : (AnalysisOptions.mk .collectAll missing).errorPolicy = .collectAll := rfl
      have collected := inferNodes_collects indexed collect registry 0 graph.nodes
      simp only [Pass.shapeInference, run_of_valid valid, collected, Except.map]
      exact ⟨_, rfl⟩
  case refuses =>
    intro invalid refused options
    simp only [Pass.shapeInference, run, refused]
  case structural =>
    intro options invalid stopped
    cases validated : graph.validate with
    | error found =>
      simp only [Pass.shapeInference, run, validated, Except.error.injEq, PassError.graph.injEq]
        at stopped
      rw [stopped]
    | ok _ =>
      simp only [Pass.shapeInference, run_of_valid validated] at stopped
      obtain ⟨_, _, _, _, _, impossible⟩ := stopped_at indexed (eq_error_of_map stopped)
      cases impossible

/-- A pass that ends well describes what its nodes produce and nothing else. -/
theorem contains_of_done (indexed : graph.Indexed) {entries : List NodeReport} {name : String}
    (done : (inferNodes registry options index nodes graph).result = .ok entries) :
    (inferNodes registry options index nodes graph).graph.tensors.contains name = true ↔
      name ∈ produced nodes ∨ graph.tensors.contains name = true := by
  obtain ⟨same, counted⟩ := reports_eq done
  rw [contains_inferNodes indexed, ← List.length_map NodeAnalysis.report, ← same, counted,
    List.take_length]

/-- Whatever a node of a valid graph reads is described when a run gets to the node. -/
theorem contains_input (indexed : graph.Indexed) (valid : graph.validate = .ok ()) {i : Nat}
    {entries : List NodeReport} {input : String} (listed : graph.nodes[i]? = some node)
    (done : (inferNodes registry options 0 (graph.nodes.take i) graph).result = .ok entries)
    (read : input ∈ node.inputs) (named : input ≠ "") :
    (inferNodes registry options 0 (graph.nodes.take i) graph).graph.tensors.contains input =
      true := by
  obtain ⟨mapped, ordered⟩ := validate_eq_ok_iff.mp valid
  rw [contains_of_done indexed done]
  rcases checkOrder_eq_ok_iff.mp ordered i node listed input read named with
    ready | ⟨j, before, producer, there, made⟩
  · refine .inr (mapped input ?_)
    simp only [List.mem_append] at ready ⊢
    tauto
  · refine .inl (mem_produced.mpr ⟨producer, ?_, NodeOf.mem_presentOutputs.mpr ⟨made, named⟩⟩)
    exact List.mem_of_getElem? ((List.getElem?_take_of_lt before).trans there)

theorem run_provides (indexed : graph.Indexed) (registry : FrozenRegistry) :
    Provides registry graph := by
  constructor
  case nodes =>
    intro options i node entries valid listed before done
    have left : before.graph.Indexed :=
      (inferNodes_frame indexed registry options 0 (graph.nodes.take i)).1
    have described := ensureOutputs_ok left node
    constructor
    case inputs =>
      intro input read named
      have contained := contains_input indexed valid listed done read named
      obtain ⟨id, found⟩ := Option.isSome_iff_exists.mp contained
      have still := Option.isSome_iff_exists.mpr ⟨id, described.2.ids found⟩
      exact (described.1.exists_tensorNamed_iff input).mpr still
    case committed =>
      rw [(advance_ok left fun _ staged => Analysis.length_staged staged).1]
  case final =>
    intro options report done
    obtain ⟨valid, ended⟩ := inferNodes_of_run done
    have kept := inferNodes_frame indexed registry options 0 graph.nodes
    simp only [run_of_valid valid]
    refine ⟨validate_inferNodes indexed registry options 0 graph.nodes valid, ?_⟩
    intro node member output listed named
    rw [kept.2.nodes] at member
    have made := mem_produced.mpr ⟨node, member, NodeOf.mem_presentOutputs.mpr ⟨listed, named⟩⟩
    have contained := (contains_of_done indexed ended).mpr (.inl made)
    exact (kept.1.exists_tensorNamed_iff output).mpr contained

/-- On every graph that the operations build, validity is all that a pass asks of the structure,
and a run provides for each node what the node reads. -/
theorem built_provided (built : Built graph) (registry : FrozenRegistry) :
    Judges Pass.shapeInference registry graph ∧ Judges Pass.validation registry graph ∧
      Provides registry graph :=
  ⟨run_judges built.indexed registry, Validation.check_judges registry graph,
    run_provides built.indexed registry⟩

/-- No operator version covers the first node, and the second reads its output, which nobody
declared. -/
def unknownThenRead : Graph :=
  let start := (GraphOf.empty.importOpset "" 1).addInput ⟨"x", { elementType := some .float32 }⟩
  let first := start.1.addNode { opType := "Unknown", inputs := ["x"], outputs := ["a"] }
  (first.1.addNode { opType := "Scale", inputs := ["a"], outputs := ["y"] }).1

/-- The output has no descriptor before the run, and has one when the second node reads it. -/
theorem built_provided_unknownThenRead :
    unknownThenRead.tensors.contains "a" = false ∧
      (∃ report, (run {} .experimental unknownThenRead).result = .ok report) ∧
      ∃ node info, unknownThenRead.nodes[1]? = some node ∧ "a" ∈ node.inputs ∧
        (ensureOutputs (inferNodes .experimental {} 0 (unknownThenRead.nodes.take 1)
          unknownThenRead).graph node).tensorNamed "a" = .ok info := by
  have built : Built unknownThenRead :=
    .addNode (.addNode (.addInput (.importOpset .empty _ _) _) _) _
  have valid : unknownThenRead.validate = .ok () := by decide
  obtain ⟨judges, _, provides⟩ := built_provided built .experimental
  have counted : (inferNodes .experimental {} 0 (unknownThenRead.nodes.take 1)
      unknownThenRead).result.map List.length = .ok 1 := by cbv
  obtain ⟨entries, done, _⟩ := exists_of_map_eq_ok counted
  obtain ⟨info, described⟩ :=
    (provides.nodes {} 1 _ entries valid rfl done).inputs "a" (by decide) (by decide)
  exact ⟨by decide, (judges.accepts .error).mpr valid, _, info, rfl, by decide, described⟩

end ShapeInference

end ShapeFlow
