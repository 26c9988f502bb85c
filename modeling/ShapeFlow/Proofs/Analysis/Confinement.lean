import Mathlib
import ShapeFlow.Catalogue
import ShapeFlow.Proofs.Analysis.Run

/-!
What a run may change. Whether it ends well or stops, a run writes the outputs of the nodes whose
inference succeeded and nothing else. What an inference function wrote before it failed is lost.
-/

namespace ShapeFlow.ShapeInference

open GraphOf

variable {registry : FrozenRegistry} {options : AnalysisOptions} {graph : Graph} {node : Node}
  {name : String}

/-- The analyses that a run makes. An invalid graph is not analyzed. -/
def analyzed (options : AnalysisOptions) (registry : FrozenRegistry) (graph : Graph) :
    List NodeAnalysis :=
  match graph.validate with
  | .error _ => []
  | .ok () => analyses registry options 0 graph.nodes graph

/-- What a run leaves of a graph, given the analyses that it made. -/
structure Confined (options : AnalysisOptions) (registry : FrozenRegistry) (graph : Graph)
    (made : List NodeAnalysis) (ran : GraphRun PassReport) : Prop where
  /-- Nothing is written but the outputs of the nodes with staged types. -/
  frame : Frame graph ran.graph (writtenBy graph.nodes made)
  /-- Each node is analyzed in the graph that the nodes before it leave. -/
  traced : ∀ (i : Nat) (analysis : NodeAnalysis), made[i]? = some analysis →
    ∃ node, graph.nodes[i]? = some node ∧
      analysis = Analysis.analyzeNode registry options .infer
        (inferNodes registry options 0 (graph.nodes.take i) graph).graph i node
  /-- Types are staged in the states of success only. -/
  staged : ∀ analysis ∈ made, (∃ types, analysis.staged = some types) ↔
    analysis.report.state = .shapeInferred ∨ analysis.report.state = .inferenceSkipped
  /-- The outputs of a node with staged types get these, if no other output has the same name. -/
  committed : ∀ (i : Nat) (node : Node) (analysis : NodeAnalysis) (types : List TensorType),
    graph.nodes[i]? = some node → made[i]? = some analysis → analysis.staged = some types →
      types.length = node.outputs.length ∧
      (node.presentOutputs.Nodup →
        (∀ (j : Nat) (other : Node), j ≠ i → graph.nodes[j]? = some other →
          ∀ name ∈ node.presentOutputs, name ∉ other.presentOutputs) →
        ∀ (place : Nat) (name : String) (type : TensorType), node.outputs[place]? = some name →
          name ≠ "" → types[place]? = some type → ran.graph.tensorNamed name = .ok ⟨name, type⟩)
  /-- The outputs of a node without staged types are as they were declared, unless another node
  writes them. -/
  withheld : ∀ (i : Nat) (node : Node) (analysis : NodeAnalysis),
    graph.nodes[i]? = some node → made[i]? = some analysis → analysis.staged = none →
      ∀ name ∈ node.presentOutputs, name ∉ writtenBy graph.nodes made →
        ran.graph.tensorNamed name = .ok ⟨name, graph.typeOf name⟩
  /-- A run that ends well has analyzed every node. -/
  reported : ∀ report, ran.result = .ok report →
    report.nodes = made.map NodeAnalysis.report ∧ made.length = graph.nodes.length
  /-- A run stops at an invalid graph, which it leaves alone, or at the first diagnostic of the node
  that it analyzed last. -/
  stopped : ∀ problem, ran.result = .error problem →
    (ran.graph = graph ∧ ∃ invalid, graph.validate = .error invalid ∧ problem = .graph invalid) ∨
      (options.errorPolicy = .failFast ∧ ∃ last diagnostic, made.getLast? = some last ∧
        last.report.diagnostics.head? = some diagnostic ∧ problem = .node diagnostic)

private theorem confined_of_invalid {problem : GraphError}
    (invalid : graph.validate = .error problem) :
    Confined options registry graph [] { graph, result := .error (.graph problem) } where
  frame := Frame.refl graph _
  traced i analysis impossible := by simp at impossible
  staged := by simp
  committed i node analysis types listed impossible := by simp at impossible
  withheld i node analysis listed impossible := by simp at impossible
  reported report impossible := by simp at impossible
  stopped found same := by
    cases same
    exact .inl ⟨rfl, problem, invalid, rfl⟩

private theorem described (indexed : graph.Indexed) {i : Nat} {analysis : NodeAnalysis}
    (listed : graph.nodes[i]? = some node)
    (reached : (analyses registry options 0 graph.nodes graph)[i]? = some analysis)
    (present : name ∈ node.presentOutputs) :
    let final := (inferNodes registry options 0 graph.nodes graph).graph
    final.tensorNamed name = .ok ⟨name, final.typeOf name⟩ := by
  intro final
  have valid : final.Indexed := (inferNodes_frame indexed registry options 0 graph.nodes).1
  have early : (graph.nodes.take (analyses registry options 0 graph.nodes graph).length)[i]? =
      some node := by
    rw [List.getElem?_take_of_lt (List.getElem?_eq_some_iff.mp reached).1, listed]
  have made := mem_produced.mpr ⟨node, List.mem_of_getElem? early, present⟩
  have contained : final.tensors.contains name = true :=
    (contains_inferNodes indexed registry options 0 graph.nodes).mpr (.inl made)
  rw [valid.tensorNamed_eq, if_pos contained]

private theorem confined_of_valid (indexed : graph.Indexed) :
    let ran := inferNodes registry options 0 graph.nodes graph
    Confined options registry graph (analyses registry options 0 graph.nodes graph)
      { graph := ran.graph
        notes := ran.notes
        result := ran.result.map (⟨"shape_inference", ·⟩) } := by
  intro ran
  obtain ⟨valid, frame⟩ := inferNodes_frame indexed registry options 0 graph.nodes
  constructor
  case frame => exact frame
  case traced =>
    intro i analysis reached
    obtain ⟨node, listed, same⟩ := analyzed_at indexed reached
    exact ⟨node, listed, by rw [same, Nat.zero_add]⟩
  case staged =>
    intro analysis member
    obtain ⟨i, reached⟩ := List.mem_iff_getElem?.mp member
    obtain ⟨node, _, same⟩ := analyzed_at indexed reached
    rw [← Option.isSome_iff_exists, same, Analysis.staged_isSome]
    exact Analysis.commits_iff
  case committed =>
    intro i node analysis types listed reached staged
    obtain ⟨other, again, same⟩ := analyzed_at indexed reached
    rw [listed] at again
    cases again
    refine ⟨Analysis.length_staged (same ▸ staged), ?_⟩
    intro distinct alone place name type output named stagedHere
    have present : name ∈ node.presentOutputs :=
      NodeOf.mem_presentOutputs.mpr ⟨List.mem_of_getElem? output, named⟩
    have known := typeOf_committed indexed listed reached staged distinct
      (fun j other different there => alone j other different there name present) named output
      stagedHere
    rw [described indexed listed reached present, known]
  case withheld =>
    intro i node analysis listed reached _ name present outside
    rw [described indexed listed reached present, frame.typeOf_eq valid indexed outside]
  case reported =>
    intro report done
    obtain ⟨reports, ended, rfl⟩ := exists_of_map_eq_ok done
    obtain ⟨same, counted⟩ := reports_eq ended
    exact ⟨same, by rw [← counted, same, List.length_map]⟩
  case stopped =>
    intro problem done
    exact .inr (stopped_at indexed (eq_error_of_map done))

/-- Every run is confined to what its analyses staged. -/
theorem run_confined (built : Built graph) (registry : FrozenRegistry)
    (options : AnalysisOptions) :
    Confined options registry graph (analyzed options registry graph)
      (run options registry graph) := by
  cases checked : graph.validate with
  | error problem =>
    simp only [run, analyzed, checked]
    exact confined_of_invalid checked
  | ok _ =>
    simp only [run, analyzed, checked]
    exact confined_of_valid built.indexed

/-- The fill hands the element type of its input on before it refuses the negative size. -/
def brokenFill : Graph :=
  let start := (GraphOf.empty.importOpset "" 1).addInput
    ⟨"x", { elementType := some .float32, shape := .ranked [.symbol "n"] }⟩
  let declared := start.1.addTensor ⟨"y", { shape := .ranked [.size 2] }⟩
  (declared.1.addNode
    { opType := "GivenTensorFill", inputs := ["x"], outputs := ["y"],
      attributes := .ofList [("shape", .ints [-1])] }).1

/-- What was declared of its output stays, and nothing is added. -/
theorem run_confined_brokenFill :
    (analyzed {} .experimental brokenFill).map (fun made => made.report.state) =
      [.inferenceFailed] ∧
    (run {} .experimental brokenFill).graph.tensorNamed "y" =
      .ok ⟨"y", { shape := .ranked [.size 2] }⟩ := by
  have built : Built brokenFill :=
    .addNode (.addTensor (.addInput (.importOpset .empty _ _) _) _) _
  have confined := run_confined built .experimental {}
  have ended : (analyzed {} .experimental brokenFill).map (fun made => made.report.state) =
      [.inferenceFailed] := by cbv
  obtain ⟨analysis, only, state⟩ := List.map_eq_singleton_iff.mp ended
  rw [only] at confined
  have failed : analysis.staged = none := by
    cases staged : analysis.staged with
    | none => rfl
    | some types =>
      have success := (confined.staged analysis (by simp)).mp ⟨types, staged⟩
      simp [state] at success
  refine ⟨ended, confined.withheld 0 _ analysis rfl rfl failed "y" (by decide) ?_⟩
  rintro ⟨i, node, other, _, reached, member⟩
  have same : other = analysis := by simpa using List.mem_of_getElem? reached
  rw [same, failed] at member
  exact member

end ShapeFlow.ShapeInference
