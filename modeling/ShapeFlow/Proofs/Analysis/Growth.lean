import ShapeFlow.Proofs.Analysis.Course
import ShapeFlow.Proofs.Analysis.Run
import ShapeFlow.Proofs.Catalogue
import ShapeFlow.Proofs.Inference.Repeat

/-!
What a run adds to the tensors. What is staged for an output stands above what was known about it,
so every step only adds to what the graph knows, and so does every run, however many nodes write the
same name and whether or not the run ends well.
-/

namespace ShapeFlow

open GraphOf

variable {below : TensorType → TensorType → Prop} {registry : FrozenRegistry}
  {options : AnalysisOptions} {graph : Graph} {node : Node} {index : Nat} {name : String}

namespace FrozenRegistry

/-- Every inference function of a registry raises what is staged. -/
def Raises (below : TensorType → TensorType → Prop) (registry : FrozenRegistry) : Prop :=
  registry.EveryFunction fun function => function.program.Raises below

/-- No inference function of a registry replaces a shape. -/
def KeepsShapes (registry : FrozenRegistry) : Prop :=
  registry.EveryFunction fun function => function.program.KeepsShapes

theorem raises_keepsElementType (registry : FrozenRegistry) :
    registry.Raises TensorType.KeepsElementType :=
  fun _ _ function _ => function.program.raises_keepsElementType

theorem KeepsShapes.raises (keeps : registry.KeepsShapes) : registry.Raises (· ≤ ·) :=
  EveryFunction.mono keeps fun _ => Inference.KeepsShapes.raises

theorem experimental_keepsShapes : experimental.KeepsShapes :=
  experimental_shared.mono fun _ shared => shared.repeatable.keepsShapes

end FrozenRegistry

namespace Analysis

theorem staged_raised {depth : Depth} {staged : List TensorType} {type : TensorType} {place : Nat}
    (raises : registry.Raises below)
    (done : (analyzeNode registry options depth graph index node).staged = some staged)
    (output : node.outputs[place]? = some name) (named : name ≠ "")
    (stagedHere : staged[place]? = some type) : below (graph.typeOf name) type := by
  have course := analyzeNode_course registry options depth graph index node
  generalize analyzeNode registry options depth graph index node = analysis at done course
  cases course with
  | unresolved | unfit | violated | constrained | uninferred | failed | miswritten => cases done
  | inferred passed declared ended accepted =>
    rename_i schema bindings function outcome
    cases done
    obtain ⟨version, found⟩ := lookup_of_resolveSchema passed.resolved
    have raised := raises.of_lookup found declared (nodeContext schema bindings graph node)
    have start : (nodeContext schema bindings graph node).outputs[place]? =
        some (graph.typeOf name) := by
      simp [nodeContext, outputTypes, output, named]
    obtain ⟨reached, present, above⟩ := raised place (graph.typeOf name) start
    rw [nodeRun, present] at stagedHere
    cases stagedHere
    exact above

end Analysis

namespace ShapeInference

variable [IsPreorder TensorType below]

/-- A step raises what is known under every name. An output that is listed twice ends as one of the
types that are staged for it, and each of them stands above what was known. -/
theorem advance_raised (indexed : graph.Indexed) (raises : registry.Raises below)
    (options : AnalysisOptions) (index : Nat) (node : Node) (name : String) :
    let staged := (Analysis.analyzeNode registry options .infer graph index node).staged
    below (graph.typeOf name) ((advance graph node staged).typeOf name) := by
  intro staged
  have sized : ∀ types ∈ staged, types.length = node.outputs.length :=
    fun _ done => Analysis.length_staged done
  obtain ⟨_, valid, frame⟩ := advance_ok indexed sized
  by_cases touched : name ∈ written node staged
  · cases done : staged with
    | none =>
      rw [done] at touched
      exact False.elim touched
    | some types =>
      rw [done] at touched
      obtain ⟨type, place, output, stagedHere, known⟩ :=
        typeOf_advance_mem indexed (sized types done) touched
      rw [known]
      exact Analysis.staged_raised raises done output (NodeOf.mem_presentOutputs.mp touched).2
        stagedHere
  · rw [frame.typeOf_eq valid indexed touched]
    exact refl_of below _

/-- A pass over nodes raises what is known under every name, also when it stops. -/
theorem inferNodes_raised (indexed : graph.Indexed) (raises : registry.Raises below)
    (options : AnalysisOptions) (index : Nat) (nodes : List Node) (name : String) :
    below (graph.typeOf name)
      ((inferNodes registry options index nodes graph).graph.typeOf name) := by
  induction nodes generalizing index graph with
  | nil => exact refl_of below _
  | cons node rest ih =>
    have step := advance_raised indexed raises options index node name
    obtain ⟨analysis, found, valid, _, stops | goes⟩ :=
      pass_cons indexed registry options index node rest
    · obtain ⟨_, _, _, ran, _⟩ := stops
      rw [ran, found]
      exact step
    · obtain ⟨_, ran, _⟩ := goes
      rw [ran]
      rw [← found] at step
      exact trans_of below step (ih valid (index + 1))

/-- After a run every descriptor is still there. It has its name and, if it was known, its element
type, and unless a shape is replaced at least as much is known about its shape. -/
theorem run_grows (built : Built graph) (registry : FrozenRegistry) (options : AnalysisOptions)
    {id : Nat} {info : TensorInfo} (stored : graph.tensor id = .ok info) :
    ∃ later, (run options registry graph).graph.tensor id = .ok later ∧
      later.name = info.name ∧ info.type.KeepsElementType later.type ∧
      (registry.KeepsShapes → info.type.shape ≤ later.type.shape) := by
  have indexed := built.indexed
  have place : graph.tensorInfo[id]? = some info := tensor_eq_ok_iff.mp stored
  cases checked : graph.validate with
  | error problem =>
    simp only [run, checked]
    exact ⟨info, stored, rfl, refl_of TensorType.KeepsElementType _, fun _ => le_rfl⟩
  | ok _ =>
    simp only [run, checked]
    obtain ⟨valid, frame⟩ := inferNodes_frame indexed registry options 0 graph.nodes
    obtain ⟨later, remains, sameName, _⟩ := frame.kept place
    have before : graph.typeOf info.name = info.type := indexed.typeOf_eq place
    have after := sameName ▸ valid.typeOf_eq remains
    refine ⟨later, tensor_eq_ok_iff.mpr remains, sameName, ?_, fun keeps => ?_⟩
    · have kept := inferNodes_raised indexed registry.raises_keepsElementType options 0 graph.nodes
        info.name
      rwa [before, after] at kept
    · have grown := inferNodes_raised indexed keeps.raises options 0 graph.nodes info.name
      rw [before, after] at grown
      exact grown.shape

/-- Two nodes write `y`, and each of them knows one dimension. -/
def twoWriters : Graph :=
  let start := (GraphOf.empty.importOpset "" 1).addInput
    ⟨"x", { elementType := some .float32, shape := .ranked [.unknown, .size 3] }⟩
  let second := start.1.addInput ⟨"w", { shape := .ranked [.size 2, .unknown] }⟩
  let declared := second.1.addTensor
    ⟨"y", { elementType := some .float32, shape := .ranked [.symbol "n", .unknown] }⟩
  let first := declared.1.addNode
    { opType := "ThresholdedRelu", inputs := ["x"], outputs := ["y"] }
  (first.1.addNode { opType := "ScaledTanh", inputs := ["w"], outputs := ["y"] }).1

/-- Both of them add to what was declared, and neither takes anything back. -/
theorem run_grows_twoWriters :
    twoWriters.tensor 2 =
        .ok ⟨"y", { elementType := some .float32, shape := .ranked [.symbol "n", .unknown] }⟩ ∧
      ∃ later, (run {} .experimental twoWriters).graph.tensor 2 = .ok later ∧
        later.name = "y" ∧ later.type.elementType = some .float32 ∧
        .ranked [.symbol "n", .unknown] ≤ later.type.shape := by
  have built : Built twoWriters :=
    .addNode (.addNode (.addTensor (.addInput (.addInput (.importOpset .empty _ _) _) _) _) _) _
  have stored : twoWriters.tensor 2 =
      .ok ⟨"y", { elementType := some .float32, shape := .ranked [.symbol "n", .unknown] }⟩ := by
    decide
  obtain ⟨later, remains, sameName, kept, grown⟩ := run_grows built .experimental {} stored
  exact ⟨stored, later, remains, sameName, kept .float32 rfl,
    grown FrozenRegistry.experimental_keepsShapes⟩

end ShapeInference

end ShapeFlow
