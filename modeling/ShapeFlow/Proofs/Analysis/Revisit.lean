import ShapeFlow.Proofs.Analysis.Course
import ShapeFlow.Proofs.Analysis.Settled
import ShapeFlow.Proofs.Check.Assignment

/-!
Coming back to a node. A later graph may say of a node what an analysis left: the inputs as they
were seen, and the outputs as they were staged, or as they were seen where nothing was staged. The
node is still resolved there, and if its staged types were accepted, its operands bind again.
-/

namespace ShapeFlow

open GraphOf

variable {registry : FrozenRegistry} {options : AnalysisOptions} {declared seen final : Graph}
  {node : Node} {index : Nat} {staged : List TensorType}

namespace Analysis

/-- What becomes known of the outputs of a node when types are committed. Nothing becomes known of
an absent output. -/
def committedTypes (node : Node) (staged : List TensorType) : List TensorType :=
  List.zipWith (fun name type => if name = "" then {} else type) node.outputs staged

/-- A graph says of a node what an analysis in an earlier graph left. -/
structure Revisits (seen final : Graph) (node : Node) (staged : Option (List TensorType)) :
    Prop where
  opsetVersion : final.opsetVersionFor node = seen.opsetVersionFor node
  inputs : inputTypes final node = inputTypes seen node
  withheld : staged = none → outputTypes final node = outputTypes seen node
  committed : ∀ types ∈ staged, outputTypes final node = committedTypes node types

/-- The element types of the inputs and of what is staged suit one assignment. -/
structure Accepted (schema : Schema) (graph : Graph) (node : Node) (staged : List TensorType)
    (assigned : TypeAssignment) : Prop where
  inputs : schema.toSignature.Fits .input 0
    ((inputTypes graph node).map fun input => input.bind TensorType.elementType) assigned
  staged : schema.toSignature.Fits .output 0 (staged.map TensorType.elementType) assigned

variable {schema : Schema} {bindings : TypeBindings}

/-- What a node with accepted staged types is left with suits one assignment. -/
theorem Constrained.accepted {run : Inference.Run InferenceOutcome}
    (passed : Constrained registry seen node schema bindings)
    (quiet : stagedViolation schema bindings run = none) :
    ∃ assigned, Accepted schema seen node run.context.outputs assigned := by
  obtain ⟨inputsFit, _⟩ := Check.resolve_fits passed.bound
  obtain ⟨extension, stagedFit⟩ := Check.outputTypes_fits quiet
  exact ⟨_, inputsFit.extend extension, stagedFit⟩

theorem getElem?_committedTypes {name : String} {place : Nat} (named : name ≠ "")
    (output : node.outputs[place]? = some name) :
    (committedTypes node staged)[place]? = staged[place]? := by
  cases stagedHere : staged[place]? <;>
    simp [committedTypes, List.getElem?_zipWith, output, stagedHere, named]

theorem committedTypes_knownWithin (node : Node) (staged : List TensorType) :
    KnownWithin ((committedTypes node staged).map TensorType.elementType)
      (staged.map TensorType.elementType) := by
  intro place type known
  simp only [committedTypes, List.getElem?_map, List.getElem?_zipWith, Option.map_eq_some_iff]
    at known ⊢
  obtain ⟨committed, found, known⟩ := known
  split at found
  · rename_i name own _ stagedHere
    cases found
    split at known
    · cases known
    · exact ⟨own, stagedHere, known⟩
  · cases found

namespace Revisits

theorem agree (revisits : Revisits seen final node none) : Agree final seen node where
  opsetVersion := revisits.opsetVersion
  inputs := revisits.inputs
  outputs := revisits.withheld rfl

/-- The operands bind again, without leaving the assignment that they suited. -/
theorem constrained (revisits : Revisits seen final node (some staged)) {assigned : TypeAssignment}
    (passed : Constrained registry seen node schema bindings)
    (accepted : Accepted schema seen node staged assigned) :
    ∃ again, Constrained registry final node schema again ∧ again.Below assigned := by
  have stagedFit := accepted.staged.of_knownWithin (committedTypes_knownWithin node staged)
  obtain ⟨again, done, below⟩ := Check.resolve_of_fits accepted.inputs stagedFit
  refine ⟨again, ⟨?_, passed.conforms, ?_⟩, below⟩
  · rw [resolveSchema_congr revisits.opsetVersion, passed.resolved]
  · rw [bindTypes, revisits.inputs, revisits.committed staged rfl, done]

end Revisits

end Analysis

namespace ShapeInference

/-- A pass over nodes leaves a valid graph valid. -/
theorem validate_inferNodes {graph : Graph} (indexed : graph.Indexed) (registry : FrozenRegistry)
    (options : AnalysisOptions) (index : Nat) (nodes : List Node)
    (valid : graph.validate = .ok ()) :
    (inferNodes registry options index nodes graph).graph.validate = .ok () := by
  obtain ⟨_, frame⟩ := inferNodes_frame indexed registry options index nodes
  obtain ⟨listed, ordered⟩ := validate_eq_ok_iff.mp valid
  refine validate_eq_ok_iff.mpr ⟨fun name member => ?_, ?_⟩
  · rw [frame.inputs, frame.outputs, frame.initializers] at member
    exact (contains_inferNodes indexed registry options index nodes).mpr
      (.inr (listed name member))
  · rw [frame.inputs, frame.initializers, frame.nodes, ordered]

theorem Settled.revisits {analysis : NodeAnalysis}
    (settled : Settled registry options declared final index node analysis)
    (version : final.opsetVersionFor node = declared.opsetVersionFor node) :
    ∃ seen, analysis = Analysis.analyzeNode registry options .infer seen index node ∧
      Analysis.Revisits seen final node analysis.staged := by
  obtain ⟨seen, versionSeen, inputs, outputs, found⟩ := settled.seen
  refine ⟨seen, found, version.trans versionSeen.symm, inputs.symm, ?_, ?_⟩
  · intro none
    rw [outputs]
    exact Analysis.outputTypes_congr fun name output named =>
      settled.withheld none name (NodeOf.mem_presentOutputs.mpr ⟨output, named⟩)
  · intro types staged
    have sized : types.length = node.outputs.length := Analysis.length_staged (found ▸ staged)
    refine List.ext_getElem (by simp [Analysis.committedTypes, Analysis.outputTypes, sized]) ?_
    intro place here there
    have output : place < node.outputs.length := by simpa [Analysis.outputTypes] using here
    have stagedHere : place < types.length := sized ▸ output
    simp only [Analysis.outputTypes, Analysis.committedTypes, List.getElem_map,
      List.getElem_zipWith]
    split
    · rfl
    · rename_i named
      exact settled.committed types staged place _ _ (List.getElem?_eq_getElem output) named
        (List.getElem?_eq_getElem stagedHere)

end ShapeInference

end ShapeFlow
