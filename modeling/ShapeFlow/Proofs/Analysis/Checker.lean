import Mathlib
import ShapeFlow.Analysis.Validation
import ShapeFlow.Proofs.Analysis.Growth
import ShapeFlow.Proofs.Analysis.Settled
import ShapeFlow.Proofs.Check.Assignment

/-!
The checker beside inference. Inference sees a node later than the checker does, when more element
types are known, and what is known is never taken back. So a node that the checker rejects is
rejected by inference as well, and a node that inference lets pass the checker lets pass too.
-/

namespace ShapeFlow

open GraphOf

variable {registry : FrozenRegistry} {options : AnalysisOptions} {graph before after : Graph}
  {node : Node} {index : Nat} {schema : Schema} {bindings : TypeBindings}

namespace Validation

theorem checkNodes_collects (collect : options.errorPolicy = .collectAll)
    (registry : FrozenRegistry) (graph : Graph) (index : Nat) (nodes : List Node) :
    checkNodes registry options graph index nodes = .ok (nodes.mapIdx fun i node =>
      (Analysis.analyzeNode registry options .validate graph (index + i) node).report) := by
  induction nodes generalizing index with
  | nil => rfl
  | cons node rest ih =>
    have passed (report : NodeReport) : Analysis.enforce options report = .ok () := by
      simp [Analysis.enforce, collect]
    have place (i : Nat) : index + 1 + i = index + (i + 1) := by omega
    simp only [checkNodes, passed, ih (index + 1), Except.map, List.mapIdx_cons, place,
      Nat.add_zero]

theorem check_collects (collect : options.errorPolicy = .collectAll) (registry : FrozenRegistry)
    (valid : graph.validate = .ok ()) :
    check options registry graph = .ok ⟨"validation", graph.nodes.mapIdx fun i node =>
      (Analysis.analyzeNode registry options .validate graph i node).report⟩ := by
  simp only [check, valid, checkNodes_collects collect, Except.map, Nat.zero_add]

end Validation

namespace Analysis

theorem operands_knownWithin
    (kept : ∀ name, (before.typeOf name).KeepsElementType (after.typeOf name)) (node : Node) :
    KnownWithin ((inputTypes before node).map fun input => input.bind TensorType.elementType)
        ((inputTypes after node).map fun input => input.bind TensorType.elementType) ∧
      KnownWithin ((outputTypes before node).map TensorType.elementType)
        ((outputTypes after node).map TensorType.elementType) := by
  simp only [inputTypes, outputTypes, List.map_map]
  constructor
  · refine .map (fun name type known => ?_) node.inputs
    by_cases absent : name = ""
    · simp [absent] at known
    · simp only [Function.comp_apply, if_neg absent] at known ⊢
      exact kept name type known
  · refine .map (fun name type known => ?_) node.outputs
    by_cases absent : name = ""
    · simp [absent] at known
    · simp only [Function.comp_apply, if_neg absent] at known ⊢
      exact kept name type known

/-- One choice of element types suits every operand of a node of which the graph knows one. -/
def OperandsConsistent (schema : Schema) (graph : Graph) (node : Node) : Prop :=
  schema.toSignature.Consistent
    ((inputTypes graph node).map fun input => input.bind TensorType.elementType)
    ((outputTypes graph node).map TensorType.elementType)

theorem bindTypes_ok_iff :
    (∃ bindings, bindTypes schema graph node = .ok bindings) ↔
      OperandsConsistent schema graph node :=
  Check.resolve_ok_iff

/-- Operands that bind when more is known bind when less is known. -/
theorem bindTypes_of_kept
    (kept : ∀ name, (before.typeOf name).KeepsElementType (after.typeOf name))
    (bound : bindTypes schema after node = .ok bindings) :
    ∃ earlier, bindTypes schema before node = .ok earlier := by
  obtain ⟨inputs, outputs⟩ := operands_knownWithin kept node
  have consistent : OperandsConsistent schema after node := bindTypes_ok_iff.mp ⟨bindings, bound⟩
  exact bindTypes_ok_iff.mpr (consistent.of_knownWithin inputs outputs)

end Analysis

/-- What inference may report of a node after what the checker reported of it. -/
structure NodeReport.Refines (checked inferred : NodeReport) : Prop where
  /-- A node that the checker does not resolve, or that does not fit its schema, stays so. -/
  identical : checked.state = .unresolved ∨ checked.state = .schemaResolved → inferred = checked
  /-- A violated type constraint stays violated, though perhaps by another operand. -/
  rejected : checked.state = .attributesValidated → inferred.state = .attributesValidated ∧
    ∃ ref op violation, inferred.diagnostics = [⟨ref, op, .constraint violation⟩]
  /-- A node that gets to its inference passes the checker. -/
  accepted : inferred.state ∉ [.unresolved, .schemaResolved, .attributesValidated] →
    checked.state = .typesConstrained ∧ checked.diagnostics = []

namespace Analysis

/-- What is found of a node when more element types are known refines what the checker finds. -/
theorem analyzeNode_refines (version : after.opsetVersionFor node = before.opsetVersionFor node)
    (kept : ∀ name, (before.typeOf name).KeepsElementType (after.typeOf name)) :
    NodeReport.Refines (analyzeNode registry options .validate before index node).report
      (analyzeNode registry options .infer after index node).report := by
  have sameSchema : resolveSchema registry after node = resolveSchema registry before node :=
    resolveSchema_congr version
  have course := analyzeNode_course registry options .validate before index node
  generalize analyzeNode registry options .validate before index node = checked at course
  cases course with
  | unresolved missing =>
    rw [(Course.unresolved (sameSchema.trans missing)).analyzeNode_eq]
    exact ⟨fun _ => rfl, by simp [nodeReport], by simp [nodeReport]⟩
  | unfit resolved found =>
    rw [(Course.unfit (sameSchema.trans resolved) found).analyzeNode_eq]
    exact ⟨fun _ => rfl, by simp [nodeReport], by simp [nodeReport]⟩
  | violated resolved conforms violates =>
    rename_i schema violation
    cases bound : bindTypes schema after node with
    | ok bindings =>
      obtain ⟨earlier, satisfied⟩ := bindTypes_of_kept kept bound
      rw [violates] at satisfied
      cases satisfied
    | error later =>
      rw [(Course.violated (sameSchema.trans resolved) conforms bound).analyzeNode_eq]
      exact ⟨by simp [nodeReport], fun _ => ⟨rfl, _, _, later, rfl⟩, by simp [nodeReport]⟩
  | constrained passed => exact ⟨by simp [nodeReport], by simp [nodeReport], fun _ => ⟨rfl, rfl⟩⟩

end Analysis

namespace ShapeInference

/-- A check and a run that both collect go through every node, and for each node what the run
reports refines what the check reports. -/
theorem run_refines_check (built : Built graph) (valid : graph.validate = .ok ())
    (registry : FrozenRegistry) (collect : options.errorPolicy = .collectAll) :
    ∃ checked inferred, Validation.check options registry graph = .ok checked ∧
      (run options registry graph).result = .ok inferred ∧
      checked.nodes.length = graph.nodes.length ∧ inferred.nodes.length = graph.nodes.length ∧
      ∀ (i : Nat) (early late : NodeReport), checked.nodes[i]? = some early →
        inferred.nodes[i]? = some late → early.Refines late := by
  have indexed := built.indexed
  have collected := inferNodes_collects indexed collect registry 0 graph.nodes
  refine ⟨_, ⟨"shape_inference", _⟩, Validation.check_collects collect registry valid,
    by simp only [run, valid, collected, Except.map], by simp,
    (reports_eq collected).2, ?_⟩
  intro i early late checkedHere inferredHere
  simp only [List.getElem?_map, Option.map_eq_some_iff] at inferredHere
  obtain ⟨analysis, analyzed, rfl⟩ := inferredHere
  obtain ⟨node, listed, found⟩ := analyzed_at indexed analyzed
  simp only [List.getElem?_mapIdx, listed, Option.map_some, Option.some.injEq] at checkedHere
  have reached := inferNodes_frame indexed registry options 0 (graph.nodes.take i)
  rw [← checkedHere, found, Nat.zero_add]
  exact Analysis.analyzeNode_refines (reached.2.opsetVersionFor_eq node) fun name =>
    inferNodes_raised indexed registry.raises_keepsElementType options 0 (graph.nodes.take i) name

/-- The second node has operands of two element types, and inference finds a third. -/
def laterClash : Graph :=
  let start := (GraphOf.empty.importOpset "" 1).addInput ⟨"x", { elementType := some .float32 }⟩
  let gates := start.1.addInput ⟨"gates", { elementType := some .float64 }⟩
  let lengths := gates.1.addInput ⟨"lengths", { elementType := some .float16 }⟩
  let first := lengths.1.addNode
    { opType := "ThresholdedRelu", inputs := ["x"], outputs := ["hidden"] }
  (first.1.addNode
    { opType := "GRUUnit", inputs := ["hidden", "gates", "lengths", "gates"],
      outputs := ["next"] }).1

theorem built_laterClash : Built laterClash :=
  .addNode (.addNode (.addInput (.addInput (.addInput (.importOpset .empty _ _) _) _) _) _) _

/-- The checker rejects the second node, and so does inference. -/
theorem run_refines_check_laterClash :
    laterClash.validate = .ok () ∧
      ∃ checked inferred early late,
        Validation.check {} .experimental laterClash = .ok checked ∧
        (run {} .experimental laterClash).result = .ok inferred ∧
        checked.nodes[1]? = some early ∧ inferred.nodes[1]? = some late ∧
        early.state = .attributesValidated ∧ late.state = .attributesValidated := by
  have valid : laterClash.validate = .ok () := by decide
  have collect : ({} : AnalysisOptions).errorPolicy = .collectAll := rfl
  obtain ⟨checked, inferred, done, ran, counted, reported, refined⟩ :=
    run_refines_check built_laterClash valid .experimental collect
  have states : (Validation.check {} .experimental laterClash).map (fun report =>
      report.nodes.map NodeReport.state) = .ok [.typesConstrained, .attributesValidated] := by cbv
  rw [done, Except.map, Except.ok.injEq] at states
  have second : (checked.nodes.map NodeReport.state)[1]? = some .attributesValidated := by
    rw [states]
    rfl
  rw [List.getElem?_map, Option.map_eq_some_iff] at second
  obtain ⟨early, checkedHere, rejected⟩ := second
  have bound : 1 < inferred.nodes.length := by
    rw [reported]
    decide
  have inferredHere := List.getElem?_eq_getElem bound
  refine ⟨valid, checked, inferred, early, _, done, ran, checkedHere, inferredHere, rejected, ?_⟩
  exact ((refined 1 early _ checkedHere inferredHere).rejected rejected).1

end ShapeInference

end ShapeFlow
