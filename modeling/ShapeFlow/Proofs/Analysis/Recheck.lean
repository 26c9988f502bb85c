import Mathlib
import ShapeFlow.Proofs.Analysis.Checker
import ShapeFlow.Proofs.Analysis.Revisit

/-!
Checking an inferred graph. Inference checks the inputs of a node with the declared types of its
outputs, and what it stages against the bindings that these leave. The checker then reads the inputs
and the committed outputs in one go, and it finds the same.
-/

namespace ShapeFlow

open GraphOf

variable {registry : FrozenRegistry} {options : AnalysisOptions} {graph seen final : Graph}
  {node : Node} {index : Nat}

/-- What the checker finds of a node in a graph of which inference has reported. -/
structure NodeReport.Rechecked (registry : FrozenRegistry) (final : Graph) (node : Node)
    (inferred checked : NodeReport) : Prop where
  /-- A node that inference rejects is rejected in the same way. -/
  stopped : inferred.state ∈ [.unresolved, .schemaResolved, .attributesValidated] →
    checked = inferred
  /-- A node that gets to its inference passes, whether or not the inference succeeds. -/
  reached : inferred.state ∈
      [.shapeInferred, .inferenceSkipped, .noInferenceFunction, .inferenceFailed] →
    checked.state = .typesConstrained ∧ checked.diagnostics = []
  /-- What is known of its outputs then suits what is known of its inputs. -/
  consistent : inferred.state ∈
      [.shapeInferred, .inferenceSkipped, .noInferenceFunction, .inferenceFailed] →
    ∃ schema, Analysis.resolveSchema registry final node = .ok schema ∧
      Analysis.OperandsConsistent schema final node

namespace Analysis

private theorem rechecked_of_constrained {schema : Schema} {bindings : TypeBindings}
    (passed : Constrained registry final node schema bindings) {inferred : NodeReport}
    (entered : inferred.state ∉ [.unresolved, .schemaResolved, .attributesValidated]) :
    NodeReport.Rechecked registry final node inferred
      (analyzeNode registry options .validate final index node).report := by
  rw [(Course.constrained passed).analyzeNode_eq]
  exact ⟨fun rejected => absurd rejected entered, fun _ => ⟨rfl, rfl⟩,
    fun _ => ⟨schema, passed.resolved, bindTypes_ok_iff.mp ⟨bindings, passed.bound⟩⟩⟩

/-- A checker that comes back to a node confirms what inference reported. -/
theorem analyzeNode_rechecked {analysis : NodeAnalysis}
    (found : analysis = analyzeNode registry options .infer seen index node)
    (revisits : Revisits seen final node analysis.staged) :
    NodeReport.Rechecked registry final node analysis.report
      (analyzeNode registry options .validate final index node).report := by
  have course := analyzeNode_course registry options .infer seen index node
  rw [← found] at course
  clear found
  have resolvedAgain : resolveSchema registry final node = resolveSchema registry seen node :=
    resolveSchema_congr revisits.opsetVersion
  cases course with
  | unresolved missing =>
    rw [(Course.unresolved (resolvedAgain.trans missing)).analyzeNode_eq]
    exact ⟨fun _ => rfl, by simp [nodeReport], by simp [nodeReport]⟩
  | unfit resolved found =>
    rw [(Course.unfit (resolvedAgain.trans resolved) found).analyzeNode_eq]
    exact ⟨fun _ => rfl, by simp [nodeReport], by simp [nodeReport]⟩
  | violated resolved conforms violates =>
    rw [analyzeNode_congr revisits.agree,
      (Course.violated resolved conforms violates).analyzeNode_eq]
    exact ⟨fun _ => rfl, by simp [nodeReport], by simp [nodeReport]⟩
  | uninferred passed | failed passed | miswritten passed =>
    exact rechecked_of_constrained (passed.of_agree revisits.agree) (by simp [nodeReport])
  | inferred passed declared ended accepted =>
    rename_i outcome
    obtain ⟨assigned, suited⟩ := passed.accepted accepted
    obtain ⟨again, passedAgain, _⟩ := revisits.constrained passed suited
    refine rechecked_of_constrained passedAgain ?_
    cases outcome <;> simp [nodeReport, outcomeState]

end Analysis

namespace ShapeInference

/-- The graph that a collecting run leaves passes the checker but for the nodes that the run
rejected, and these are reported as they were. -/
theorem run_rechecked (built : Built graph) (single : graph.SingleAssignment)
    (registry : FrozenRegistry) (collect : options.errorPolicy = .collectAll) {report : PassReport}
    (done : (run options registry graph).result = .ok report) :
    ∃ checked, Validation.check options registry (run options registry graph).graph = .ok checked ∧
      report.nodes.length = graph.nodes.length ∧ checked.nodes.length = graph.nodes.length ∧
      ∀ (i : Nat) (node : Node) (inferred again : NodeReport), graph.nodes[i]? = some node →
        report.nodes[i]? = some inferred → checked.nodes[i]? = some again →
          NodeReport.Rechecked registry (run options registry graph).graph node inferred again := by
  have indexed := built.indexed
  cases valid : graph.validate with
  | error problem =>
    simp only [run, valid] at done
    cases done
  | ok _ =>
    obtain ⟨settledReport, ended, settlement⟩ :=
      run_settlement indexed collect registry valid single
    rw [done] at ended
    cases ended
    obtain ⟨_, frame⟩ := inferNodes_frame indexed registry options 0 graph.nodes
    have final : (run options registry graph).graph =
        (inferNodes registry options 0 graph.nodes graph).graph := by
      simp only [run, valid]
    have validAgain := validate_inferNodes indexed registry options 0 graph.nodes valid
    rw [← final] at frame validAgain
    refine ⟨_, Validation.check_collects collect registry validAgain, settlement.reported,
      by simp [frame.nodes], ?_⟩
    intro i node inferred again listed reported checkedHere
    obtain ⟨analysis, analyzed, settled⟩ := settlement.settled i node listed
    rw [reported] at analyzed
    cases analyzed
    obtain ⟨seen, found, revisits⟩ := settled.revisits (frame.opsetVersionFor_eq node)
    simp only [List.getElem?_mapIdx, frame.nodes, listed, Option.map_some, Option.some.injEq]
      at checkedHere
    rw [← checkedHere]
    exact Analysis.analyzeNode_rechecked found revisits

/-- The first node passes and the second one is rejected as before, by the element type that was
inferred for its first input. -/
theorem run_rechecked_laterClash :
    laterClash.SingleAssignment ∧
      ∃ report checked, (run {} .experimental laterClash).result = .ok report ∧
        report.nodes.map NodeReport.state = [.shapeInferred, .attributesValidated] ∧
        Validation.check {} .experimental (run {} .experimental laterClash).graph = .ok checked ∧
        checked.nodes[0]?.map NodeReport.state = some .typesConstrained ∧
        checked.nodes[1]? = report.nodes[1]? := by
  have single : laterClash.SingleAssignment := ⟨by decide, by decide⟩
  have collect : ({} : AnalysisOptions).errorPolicy = .collectAll := rfl
  have states : (run {} .experimental laterClash).result.map (fun report =>
      report.nodes.map NodeReport.state) = .ok [.shapeInferred, .attributesValidated] := by cbv
  cases done : (run {} .experimental laterClash).result with
  | error problem => simp [done, Except.map] at states
  | ok report =>
    rw [done, Except.map, Except.ok.injEq] at states
    obtain ⟨checked, again, reported, counted, rechecked⟩ :=
      run_rechecked built_laterClash single .experimental collect done
    have node (i : Nat) (inside : i < 2) : ∃ inferred late, report.nodes[i]? = some inferred ∧
        checked.nodes[i]? = some late ∧
        [NodeState.shapeInferred, .attributesValidated][i]? = some inferred.state ∧
        NodeReport.Rechecked .experimental (run {} .experimental laterClash).graph
          laterClash.nodes[i] inferred late := by
      have here := List.getElem?_eq_getElem (reported.symm ▸ inside : i < report.nodes.length)
      have there := List.getElem?_eq_getElem (counted.symm ▸ inside : i < checked.nodes.length)
      refine ⟨_, _, here, there, ?_, rechecked i _ _ _ (List.getElem?_eq_getElem inside) here there⟩
      rw [← states, List.getElem?_map, here, Option.map_some]
    obtain ⟨first, firstAgain, _, there, inferred, accepted⟩ := node 0 (by decide)
    obtain ⟨second, secondAgain, here, thereToo, violated, rejected⟩ := node 1 (by decide)
    have firstState : first.state = .shapeInferred := (Option.some.inj inferred).symm
    have secondState : second.state = .attributesValidated := (Option.some.inj violated).symm
    refine ⟨single, report, checked, rfl, states, again, ?_, ?_⟩
    · rw [there, Option.map_some, (accepted.reached (by simp [firstState])).1]
    · rw [thereToo, here, rejected.stopped (by simp [secondState])]

end ShapeInference

end ShapeFlow
