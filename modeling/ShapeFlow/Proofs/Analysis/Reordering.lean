import ShapeFlow.Catalogue
import ShapeFlow.Proofs.Analysis.Agreement

/-!
Runs do not depend on the order of the nodes. Two valid orders of the same nodes may create the
missing descriptors in another order, but by name they end with the same descriptors, and each node
is found to be the same.
-/

namespace ShapeFlow.ShapeInference

open GraphOf

variable {registry : FrozenRegistry} {options : AnalysisOptions} {graph : Graph}
  {reordered : List Node}

private theorem single_reordered (perm : reordered.Perm graph.nodes)
    (single : graph.SingleAssignment) :
    (graph.withNodes reordered).SingleAssignment := by
  have same : (produced reordered).Perm (produced graph.nodes) := perm.flatMap_right _
  constructor
  · exact same.nodup_iff.mpr single.distinct
  · intro name made
    exact single.fresh name (same.mem_iff.mp made)

/-- Runs over two valid orders of the same nodes end with the same descriptors, name by name, and
say the same about each node, up to the place of the node. -/
theorem run_reordered (built : Built graph) (single : graph.SingleAssignment)
    (collect : options.errorPolicy = .collectAll) (registry : FrozenRegistry)
    (perm : reordered.Perm graph.nodes) (valid : graph.validate = .ok ())
    (validReordered : (graph.withNodes reordered).validate = .ok ()) :
    (∀ name, (run options registry (graph.withNodes reordered)).graph.tensorNamed name =
      (run options registry graph).graph.tensorNamed name) ∧
    ∃ report rereport, (run options registry graph).result = .ok report ∧
      (run options registry (graph.withNodes reordered)).result = .ok rereport ∧
      report.nodes.length = graph.nodes.length ∧
      rereport.nodes.length = graph.nodes.length ∧
      ∀ (i j : Nat) (node : Node), graph.nodes[i]? = some node → reordered[j]? = some node →
        SameEntry report.nodes rereport.nodes i j := by
  have same : SameDeclarations (graph.withNodes reordered) graph := ⟨rfl, rfl, rfl⟩
  have indexed := built.indexed
  obtain ⟨report, ended, whole⟩ := run_settlement indexed collect registry valid single
  have indexedAgain : (graph.withNodes reordered).Indexed := indexed.of_same_table rfl rfl
  obtain ⟨rereport, endedAgain, again⟩ := run_settlement indexedAgain collect registry
    validReordered (single_reordered perm single)
  obtain ⟨_, ordered⟩ := validate_eq_ok_iff.mp validReordered
  have shared : ∀ node ∈ reordered, node ∈ graph.nodes := fun node member => perm.mem_iff.mp member
  constructor
  · intro name
    refine again.tensorNamed_eq whole same ordered shared single.fresh fun made => ?_
    obtain ⟨node, listed, present⟩ := mem_produced.mp made
    exact mem_produced.mpr ⟨node, perm.mem_iff.mpr listed, present⟩
  · refine ⟨report, rereport, ended, endedAgain, whole.reported, ?_, ?_⟩
    · rw [again.reported]
      exact perm.length_eq
    · intro i j node here there
      exact (again.entry_eq whole same ordered shared single.fresh there here).symm

/-- Two branches may change places, even though one of them fails. -/
theorem run_reordered_twoBranches :
    (brokenBranch ++ scaledBranch).Perm twoBranches.nodes ∧
      ∃ report rereport, (run {} .experimental twoBranches).result = .ok report ∧
        (run {} .experimental (twoBranches.withNodes (brokenBranch ++ scaledBranch))).result =
          .ok rereport ∧
        SameEntry report.nodes rereport.nodes 0 2 ∧ SameEntry report.nodes rereport.nodes 2 0 := by
  have swapped : (brokenBranch ++ scaledBranch).Perm twoBranches.nodes := List.perm_append_comm
  have collect : ({} : AnalysisOptions).errorPolicy = .collectAll := rfl
  obtain ⟨_, report, rereport, ended, endedAgain, _, _, same⟩ :=
    run_reordered built_twoBranches single_twoBranches collect .experimental swapped rfl rfl
  exact ⟨swapped, report, rereport, ended, endedAgain, same 0 2 _ rfl rfl, same 2 0 _ rfl rfl⟩

end ShapeFlow.ShapeInference
