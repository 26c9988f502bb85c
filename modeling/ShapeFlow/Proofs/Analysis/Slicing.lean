import ShapeFlow.Catalogue
import ShapeFlow.Proofs.Analysis.Agreement
import ShapeFlow.Proofs.Graph.Slice

/-!
Runs over slices. A slice holds every node on which its nodes depend, so they are found to be the
same whether the other nodes are analyzed too, are changed, or are left out.
-/

namespace ShapeFlow.ShapeInference

open GraphOf

variable {registry : FrozenRegistry} {options : AnalysisOptions} {graph : Graph}
  {node : Node} {nodes part : List Node}

/-- Two runs report the same about a node and leave the same descriptors of its outputs. -/
structure SameNode (first second : GraphRun PassReport) (node : Node) (i j : Nat) : Prop where
  reported : ∃ report other, first.result = .ok report ∧ second.result = .ok other ∧
    SameEntry report.nodes other.nodes i j
  described : ∀ name ∈ node.presentOutputs, ∃ type,
    first.graph.tensorNamed name = .ok ⟨name, type⟩ ∧
      second.graph.tensorNamed name = .ok ⟨name, type⟩

namespace SameNode

variable {first second third : GraphRun PassReport} {i j k : Nat}

theorem symm (same : SameNode first second node i j) : SameNode second first node j i := by
  constructor
  · obtain ⟨report, other, ended, endedOther, entry⟩ := same.reported
    exact ⟨other, report, endedOther, ended, entry.symm⟩
  · intro name present
    obtain ⟨type, here, there⟩ := same.described name present
    exact ⟨type, there, here⟩

theorem trans (left : SameNode first second node i j) (right : SameNode second third node j k) :
    SameNode first third node i k := by
  constructor
  · obtain ⟨report, middle, ended, endedMiddle, entry⟩ := left.reported
    obtain ⟨again, other, endedAgain, endedOther, next⟩ := right.reported
    have same : middle = again := Except.ok.inj (endedMiddle.symm.trans endedAgain)
    subst again
    exact ⟨report, other, ended, endedOther, entry.trans next⟩
  · intro name present
    obtain ⟨type, here, middle⟩ := left.described name present
    obtain ⟨again, same, there⟩ := right.described name present
    have sameInfo : (⟨name, type⟩ : TensorInfo) = ⟨name, again⟩ :=
      Except.ok.inj (middle.symm.trans same)
    exact ⟨type, here, by rw [there, sameInfo]⟩

end SameNode

private theorem slice_agrees (indexed : graph.Indexed)
    (collect : options.errorPolicy = .collectAll) (registry : FrozenRegistry)
    (validPart : (graph.withNodes part).validate = .ok ())
    (singlePart : (graph.withNodes part).SingleAssignment)
    (valid : (graph.withNodes nodes).validate = .ok ())
    (single : (graph.withNodes nodes).SingleAssignment) (shared : ∀ node ∈ part, node ∈ nodes)
    {i j : Nat} (here : part[i]? = some node) (there : nodes[j]? = some node) :
    SameNode (run options registry (graph.withNodes part))
      (run options registry (graph.withNodes nodes)) node i j := by
  have same : SameDeclarations (graph.withNodes part) (graph.withNodes nodes) := ⟨rfl, rfl, rfl⟩
  have indexedPart : (graph.withNodes part).Indexed := indexed.of_same_table rfl rfl
  have indexedWhole : (graph.withNodes nodes).Indexed := indexed.of_same_table rfl rfl
  obtain ⟨report, ended, left⟩ := run_settlement indexedPart collect registry validPart singlePart
  obtain ⟨other, endedOther, right⟩ := run_settlement indexedWhole collect registry valid single
  obtain ⟨_, ordered⟩ := validate_eq_ok_iff.mp validPart
  constructor
  · exact ⟨report, other, ended, endedOther,
      left.entry_eq right same ordered shared single.fresh here there⟩
  · intro name present
    have made : name ∈ produced part :=
      mem_produced.mpr ⟨node, List.mem_of_getElem? here, present⟩
    have described := left.produced_described made
    have agreed := left.tensorNamed_eq right same ordered shared single.fresh fun _ => made
    exact ⟨_, described, agreed.symm.trans described⟩

/-- A run over a slice finds out the same about its nodes as a run over the whole graph. Hence it
does not matter to them how the other nodes are changed. -/
theorem run_slice (built : Built graph) (single : graph.SingleAssignment)
    (collect : options.errorPolicy = .collectAll) (registry : FrozenRegistry)
    (valid : graph.validate = .ok ()) (slice : graph.Slice part) :
    (∀ (i j : Nat) (node : Node), graph.nodes[i]? = some node → part[j]? = some node →
      SameNode (run options registry graph) (run options registry (graph.withNodes part))
        node i j) ∧
    ∀ nodes : List Node, part.Sublist nodes → (graph.withNodes nodes).validate = .ok () →
      (graph.withNodes nodes).SingleAssignment →
      ∀ (i j : Nat) (node : Node), node ∈ part → graph.nodes[i]? = some node →
        nodes[j]? = some node →
        SameNode (run options registry graph) (run options registry (graph.withNodes nodes))
          node i j := by
  have validPart := slice.validate valid single
  have singlePart := slice.single single
  have whole : ∀ (i j : Nat) (node : Node), graph.nodes[i]? = some node → part[j]? = some node →
      SameNode (run options registry graph) (run options registry (graph.withNodes part))
        node i j := by
    intro i j node here there
    exact (slice_agrees built.indexed collect registry validPart singlePart valid single
      (fun node kept => slice.listed.subset kept) there here).symm
  refine ⟨whole, ?_⟩
  intro nodes listed validChanged singleChanged i j node kept here there
  obtain ⟨k, place⟩ := List.mem_iff_getElem?.mp kept
  have changed := slice_agrees built.indexed collect registry validPart singlePart validChanged
    singleChanged (fun node kept => listed.subset kept) place there
  exact (whole i k node here place).trans changed

private theorem slice_twoBranches : twoBranches.Slice scaledBranch :=
  ⟨List.sublist_append_left _ _, by decide⟩

/-- A branch comes out the same without the other one, or behind a part of it. -/
theorem run_slice_twoBranches :
    SameNode (run {} .experimental twoBranches)
      (run {} .experimental (twoBranches.withNodes scaledBranch)) scaledTanh 1 1 ∧
    SameNode (run {} .experimental twoBranches)
      (run {} .experimental (twoBranches.withNodes (brokenBranch.take 1 ++ scaledBranch)))
      scaledTanh 1 2 := by
  have collect : ({} : AnalysisOptions).errorPolicy = .collectAll := rfl
  obtain ⟨alone, within⟩ := run_slice built_twoBranches single_twoBranches collect .experimental
    rfl slice_twoBranches
  have single : (twoBranches.withNodes (brokenBranch.take 1 ++ scaledBranch)).SingleAssignment :=
    ⟨by decide, by decide⟩
  have kept : scaledTanh ∈ scaledBranch := List.mem_cons_of_mem _ List.mem_cons_self
  exact ⟨alone 1 1 scaledTanh rfl rfl,
    within _ (List.sublist_append_right _ _) rfl single 1 2 scaledTanh kept rfl rfl⟩

end ShapeFlow.ShapeInference
