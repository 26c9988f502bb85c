import ShapeFlow.Proofs.Analysis.Settled

/-!
Agreement of two collecting runs. If one graph has every node of the other, both declare the same,
and the smaller node list is in order by itself, then the runs agree on each node they share: on its
report up to the place of the node, and on the final descriptors of its outputs.
-/

namespace ShapeFlow.ShapeInference

open GraphOf

variable {registry : FrozenRegistry} {options : AnalysisOptions} {node : Node} {name : String}
  {first second firstFinal secondFinal : Graph} {entries others : List NodeReport}
  {available : List String}

/-- Two graphs that declare the same tensors and import the same opset versions. -/
structure SameDeclarations (first second : Graph) : Prop where
  tensors : first.tensors = second.tensors
  tensorInfo : first.tensorInfo = second.tensorInfo
  opsetImports : first.opsetImports = second.opsetImports

theorem SameDeclarations.typeOf_eq (same : SameDeclarations first second) :
    first.typeOf = second.typeOf :=
  typeOf_of_same_table same.tensors same.tensorInfo

/-- Two reports say the same about a node that has a place in each. -/
def SameEntry (entries others : List NodeReport) (i j : Nat) : Prop :=
  ∃ entry : NodeReport, entries[i]? = some (entry.renumber i) ∧
    others[j]? = some (entry.renumber j)

theorem SameEntry.symm {i j : Nat} (same : SameEntry entries others i j) :
    SameEntry others entries j i := by
  obtain ⟨entry, here, there⟩ := same
  exact ⟨entry, there, here⟩

theorem SameEntry.trans {further : List NodeReport} {i j k : Nat}
    (left : SameEntry entries others i j) (right : SameEntry others further j k) :
    SameEntry entries further i k := by
  obtain ⟨entry, here, middle⟩ := left
  obtain ⟨other, again, there⟩ := right
  have same : entry.renumber j = other.renumber j := Option.some.inj (middle.symm.trans again)
  refine ⟨entry, here, ?_⟩
  rw [there, ← NodeReport.renumber_renumber entry j k, same, NodeReport.renumber_renumber]

namespace Settlement

theorem produced_described (settlement : Settlement registry options first firstFinal entries)
    (made : name ∈ produced first.nodes) :
    firstFinal.tensorNamed name = .ok ⟨name, firstFinal.typeOf name⟩ := by
  rw [settlement.indexed.tensorNamed_eq, if_pos ((settlement.described name).mpr (.inl made))]

section Part

variable (left : Settlement registry options first firstFinal entries)
  (right : Settlement registry options second secondFinal others)
  (same : SameDeclarations first second)
  (ordered : checkOrder available first.nodes = .ok ())
  (shared : ∀ node ∈ first.nodes, node ∈ second.nodes)
  (fresh : ∀ name ∈ produced second.nodes, name ∉ available)

include shared in
private theorem produced_subset (made : name ∈ produced first.nodes) :
    name ∈ produced second.nodes := by
  obtain ⟨producer, listed, present⟩ := mem_produced.mp made
  exact mem_produced.mpr ⟨producer, shared producer listed, present⟩

include left right same shared in
private theorem outside_eq (absent : name ∉ produced second.nodes) :
    firstFinal.typeOf name = secondFinal.typeOf name := by
  have absentFirst : name ∉ produced first.nodes :=
    fun made => absent (produced_subset shared made)
  rw [left.outside name absentFirst, right.outside name absent, same.typeOf_eq]

include left right same ordered shared fresh

private theorem operands_eq : ∀ node ∈ first.nodes,
    (∀ input ∈ node.inputs, input ≠ "" → firstFinal.typeOf input = secondFinal.typeOf input) ∧
      ∀ output ∈ node.outputs, firstFinal.typeOf output = secondFinal.typeOf output := by
  refine checkOrder_induction ordered (fun name ready => ?_) fun node member inputs => ?_
  · exact left.outside_eq right same shared fun made => fresh name made ready
  · intro output listed
    by_cases absent : output = ""
    · subst absent
      exact left.outside_eq right same shared (empty_not_produced second.nodes)
    · obtain ⟨i, here⟩ := List.mem_iff_getElem?.mp member
      obtain ⟨j, there⟩ := List.mem_iff_getElem?.mp (shared node member)
      obtain ⟨_, _, settled⟩ := left.settled i node here
      obtain ⟨_, _, settledOther⟩ := right.settled j node there
      exact settled.outputs_eq settledOther same.opsetImports same.typeOf_eq inputs output
        (NodeOf.mem_presentOutputs.mpr ⟨listed, absent⟩)

theorem entry_eq {i j : Nat} (here : first.nodes[i]? = some node)
    (there : second.nodes[j]? = some node) :
    SameEntry entries others i j := by
  obtain ⟨inputs, _⟩ := left.operands_eq right same ordered shared fresh node
    (List.mem_of_getElem? here)
  obtain ⟨found, listed, settled⟩ := left.settled i node here
  obtain ⟨other, listedOther, settledOther⟩ := right.settled j node there
  have numbered := settled.eq_renumber settled rfl rfl fun _ _ _ => rfl
  have renumbered := settled.eq_renumber settledOther same.opsetImports same.typeOf_eq inputs
  refine ⟨found.report, ?_, ?_⟩
  · rw [listed]
    exact congrArg (some ∘ NodeAnalysis.report) numbered
  · rw [listedOther, renumbered]

/-- The two runs leave the same descriptor under a name, unless only the larger one produces it. -/
theorem tensorNamed_eq (covered : name ∈ produced second.nodes → name ∈ produced first.nodes) :
    firstFinal.tensorNamed name = secondFinal.tensorNamed name := by
  have sameType : firstFinal.typeOf name = secondFinal.typeOf name := by
    by_cases made : name ∈ produced second.nodes
    · obtain ⟨node, listed, present⟩ := mem_produced.mp (covered made)
      exact (left.operands_eq right same ordered shared fresh node listed).2 name
        (NodeOf.mem_presentOutputs.mp present).1
    · exact left.outside_eq right same shared made
  have sameNames : firstFinal.tensors.contains name = secondFinal.tensors.contains name := by
    rw [Bool.eq_iff_iff, left.described, right.described, same.tensors]
    exact or_congr_left ⟨produced_subset shared, covered⟩
  rw [left.indexed.tensorNamed_eq, right.indexed.tensorNamed_eq, sameType, sameNames]

end Part

end Settlement

/-- Callers provide one matrix of floats. -/
def matrixGiven : Graph :=
  ((GraphOf.empty.importOpset "" 1).addInput
    ⟨"x", { elementType := some .float32, shape := .ranked [.symbol "n", .size 3] }⟩).1

def scaledTanh : Node :=
  { opType := "ScaledTanh", inputs := ["a"], outputs := ["b"] }

/-- A branch that can be inferred. -/
def scaledBranch : List Node :=
  [{ opType := "Scale", inputs := ["x"], outputs := ["a"] }, scaledTanh]

/-- A branch that fails at once, since a size is negative. -/
def brokenBranch : List Node :=
  [{ opType := "GivenTensorFill", inputs := ["x"], outputs := ["c"],
     attributes := .ofList [("shape", .ints [-1])] },
    { opType := "Scale", inputs := ["c"], outputs := ["d"] }]

def twoBranches : Graph :=
  matrixGiven.withNodes (scaledBranch ++ brokenBranch)

theorem built_twoBranches : Built twoBranches :=
  .addNode (.addNode (.addNode (.addNode (.addInput (.importOpset .empty _ _) _) _) _) _) _

theorem single_twoBranches : twoBranches.SingleAssignment :=
  ⟨by decide, by decide⟩

end ShapeFlow.ShapeInference
