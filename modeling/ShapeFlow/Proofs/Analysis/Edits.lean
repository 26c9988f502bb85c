import ShapeFlow.Proofs.Analysis.Upheld
import ShapeFlow.Proofs.Graph.Correspondence

/-!
Histories of a graph. A graph is built, revised and inferred by edits in any order, and a run may
stop in the middle. At every point of a history names and ids correspond one to one, and nothing
that comes later moves a name or loses a descriptor.
-/

namespace ShapeFlow

open GraphOf

/-- What may be done to a graph. -/
inductive Edit where
  | addTensor (info : TensorInfo)
  | addInput (info : TensorInfo)
  | addInitializer (info : TensorInfo)
  | ensureTensor (name : String)
  | addNode (node : Node)
  | importOpset (domain : String) (version : Int)
  /-- Changes what is known about the tensor with an id. -/
  | revise (id : Nat) (change : TensorType → TensorType)
  /-- Infers the graph, with whatever operators. -/
  | infer (options : AnalysisOptions) (registry : FrozenRegistry)

namespace Edit

/-- Carries out an edit. The revision of a tensor that is not there is refused. -/
def apply (graph : Graph) : Edit → Graph
  | .addTensor info => (graph.addTensor info).1
  | .addInput info => (graph.addInput info).1
  | .addInitializer info => (graph.addInitializer info).1
  | .ensureTensor name => (graph.ensureTensor name).1
  | .addNode node => (graph.addNode node).1
  | .importOpset domain version => graph.importOpset domain version
  | .revise id change =>
    match (graph.tensor id).bind fun info => graph.setType id (change info.type) with
    | .ok revised => revised
    | .error _ => graph
  | .infer options registry => (ShapeInference.run options registry graph).graph

/-- Carries out edits one after the other. -/
def applyAll (graph : Graph) : List Edit → Graph
  | [] => graph
  | edit :: later => applyAll (apply graph edit) later

variable {graph : Graph}

theorem upheld {holds : Graph → Prop} (writes : Upheld holds) (start : holds graph)
    (adds : ∀ info, holds (graph.addTensor info).1 ∧ holds (graph.addInput info).1 ∧
      holds (graph.addInitializer info).1)
    (others : ∀ nodes imports, holds { graph with nodes, opsetImports := imports })
    (edit : Edit) : holds (apply graph edit) := by
  cases edit with
  | addTensor info => exact (adds info).1
  | addInput info => exact (adds info).2.1
  | addInitializer info => exact (adds info).2.2
  | ensureTensor name => exact writes.ensureTensor name start
  | addNode node => exact others _ _
  | importOpset domain version => exact others _ _
  | revise id change =>
    simp only [apply]
    split
    · rename_i revised accepted
      cases stored : graph.tensor id with
      | error problem => simp [stored, Except.bind] at accepted
      | ok info =>
        rw [stored] at accepted
        exact writes.setType start accepted
    · exact start
  | infer options registry => exact writes.run start options registry

theorem sound (before : graph.Sound) (edit : Edit) : (apply graph edit).Sound :=
  upheld ⟨fun name reached => reached.ensureTensor name, fun reached written =>
      reached.setType written⟩
    before (fun info => ⟨before.addTensor info, before.addInput info, before.addInitializer info⟩)
    (fun _ _ => before.of_same_lists rfl rfl rfl rfl) edit

theorem keepsIds (graph : Graph) (edit : Edit) : KeepsIds graph (apply graph edit) :=
  upheld ⟨fun name kept => kept.trans (.ensureTensor _ name), fun kept written =>
      kept.trans (.setType written)⟩
    (.refl graph)
    (fun info => ⟨.addTensor graph info, .addTensor graph info, .addTensor graph info⟩)
    (fun _ _ => .refl graph) edit

theorem applyAll_sound (before : graph.Sound) (edits : List Edit) :
    (applyAll graph edits).Sound := by
  induction edits generalizing graph with
  | nil => exact before
  | cons edit later ih => exact ih (sound before edit)

theorem applyAll_keepsIds (graph : Graph) (edits : List Edit) :
    KeepsIds graph (applyAll graph edits) := by
  induction edits generalizing graph with
  | nil => exact .refl graph
  | cons edit later ih => exact (keepsIds graph edit).trans (ih (apply graph edit))

/-- What holds of a graph in the middle of a history, whatever comes later. -/
structure Maintained (graph : Graph) : Prop where
  table : graph.Corresponds
  inputs : Listed graph.tensors graph.inputs
  initializers : Listed graph.tensors graph.initializers
  /-- No name changes its id. -/
  stable : ∀ later : List Edit, KeepsIds graph (applyAll graph later)
  /-- No descriptor disappears or changes its name. -/
  lasting : ∀ (later : List Edit) (id : Nat) (info : TensorInfo), graph.tensor id = .ok info →
    ∃ kept, (applyAll graph later).tensor id = .ok kept ∧ kept.name = info.name
  /-- A tensor that is added replaces the descriptor of its name, in whatever role it is added. -/
  replaces : ∀ info, Replaces graph info (graph.addTensor info) ∧
    Replaces graph info (graph.addInput info) ∧ Replaces graph info (graph.addInitializer info)

/-- Every graph that edits make of the empty one is maintained. -/
theorem applyAll_maintained (edits : List Edit) : Maintained (applyAll .empty edits) := by
  have reached : (applyAll .empty edits).Sound := applyAll_sound .empty edits
  generalize applyAll .empty edits = graph at reached
  constructor
  case table => exact reached.corresponds
  case inputs => exact reached.inputs
  case initializers => exact reached.initializers
  case stable => exact applyAll_keepsIds graph
  case lasting =>
    intro later id info stored
    have named := reached.indexed.named (tensor_eq_ok_iff.mp stored)
    exact (applyAll_sound reached later).corresponds.called _ _
      (applyAll_keepsIds graph later named)
  case replaces =>
    intro info
    have added := Replaces.addTensor reached.indexed info
    exact ⟨added, added.of_same_table rfl rfl rfl, added.of_same_table rfl rfl rfl⟩

end Edit

end ShapeFlow
