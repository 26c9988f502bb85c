import ShapeFlow.Proofs.Graph.Order

/-!
Graphs that differ in their nodes alone. The table of tensors does not depend on the nodes, and
the first nodes of a valid graph make a valid graph.
-/

namespace ShapeFlow.GraphOf

variable {α : Type} {graph : GraphOf α} {available : List String} {nodes others : List (NodeOf α)}

theorem withNodes_withNodes {before after : GraphOf α} (kept : after.nodes = before.nodes)
    (others : List (NodeOf α)) : (after.withNodes others).withNodes before.nodes = after := by
  rw [← kept]
  rfl

theorem ensureTensor_withNodes (graph : GraphOf α) (others : List (NodeOf α)) (name : String) :
    (graph.withNodes others).ensureTensor name =
      ((graph.ensureTensor name).1.withNodes others, (graph.ensureTensor name).2) := by
  cases found : graph.tensors.get? name <;>
    simp [ensureTensor, addTensor, withNodes, found]

theorem setType_withNodes (graph : GraphOf α) (others : List (NodeOf α)) (id : Nat)
    (type : TensorType) :
    (graph.withNodes others).setType id type =
      (graph.setType id type).map (·.withNodes others) := by
  cases stored : graph.tensorInfo[id]? <;> simp [setType, withNodes, stored, Except.map]

theorem checkOrder_take (ordered : checkOrder available nodes = .ok ()) (count : Nat) :
    checkOrder available (nodes.take count) = .ok () := by
  induction nodes generalizing available count with
  | nil => simpa using ordered
  | cons head rest ih =>
    cases count with
    | zero => rfl
    | succ count =>
      obtain ⟨reads, later⟩ := checkOrder_cons_iff.mp ordered
      rw [List.take_succ_cons]
      exact checkOrder_cons_iff.mpr ⟨reads, ih later count⟩

/-- The first nodes of a valid graph read only what is provided to them. -/
theorem validate_take (valid : graph.validate = .ok ()) (count : Nat) :
    (graph.withNodes (graph.nodes.take count)).validate = .ok () := by
  obtain ⟨mapped, ordered⟩ := validate_eq_ok_iff.mp valid
  exact validate_eq_ok_iff.mpr ⟨mapped, checkOrder_take ordered count⟩

end ShapeFlow.GraphOf
