import Mathlib.Data.List.Nodup
import ShapeFlow.Graph.Availability

/-!
The order of nodes. A valid graph lists each node after the nodes that produce what it reads, so
what holds of everything available at the start, and is handed on by every node, holds of all that
is ever read or produced.
-/

namespace ShapeFlow

variable {α : Type}

/-- The outputs of a node that are not absent. -/
def NodeOf.presentOutputs (node : NodeOf α) : List String :=
  node.outputs.filter (· != "")

@[simp] theorem NodeOf.mem_presentOutputs {node : NodeOf α} {name : String} :
    name ∈ node.presentOutputs ↔ name ∈ node.outputs ∧ name ≠ "" := by
  simp [NodeOf.presentOutputs]

namespace GraphOf

variable {graph : GraphOf α} {available : List String} {node : NodeOf α} {nodes : List (NodeOf α)}

/-- Every name that nodes produce, once for each time it is produced. -/
def produced (nodes : List (NodeOf α)) : List String :=
  nodes.flatMap NodeOf.presentOutputs

@[simp] theorem produced_nil : produced ([] : List (NodeOf α)) = [] := rfl

@[simp] theorem produced_cons (node : NodeOf α) (rest : List (NodeOf α)) :
    produced (node :: rest) = node.presentOutputs ++ produced rest := by
  simp [produced]

theorem mem_produced {name : String} :
    name ∈ produced nodes ↔ ∃ node ∈ nodes, name ∈ node.presentOutputs := by
  simp [produced]

theorem empty_not_produced (nodes : List (NodeOf α)) : "" ∉ produced nodes := by
  intro made
  obtain ⟨_, _, present⟩ := mem_produced.mp made
  exact (NodeOf.mem_presentOutputs.mp present).2 rfl

/-- No name is produced twice, and none is produced that callers or constants provide. -/
structure SingleAssignment (graph : GraphOf α) : Prop where
  distinct : (produced graph.nodes).Nodup
  fresh : ∀ name ∈ produced graph.nodes, name ∉ graph.inputs ++ graph.initializers

/-- The graph with other nodes. -/
def withNodes (graph : GraphOf α) (nodes : List (NodeOf α)) : GraphOf α :=
  { graph with nodes }

/-- What comes after a node is fresh for whoever may read the outputs of the node. -/
theorem fresh_after {rest : List (NodeOf α)}
    (distinct : (node.presentOutputs ++ produced rest).Nodup)
    (fresh : ∀ name ∈ produced (node :: rest), name ∉ available) :
    ∀ name ∈ produced rest, name ∉ available ++ node.outputs := by
  intro name member listed
  rcases List.mem_append.mp listed with ready | made
  · have later : name ∈ produced (node :: rest) := by
      rw [produced_cons]
      exact List.mem_append_right _ member
    exact fresh name later ready
  · obtain ⟨_, _, present⟩ := mem_produced.mp member
    have named := (NodeOf.mem_presentOutputs.mp present).2
    have first : name ∈ node.presentOutputs := NodeOf.mem_presentOutputs.mpr ⟨made, named⟩
    exact (List.nodup_append.mp distinct).2.2 name first name member rfl

theorem unavailableInput?_eq_none_iff :
    unavailableInput? available node = none ↔
      ∀ input ∈ node.inputs, input ≠ "" → input ∈ available := by
  simp [unavailableInput?]

/-- The first node reads what is available, and the others may read its outputs too. -/
theorem checkOrder_cons_iff {rest : List (NodeOf α)} :
    checkOrder available (node :: rest) = .ok () ↔
      (∀ input ∈ node.inputs, input ≠ "" → input ∈ available) ∧
        checkOrder (available ++ node.outputs) rest = .ok () := by
  rw [← unavailableInput?_eq_none_iff, checkOrder]
  split <;> simp_all

/-- The order is right exactly when each node reads what is available at the start or what an
earlier node produces. -/
theorem checkOrder_eq_ok_iff :
    checkOrder available nodes = .ok () ↔
      ∀ (i : Nat) (node : NodeOf α), nodes[i]? = some node → ∀ input ∈ node.inputs, input ≠ "" →
        input ∈ available ∨ ∃ j < i, ∃ producer : NodeOf α, nodes[j]? = some producer ∧
          input ∈ producer.outputs := by
  induction nodes generalizing available with
  | nil => simp [checkOrder]
  | cons head rest ih =>
    rw [checkOrder_cons_iff, ih]
    constructor
    · rintro ⟨reads, later⟩ i node present input listed named
      cases i with
      | zero =>
        simp only [List.getElem?_cons_zero, Option.some.injEq] at present
        exact .inl (reads input (present ▸ listed) named)
      | succ i =>
        rcases later i node present input listed named with
          ready | ⟨j, before, producer, at_j, made⟩
        · rcases List.mem_append.mp ready with ready | made
          · exact .inl ready
          · exact .inr ⟨0, Nat.zero_lt_succ i, head, rfl, made⟩
        · exact .inr ⟨j + 1, Nat.succ_lt_succ before, producer, at_j, made⟩
    · intro provided
      refine ⟨fun input listed named => ?_, fun i node present input listed named => ?_⟩
      · rcases provided 0 head rfl input listed named with ready | ⟨j, before, _⟩
        · exact ready
        · exact absurd before (Nat.not_lt_zero j)
      · rcases provided (i + 1) node present input listed named with
          ready | ⟨j, before, producer, at_j, made⟩
        · exact .inl (List.mem_append_left _ ready)
        · cases j with
          | zero =>
            simp only [List.getElem?_cons_zero, Option.some.injEq] at at_j
            exact .inl (List.mem_append_right _ (at_j ▸ made))
          | succ j => exact .inr ⟨j, Nat.lt_of_succ_lt_succ before, producer, at_j, made⟩

/-- What holds of all that is available, and of a node's outputs whenever it holds of its inputs,
holds of everything that is read or produced. -/
theorem checkOrder_induction {holds : String → Prop} (ordered : checkOrder available nodes = .ok ())
    (start : ∀ name ∈ available, holds name)
    (step : ∀ node ∈ nodes, (∀ input ∈ node.inputs, input ≠ "" → holds input) →
      ∀ output ∈ node.outputs, holds output) :
    ∀ node ∈ nodes, (∀ input ∈ node.inputs, input ≠ "" → holds input) ∧
      ∀ output ∈ node.outputs, holds output := by
  induction nodes generalizing available with
  | nil => simp
  | cons head rest ih =>
    obtain ⟨reads, later⟩ := checkOrder_cons_iff.mp ordered
    have inputs : ∀ input ∈ head.inputs, input ≠ "" → holds input :=
      fun input listed named => start input (reads input listed named)
    have outputs := step head (by simp) inputs
    have remaining := ih later
      (fun name ready => (List.mem_append.mp ready).elim (start name) (outputs name))
      (fun node member => step node (List.mem_cons_of_mem head member))
    intro node member
    rcases List.mem_cons.mp member with rfl | member
    · exact ⟨inputs, outputs⟩
    · exact remaining node member

/-- A graph is valid exactly when every listed name has a tensor and the order is right. -/
theorem validate_eq_ok_iff :
    graph.validate = .ok () ↔
      (∀ name ∈ graph.inputs ++ graph.outputs ++ graph.initializers,
        graph.tensors.contains name = true) ∧
      checkOrder (graph.inputs ++ graph.initializers) graph.nodes = .ok () := by
  unfold validate
  split
  · rename_i name found
    have listed := List.mem_of_find?_eq_some found
    have missing := List.find?_some found
    simp only [reduceCtorEq, false_iff, not_and]
    intro mapped
    simp [mapped name listed] at missing
  · rename_i absent
    have mapped := List.find?_eq_none.mp absent
    exact ⟨fun ordered => ⟨fun name listed => by simpa using mapped name listed, ordered⟩,
      fun both => both.2⟩

end GraphOf

end ShapeFlow
