import Mathlib.Data.List.Flatten
import ShapeFlow.Proofs.Graph.Order

/-!
Slices of a graph. A slice keeps some of the nodes in their order, and with each node it keeps the
producers of everything that the node reads. It is a valid graph by itself.
-/

namespace ShapeFlow.GraphOf

variable {α : Type} {graph : GraphOf α} {available provided : List String}
  {nodes part : List (NodeOf α)}

/-- Some of the nodes of a graph, closed under producers. -/
structure Slice (graph : GraphOf α) (part : List (NodeOf α)) : Prop where
  listed : part.Sublist graph.nodes
  closed : ∀ node ∈ part, ∀ input ∈ node.inputs, input ≠ "" →
    input ∈ graph.inputs ++ graph.initializers ∨ ∃ producer ∈ part, input ∈ producer.outputs

theorem produced_sublist (listed : part.Sublist nodes) :
    (produced part).Sublist (produced nodes) :=
  List.Sublist.flatMap listed _

/-- A kept node cannot read what is produced later, since the whole list is in order. So what it
reads from the part has been produced before it in the part as well. -/
theorem checkOrder_part (listed : part.Sublist nodes)
    (ordered : checkOrder available nodes = .ok ()) (distinct : (produced nodes).Nodup)
    (fresh : ∀ name ∈ produced nodes, name ∉ available)
    (closed : ∀ node ∈ part, ∀ input ∈ node.inputs, input ≠ "" →
      input ∈ provided ∨ input ∈ produced part) :
    checkOrder provided part = .ok () := by
  induction listed generalizing available provided with
  | slnil => rfl
  | @cons part rest head listed ih =>
    obtain ⟨_, later⟩ := checkOrder_cons_iff.mp ordered
    rw [produced_cons] at distinct
    exact ih later (List.nodup_append.mp distinct).2.1 (fresh_after distinct fresh) closed
  | @cons_cons part rest head listed ih =>
    obtain ⟨reads, later⟩ := checkOrder_cons_iff.mp ordered
    rw [produced_cons] at distinct
    refine checkOrder_cons_iff.mpr ⟨fun input read named => ?_, ?_⟩
    · rcases closed head List.mem_cons_self input read named with ready | made
      · exact ready
      · have whole := (produced_sublist (listed.cons_cons head)).subset made
        exact absurd (reads input read named) (fresh input whole)
    · refine ih later (List.nodup_append.mp distinct).2.1 (fresh_after distinct fresh) ?_
      intro node member input read named
      rcases closed node (List.mem_cons_of_mem head member) input read named with ready | made
      · exact .inl (List.mem_append_left _ ready)
      · rcases List.mem_append.mp (produced_cons head part ▸ made) with first | later
        · exact .inl (List.mem_append_right _ (NodeOf.mem_presentOutputs.mp first).1)
        · exact .inr later

/-- A slice of a valid graph is valid by itself. -/
theorem Slice.validate (slice : graph.Slice part) (valid : graph.validate = .ok ())
    (single : graph.SingleAssignment) : (graph.withNodes part).validate = .ok () := by
  obtain ⟨mapped, ordered⟩ := validate_eq_ok_iff.mp valid
  refine validate_eq_ok_iff.mpr ⟨mapped, ?_⟩
  refine checkOrder_part slice.listed ordered single.distinct single.fresh ?_
  intro node member input read named
  rcases slice.closed node member input read named with ready | ⟨producer, kept, made⟩
  · exact .inl ready
  · exact .inr (mem_produced.mpr ⟨producer, kept, NodeOf.mem_presentOutputs.mpr ⟨made, named⟩⟩)

theorem Slice.single (slice : graph.Slice part) (single : graph.SingleAssignment) :
    (graph.withNodes part).SingleAssignment := by
  have kept : (produced part).Sublist (produced graph.nodes) := produced_sublist slice.listed
  constructor
  · exact single.distinct.sublist kept
  · intro name made
    exact single.fresh name (kept.subset made)

end ShapeFlow.GraphOf
