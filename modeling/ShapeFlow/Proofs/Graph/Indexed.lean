import ShapeFlow.Graph.Tensors
import Mathlib.Logic.Function.Basic

/-!
The table of tensors. In every graph that the operations build, names and descriptors correspond
one to one, so a name that has an id has a descriptor, and what is known about the tensors is a
function of their names alone.
-/

namespace ShapeFlow.GraphOf

variable {α : Type} {graph other : GraphOf α} {name : String} {id : Nat} {info : TensorInfo}

/-- Each name leads to its own descriptor, and each descriptor is found under its own name. -/
structure Indexed (graph : GraphOf α) : Prop where
  located : ∀ {name : String} {id : Nat}, graph.tensors.get? name = some id →
    ∃ info, graph.tensorInfo[id]? = some info ∧ info.name = name
  named : ∀ {id : Nat} {info : TensorInfo}, graph.tensorInfo[id]? = some info →
    graph.tensors.get? info.name = some id

/-- The graphs that operations build from the empty one, in any order and any number. -/
inductive Built : GraphOf α → Prop where
  | empty : Built .empty
  | addTensor {graph : GraphOf α} (built : Built graph) (info : TensorInfo) :
      Built (graph.addTensor info).1
  | addInput {graph : GraphOf α} (built : Built graph) (info : TensorInfo) :
      Built (graph.addInput info).1
  | addInitializer {graph : GraphOf α} (built : Built graph) (info : TensorInfo) :
      Built (graph.addInitializer info).1
  | ensureTensor {graph : GraphOf α} (built : Built graph) (name : String) :
      Built (graph.ensureTensor name).1
  | addNode {graph : GraphOf α} (built : Built graph) (node : NodeOf α) :
      Built (graph.addNode node).1
  | importOpset {graph : GraphOf α} (built : Built graph) (domain : String) (version : Int) :
      Built (graph.importOpset domain version)
  | setType {graph written : GraphOf α} (built : Built graph) (id : Nat) (type : TensorType)
      (accepted : graph.setType id type = .ok written) : Built written
  /-- The names of the outputs are listed without a check. -/
  | listOutput {graph : GraphOf α} (built : Built graph) (name : String) :
      Built { graph with outputs := graph.outputs ++ [name] }

namespace Indexed

theorem empty : Indexed (GraphOf.empty : GraphOf α) where
  located found := by simp [GraphOf.empty, NameMap.get?, NameMap.findIn] at found
  named stored := by simp [GraphOf.empty] at stored

theorem of_same_table (indexed : graph.Indexed) (ids : other.tensors = graph.tensors)
    (infos : other.tensorInfo = graph.tensorInfo) : other.Indexed where
  located found := infos ▸ indexed.located (ids ▸ found)
  named stored := ids ▸ indexed.named (infos ▸ stored)

theorem overwrite (indexed : graph.Indexed) {previous : TensorInfo}
    (stored : graph.tensorInfo[id]? = some previous) (same : info.name = previous.name) :
    Indexed { graph with tensorInfo := graph.tensorInfo.set id info } where
  located {name place} found := by
    obtain ⟨current, present, called⟩ := indexed.located found
    by_cases here : place = id
    · subst here
      have identical : current = previous := Option.some.inj (present.symm.trans stored)
      refine ⟨info, ?_, by rw [same, ← identical, called]⟩
      exact List.getElem?_set_self (List.getElem?_eq_some_iff.mp stored).1
    · exact ⟨current, by rw [List.getElem?_set_ne (Ne.symm here), present], called⟩
  named {place current} present := by
    by_cases here : place = id
    · subst here
      rw [List.getElem?_set_self (List.getElem?_eq_some_iff.mp stored).1] at present
      rw [← Option.some.inj present, same]
      exact indexed.named stored
    · rw [List.getElem?_set_ne (Ne.symm here)] at present
      exact indexed.named present

theorem append (indexed : graph.Indexed) (absent : graph.tensors.get? info.name = none) :
    Indexed { graph with
      tensorInfo := graph.tensorInfo ++ [info]
      tensors := graph.tensors.insert info.name graph.tensorInfo.length } where
  located {name place} found := by
    rw [NameMap.get?_insert] at found
    split at found
    · rename_i called
      cases found
      exact ⟨info, by simp, called.symm⟩
    · obtain ⟨current, present, called⟩ := indexed.located found
      have bound := (List.getElem?_eq_some_iff.mp present).1
      exact ⟨current, by rw [List.getElem?_append_left bound, present], called⟩
  named {place current} present := by
    rw [NameMap.get?_insert]
    rcases Nat.lt_or_ge place graph.tensorInfo.length with inside | beyond
    · rw [List.getElem?_append_left inside] at present
      have found := indexed.named present
      have different : current.name ≠ info.name := by
        intro same
        rw [same, absent] at found
        cases found
      rw [if_neg different, found]
    · rw [List.getElem?_append_right beyond, List.getElem?_singleton] at present
      split at present
      · cases present
        rw [if_pos rfl]
        congr 1
        omega
      · cases present

theorem addTensor (indexed : graph.Indexed) (info : TensorInfo) :
    (graph.addTensor info).1.Indexed := by
  unfold GraphOf.addTensor
  split
  · rename_i id found
    obtain ⟨previous, stored, called⟩ := indexed.located found
    exact indexed.overwrite stored called.symm
  · rename_i absent
    exact indexed.append absent

theorem ensureTensor (indexed : graph.Indexed) (name : String) :
    (graph.ensureTensor name).1.Indexed := by
  unfold GraphOf.ensureTensor
  split
  · exact indexed
  · exact indexed.addTensor { name }

theorem setType (indexed : graph.Indexed) {type : TensorType}
    (accepted : graph.setType id type = .ok other) : other.Indexed := by
  unfold GraphOf.setType at accepted
  split at accepted
  · rename_i previous stored
    cases accepted
    exact indexed.overwrite stored rfl
  · cases accepted

end Indexed

/-- Names and descriptors correspond in every graph that the operations build. -/
theorem Built.indexed (built : graph.Built) : graph.Indexed := by
  induction built with
  | empty => exact .empty
  | addTensor _ info ih => exact ih.addTensor info
  | addInput _ info ih => exact (ih.addTensor info).of_same_table rfl rfl
  | addInitializer _ info ih => exact (ih.addTensor info).of_same_table rfl rfl
  | ensureTensor _ name ih => exact ih.ensureTensor name
  | addNode _ node ih => exact ih.of_same_table rfl rfl
  | importOpset _ domain version ih => exact ih.of_same_table rfl rfl
  | setType _ id type accepted ih => exact ih.setType accepted
  | listOutput _ name ih => exact ih.of_same_table rfl rfl

end ShapeFlow.GraphOf
