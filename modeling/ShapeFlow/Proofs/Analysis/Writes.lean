import ShapeFlow.Proofs.Analysis.Step
import ShapeFlow.Proofs.Graph.Correspondence

/-!
What one step leaves of a graph, on whatever graph. A graph that was put together by hand may give
one id to several names, or an id that no descriptor has, so a write is told by the id that it goes
to. Under each id the last type stays, and what no output leads to is as before.
-/

namespace ShapeFlow

open GraphOf

variable {graph before after : Graph} {node : Node} {name : String} {type : TensorType}
  {info : TensorInfo} {id : Nat}

namespace Analysis

variable {pairs rest : List (String × TensorType)}

/-- What is left of a graph after types are committed to names that all have ids. -/
structure Retypes (graph : Graph) (pairs : List (String × TensorType)) (after : Graph) : Prop where
  elsewhere : ∃ infos, after = { graph with tensorInfo := infos }
  names : after.tensorInfo.map TensorInfo.name = graph.tensorInfo.map TensorInfo.name
  kept : ∀ {id : Nat}, (∀ pair ∈ pairs, pair.1 ≠ "" → graph.tensors.get? pair.1 ≠ some id) →
    after.tensorInfo[id]? = graph.tensorInfo[id]?
  written : ∀ {place id : Nat} {name : String} {type : TensorType},
    pairs[place]? = some (name, type) → name ≠ "" → graph.tensors.get? name = some id →
      (∀ (later : Nat) (pair : String × TensorType), place < later → pairs[later]? = some pair →
        pair.1 ≠ "" → graph.tensors.get? pair.1 ≠ some id) →
        ∃ info, after.tensorInfo[id]? = some info ∧ info.type = type

namespace Retypes

theorem nil (graph : Graph) : Retypes graph [] graph where
  elsewhere := ⟨_, rfl⟩
  names := rfl
  kept _ := rfl
  written found := by simp at found

theorem cons_absent (retypes : Retypes graph rest after) (type : TensorType) :
    Retypes graph (("", type) :: rest) after where
  elsewhere := retypes.elsewhere
  names := retypes.names
  kept apart := retypes.kept fun pair member => apart pair (.tail _ member)
  written {place _ _ _} paired named found last := by
    cases place with
    | zero =>
      cases paired
      exact absurd rfl named
    | succ place =>
      refine retypes.written paired named found fun later pair after listed => ?_
      exact last (later + 1) pair (Nat.succ_lt_succ after) listed

theorem cons (named : name ≠ "") (found : graph.tensors.get? name = some id)
    (stored : graph.tensorInfo[id]? = some info)
    (retypes : Retypes { graph with tensorInfo := graph.tensorInfo.set id { info with type } } rest
      after) : Retypes graph ((name, type) :: rest) after where
  elsewhere := retypes.elsewhere
  names := retypes.names.trans (names_set stored rfl)
  kept {other} apart := by
    rw [retypes.kept fun pair member => apart pair (.tail _ member)]
    have different : id ≠ other := fun same => apart _ (.head _) named (same ▸ found)
    exact List.getElem?_set_ne different
  written {place other _ _} paired present target last := by
    cases place with
    | zero =>
      cases paired
      have same : id = other := Option.some.inj (found.symm.trans target)
      subst same
      -- No later pair leads here, so the descriptor is still the one that this pair wrote.
      have untouched := retypes.kept fun pair member => by
        obtain ⟨later, listed⟩ := List.mem_iff_getElem?.mp member
        exact last (later + 1) pair (Nat.succ_pos later) listed
      refine ⟨{ info with type }, ?_, rfl⟩
      rw [untouched, List.getElem?_set_self (List.getElem?_eq_some_iff.mp stored).1]
    | succ place =>
      refine retypes.written paired present target fun later pair after listed => ?_
      exact last (later + 1) pair (Nat.succ_lt_succ after) listed

theorem name_eq (retypes : Retypes graph pairs after) (id : Nat) :
    after.tensorInfo[id]?.map TensorInfo.name = graph.tensorInfo[id]?.map TensorInfo.name := by
  rw [← List.getElem?_map, retypes.names, List.getElem?_map]

theorem tensors_eq (retypes : Retypes graph pairs after) : after.tensors = graph.tensors := by
  obtain ⟨infos, rfl⟩ := retypes.elsewhere
  rfl

end Retypes

theorem commit_cons_ok (named : name ≠ "") (found : graph.tensors.get? name = some id)
    (done : commit graph ((name, type) :: rest) = (after, .ok ())) :
    ∃ info, graph.tensorInfo[id]? = some info ∧
      commit { graph with tensorInfo := graph.tensorInfo.set id { info with type } } rest =
        (after, .ok ()) := by
  cases stored : graph.tensorInfo[id]? with
  | none => simp [commit, named, ensureTensor_of_found found, setType, stored] at done
  | some info =>
    simp only [commit, named, ensureTensor_of_found found, setType, stored, if_false] at done
    exact ⟨info, rfl, done⟩

/-- A commit to names that have ids overwrites types and does nothing else. -/
theorem commit_retypes
    (described : ∀ pair ∈ pairs, pair.1 ≠ "" → graph.tensors.contains pair.1 = true)
    (done : commit graph pairs = (after, .ok ())) : Retypes graph pairs after := by
  induction pairs generalizing graph with
  | nil =>
    cases done
    exact .nil _
  | cons pair rest ih =>
    obtain ⟨name, type⟩ := pair
    rw [List.forall_mem_cons] at described
    by_cases absent : name = ""
    · subst absent
      rw [commit_absent] at done
      exact (ih described.2 done).cons_absent type
    · obtain ⟨id, found⟩ := Option.isSome_iff_exists.mp (described.1 absent)
      obtain ⟨info, stored, went⟩ := commit_cons_ok absent found done
      exact .cons absent found stored (ih (fun pair => described.2 pair) went)

end Analysis

/-- What a step leaves of a graph, given the types that are staged for the outputs of its node. -/
structure Writes (before : Graph) (node : Node) (staged : Option (List TensorType))
    (after : Graph) : Prop where
  nodes : after.nodes = before.nodes
  inputs : after.inputs = before.inputs
  outputs : after.outputs = before.outputs
  initializers : after.initializers = before.initializers
  opsetImports : after.opsetImports = before.opsetImports
  ids : ∀ {name : String} {id : Nat}, before.tensors.get? name = some id →
    after.tensors.get? name = some id
  described : ∀ {name : String}, after.tensors.contains name = true ↔
    name ∈ node.presentOutputs ∨ before.tensors.contains name = true
  /-- A descriptor keeps its name, and it changes only where a type is staged for an output. -/
  kept : ∀ {id : Nat} {info : TensorInfo}, before.tensorInfo[id]? = some info →
    ∃ later, after.tensorInfo[id]? = some later ∧ later.name = info.name ∧
      ((staged = none ∨ ∀ output ∈ node.presentOutputs, after.tensors.get? output ≠ some id) →
        later = info)
  /-- A descriptor is added for an output that had none. -/
  created : ∀ {id : Nat} {info : TensorInfo}, before.tensorInfo[id]? = none →
    after.tensorInfo[id]? = some info → info.name ∈ node.presentOutputs ∧
      before.tensors.get? info.name = none ∧ after.tensors.get? info.name = some id ∧
        (staged = none → info.type = {})
  /-- The descriptor of an output gets the type that is staged for the output, unless a later
  output leads to the same descriptor. -/
  written : ∀ {types : List TensorType} {place : Nat} {name : String} {type : TensorType},
    staged = some types → node.outputs[place]? = some name → name ≠ "" →
      types[place]? = some type →
        (∀ (later : Nat) (other : String), place < later → node.outputs[later]? = some other →
          other ≠ "" → after.tensors.get? other ≠ after.tensors.get? name) →
          ∃ info, after.tensorNamed name = .ok info ∧ info.type = type

namespace ShapeInference

/-- The pairs that a step commits. -/
def stagedPairs (node : Node) : Option (List TensorType) → List (String × TensorType)
  | none => []
  | some types => node.outputs.zip types

theorem commitStaged_eq (graph : Graph) (node : Node) (staged : Option (List TensorType)) :
    Analysis.commitStaged graph node staged = Analysis.commit graph (stagedPairs node staged) := by
  cases staged <;> rfl

theorem mem_stagedPairs {staged : Option (List TensorType)} {pair : String × TensorType}
    (member : pair ∈ stagedPairs node staged) : staged ≠ none ∧ pair.1 ∈ node.outputs := by
  cases staged with
  | none => cases member
  | some types => exact ⟨Option.some_ne_none types, (List.of_mem_zip member).1⟩

section

variable {staged : Option (List TensorType)}
  (retypes : Analysis.Retypes (ensureOutputs before node) (stagedPairs node staged) after)

include retypes

private theorem kept_of_retypes (stored : before.tensorInfo[id]? = some info) :
    ∃ later, after.tensorInfo[id]? = some later ∧ later.name = info.name ∧
      ((staged = none ∨ ∀ output ∈ node.presentOutputs, after.tensors.get? output ≠ some id) →
        later = info) := by
  obtain ⟨_, remains, _, same⟩ := (frame_ensureOutputs before node).kept stored
  rw [same (Set.notMem_empty info.name)] at remains
  have called := retypes.name_eq id
  rw [remains, Option.map_some, Option.map_eq_some_iff] at called
  obtain ⟨later, reached, sameName⟩ := called
  refine ⟨later, reached, sameName, fun untouched => ?_⟩
  have unchanged : after.tensorInfo[id]? = (ensureOutputs before node).tensorInfo[id]? := by
    refine retypes.kept fun pair member named => ?_
    obtain ⟨present, listed⟩ := mem_stagedPairs member
    rcases untouched with absent | apart
    · exact absurd absent present
    · rw [← retypes.tensors_eq]
      exact apart pair.1 (NodeOf.mem_presentOutputs.mpr ⟨listed, named⟩)
  rw [reached, remains] at unchanged
  exact Option.some.inj unchanged

private theorem created_of_retypes (absent : before.tensorInfo[id]? = none)
    (stored : after.tensorInfo[id]? = some info) :
    info.name ∈ node.presentOutputs ∧ before.tensors.get? info.name = none ∧
      after.tensors.get? info.name = some id ∧ (staged = none → info.type = {}) := by
  have called := retypes.name_eq id
  rw [stored, Option.map_some, eq_comm, Option.map_eq_some_iff] at called
  obtain ⟨early, reached, sameName⟩ := called
  obtain ⟨present, unknown, placed⟩ := created_ensureOutputs absent reached
  rw [sameName] at present unknown placed
  refine ⟨present, unknown, by rw [retypes.tensors_eq, placed], fun nothing => ?_⟩
  have unchanged : after.tensorInfo[id]? = (ensureOutputs before node).tensorInfo[id]? :=
    retypes.kept fun _ member _ => absurd nothing (mem_stagedPairs member).1
  rw [stored, reached, Option.some.injEq] at unchanged
  rw [unchanged]
  exact (frame_ensureOutputs before node).created absent reached (Set.notMem_empty early.name)

private theorem written_of_retypes {types : List TensorType} {place : Nat}
    (succeeded : staged = some types) (output : node.outputs[place]? = some name)
    (named : name ≠ "") (stagedHere : types[place]? = some type)
    (last : ∀ (later : Nat) (other : String), place < later → node.outputs[later]? = some other →
      other ≠ "" → after.tensors.get? other ≠ after.tensors.get? name) :
    ∃ info, after.tensorNamed name = .ok info ∧ info.type = type := by
  subst succeeded
  have present := NodeOf.mem_presentOutputs.mpr ⟨List.mem_of_getElem? output, named⟩
  have contained := (contains_ensureOutputs before node).mpr (.inl present)
  obtain ⟨id, found⟩ := Option.isSome_iff_exists.mp contained
  have paired : (stagedPairs node (some types))[place]? = some (name, type) :=
    List.getElem?_zip_eq_some.mpr ⟨output, stagedHere⟩
  rw [retypes.tensors_eq, found] at last
  obtain ⟨info, stored, known⟩ := retypes.written paired named found
    fun later pair after listed =>
      last later pair.1 after (List.getElem?_zip_eq_some.mp listed).1
  exact ⟨info, tensorNamed_of_stored (by rw [retypes.tensors_eq, found]) stored, known⟩

end

/-- A step that gets its staged types committed writes those types and nothing else. -/
theorem writes_of_committed {staged : Option (List TensorType)}
    (committed : Analysis.commitStaged (ensureOutputs before node) node staged = (after, .ok ())) :
    Writes before node staged after := by
  have frame := frame_ensureOutputs before node
  rw [commitStaged_eq] at committed
  have retypes := Analysis.commit_retypes (fun pair member named =>
    (contains_ensureOutputs before node).mpr
      (.inl (NodeOf.mem_presentOutputs.mpr ⟨(mem_stagedPairs member).2, named⟩))) committed
  obtain ⟨infos, rfl⟩ := retypes.elsewhere
  exact {
    nodes := frame.nodes
    inputs := frame.inputs
    outputs := frame.outputs
    initializers := frame.initializers
    opsetImports := frame.opsetImports
    ids := frame.ids
    described := contains_ensureOutputs before node
    kept := kept_of_retypes retypes
    created := created_of_retypes retypes
    written := written_of_retypes retypes }

end ShapeInference

end ShapeFlow
