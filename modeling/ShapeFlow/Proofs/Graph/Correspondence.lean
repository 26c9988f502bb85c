import Mathlib.Data.List.Nodup
import ShapeFlow.Proofs.Graph.Frame

/-!
Names and ids. In a sound graph the table maps names one to one onto the places of the descriptors,
each descriptor carries the name that leads to it, and the inputs and the constants are listed once
and have descriptors. Every operation keeps a graph sound and every id as it is, and adding a tensor
replaces the descriptor of its name alone.
-/

namespace ShapeFlow.GraphOf

variable {α : Type} {graph other : GraphOf α} {name : String} {id : Nat} {info : TensorInfo}
  {names : List String}

/-- The listed names are distinct, and each of them has an id in the table. -/
structure Listed (table : NameMap Nat) (names : List String) : Prop where
  distinct : names.Nodup
  described : ∀ name ∈ names, table.contains name = true

/-- The table and the lists of names fit together. The entries of the table are in the order of the
descriptors. -/
structure Sound (graph : GraphOf α) : Prop where
  indexed : graph.Indexed
  keys : graph.tensors.keys = graph.tensorInfo.map TensorInfo.name
  inputs : Listed graph.tensors graph.inputs
  initializers : Listed graph.tensors graph.initializers

/-- Names that have an id have the same one in another graph. -/
def KeepsIds (before after : GraphOf α) : Prop :=
  ∀ ⦃name : String⦄ ⦃id : Nat⦄, before.tensors.get? name = some id →
    after.tensors.get? name = some id

/-- What the table of a sound graph is to its readers. -/
structure Corresponds (graph : GraphOf α) : Prop where
  /-- Each name has one entry, and there are as many entries as descriptors. -/
  distinct : graph.tensors.keys.Nodup
  counted : graph.tensors.size = graph.tensorInfo.length
  /-- The ids are the places of the descriptors. -/
  onto : ∀ id, (∃ name, graph.tensors.get? name = some id) ↔ id < graph.tensorInfo.length
  injective : ∀ first second id, graph.tensors.get? first = some id →
    graph.tensors.get? second = some id → first = second
  /-- The descriptor at the id of a name carries the name. -/
  called : ∀ name id, graph.tensors.get? name = some id →
    ∃ info, graph.tensor id = .ok info ∧ info.name = name
  /-- A tensor is found by name exactly when the name has an id, and otherwise the name is
  missing. -/
  found : ∀ name, (∃ info, graph.tensorNamed name = .ok info) ↔
    graph.tensors.contains name = true
  missing : ∀ name problem, graph.tensorNamed name = .error problem →
    problem = .missingTensor name

/-- A descriptor is found under its name, and nothing changes under other names. If the name had an
id, the descriptor takes the place of the one that was there, and the table of names stays. -/
structure Replaces (before : GraphOf α) (info : TensorInfo) (added : GraphOf α × Nat) : Prop where
  named : added.1.tensorNamed info.name = .ok info
  others : ∀ name, name ≠ info.name → added.1.tensorNamed name = before.tensorNamed name
  again : ∀ id, before.tensors.get? info.name = some id → id < before.tensorInfo.length ∧
    added.2 = id ∧ added.1.tensors = before.tensors ∧
      added.1.tensorInfo = before.tensorInfo.set id info

theorem tensorNamed_of_stored (found : graph.tensors.get? name = some id)
    (stored : graph.tensorInfo[id]? = some info) : graph.tensorNamed name = .ok info := by
  simp [tensorNamed, tensorId, tensor, found, stored, Except.bind]

theorem tensorNamed_of_absent (absent : graph.tensors.get? name = none) :
    graph.tensorNamed name = .error (.missingTensor name) := by
  simp [tensorNamed, tensorId, absent, Except.bind]

theorem tensorNamed_of_same_table (ids : other.tensors = graph.tensors)
    (infos : other.tensorInfo = graph.tensorInfo) : other.tensorNamed = graph.tensorNamed := by
  have sameTensor : other.tensor = graph.tensor := by
    funext id
    rw [tensor, tensor, infos]
  funext name
  rw [tensorNamed, tensorNamed, tensorId, tensorId, ids, sameTensor]

/-! ### Lists of names -/

namespace Listed

variable {table : NameMap Nat}

theorem nil (table : NameMap Nat) : Listed table [] :=
  ⟨List.nodup_nil, fun _ listed => absurd listed List.not_mem_nil⟩

theorem of_keepsIds (listed : Listed graph.tensors names) (keeps : KeepsIds graph other) :
    Listed other.tensors names where
  distinct := listed.distinct
  described name among := by
    obtain ⟨id, found⟩ := Option.isSome_iff_exists.mp (listed.described name among)
    exact Option.isSome_iff_exists.mpr ⟨id, keeps found⟩

theorem listOnce (listed : Listed table names) (described : table.contains name = true) :
    Listed table (listOnce name names) := by
  unfold GraphOf.listOnce
  split
  · exact listed
  · rename_i absent
    refine ⟨?_, fun other among => ?_⟩
    · rw [← List.concat_eq_append]
      exact listed.distinct.concat absent
    · rcases List.mem_append.mp among with before | last
      · exact listed.described other before
      · exact List.mem_singleton.mp last ▸ described

end Listed

/-! ### The operations -/

theorem get?_addTensor (graph : GraphOf α) (info : TensorInfo) (name : String) :
    (graph.addTensor info).1.tensors.get? name =
      if name = info.name then some (graph.addTensor info).2 else graph.tensors.get? name := by
  cases found : graph.tensors.get? info.name with
  | some id =>
    simp only [addTensor, found]
    split
    · rename_i same
      rw [same, found]
    · rfl
  | none => simp [addTensor, found, NameMap.get?_insert]

theorem addTensor_of_found (found : graph.tensors.get? info.name = some id) :
    graph.addTensor info = ({ graph with tensorInfo := graph.tensorInfo.set id info }, id) := by
  simp only [addTensor, found]

theorem inputs_addTensor (graph : GraphOf α) (info : TensorInfo) :
    (graph.addTensor info).1.inputs = graph.inputs := by
  unfold addTensor
  split <;> rfl

theorem initializers_addTensor (graph : GraphOf α) (info : TensorInfo) :
    (graph.addTensor info).1.initializers = graph.initializers := by
  unfold addTensor
  split <;> rfl

theorem contains_addTensor (graph : GraphOf α) (info : TensorInfo) :
    (graph.addTensor info).1.tensors.contains info.name = true := by
  rw [NameMap.contains, get?_addTensor, if_pos rfl]
  rfl

namespace KeepsIds

variable {before middle after : GraphOf α}

theorem refl (graph : GraphOf α) : KeepsIds graph graph := fun _ _ found => found

theorem trans (first : KeepsIds before middle) (second : KeepsIds middle after) :
    KeepsIds before after :=
  fun _ _ found => second (first found)

theorem addTensor (graph : GraphOf α) (info : TensorInfo) :
    KeepsIds graph (graph.addTensor info).1 := by
  intro name id found
  rw [get?_addTensor]
  split
  · rename_i same
    rw [same] at found
    rw [addTensor_of_found found]
  · exact found

theorem ensureTensor (graph : GraphOf α) (name : String) :
    KeepsIds graph (graph.ensureTensor name).1 :=
  fun _ _ found => (frame_ensureTensor graph name).ids found

theorem setType {type : TensorType} (accepted : graph.setType id type = .ok other) :
    KeepsIds graph other := by
  unfold GraphOf.setType at accepted
  split at accepted
  · cases accepted
    exact refl graph
  · cases accepted

end KeepsIds

theorem names_set {infos : List TensorInfo} {previous : TensorInfo}
    (stored : infos[id]? = some previous) (same : info.name = previous.name) :
    (infos.set id info).map TensorInfo.name = infos.map TensorInfo.name := by
  obtain ⟨bound, here⟩ := List.getElem?_eq_some_iff.mp stored
  have inside : id < (infos.map TensorInfo.name).length := by simpa using bound
  have called : (infos.map TensorInfo.name)[id] = info.name := by
    rw [List.getElem_map, here, same]
  rw [List.map_set, ← called, List.set_getElem_self]

/-- A tensor that is added is found under its name, and no other tensor changes. -/
theorem Indexed.tensorNamed_addTensor (indexed : graph.Indexed) (info : TensorInfo)
    (name : String) :
    (graph.addTensor info).1.tensorNamed name =
      if name = info.name then .ok info else graph.tensorNamed name := by
  split
  · rename_i same
    subst same
    have found := get?_addTensor graph info info.name
    rw [if_pos rfl] at found
    refine tensorNamed_of_stored found ?_
    unfold GraphOf.addTensor
    split
    · rename_i id before
      obtain ⟨previous, stored, _⟩ := indexed.located before
      exact List.getElem?_set_self (List.getElem?_eq_some_iff.mp stored).1
    · simp
  · rename_i different
    have sameId := get?_addTensor graph info name
    rw [if_neg different] at sameId
    cases found : graph.tensors.get? name with
    | none => rw [tensorNamed_of_absent (sameId.trans found), tensorNamed_of_absent found]
    | some id =>
      obtain ⟨current, stored, called⟩ := indexed.located found
      rw [tensorNamed_of_stored found stored]
      refine tensorNamed_of_stored (sameId.trans found) ?_
      unfold GraphOf.addTensor
      split
      · rename_i place before
        obtain ⟨previous, there, calledThere⟩ := indexed.located before
        -- Descriptors of different names stand at different places.
        have apart : place ≠ id := by
          rintro rfl
          rw [stored] at there
          cases there
          exact different (called.symm.trans calledThere)
        rw [List.getElem?_set_ne apart, stored]
      · rw [List.getElem?_append_left (List.getElem?_eq_some_iff.mp stored).1, stored]

namespace Replaces

theorem addTensor (indexed : graph.Indexed) (info : TensorInfo) :
    Replaces graph info (graph.addTensor info) where
  named := by rw [indexed.tensorNamed_addTensor, if_pos rfl]
  others name different := by rw [indexed.tensorNamed_addTensor, if_neg different]
  again id found := by
    obtain ⟨previous, stored, _⟩ := indexed.located found
    rw [addTensor_of_found found]
    exact ⟨(List.getElem?_eq_some_iff.mp stored).1, rfl, rfl, rfl⟩

theorem of_same_table {first second : GraphOf α × Nat} (replaces : Replaces graph info first)
    (ids : second.1.tensors = first.1.tensors) (infos : second.1.tensorInfo = first.1.tensorInfo)
    (id : second.2 = first.2) : Replaces graph info second where
  named := by rw [tensorNamed_of_same_table ids infos, replaces.named]
  others name different := by
    rw [tensorNamed_of_same_table ids infos, replaces.others name different]
  again place found := by
    rw [ids, infos, id]
    exact replaces.again place found

end Replaces

namespace Sound

theorem empty : Sound (GraphOf.empty : GraphOf α) where
  indexed := .empty
  keys := rfl
  inputs := .nil _
  initializers := .nil _

theorem of_same_lists (sound : graph.Sound) (ids : other.tensors = graph.tensors)
    (infos : other.tensorInfo = graph.tensorInfo) (inputs : other.inputs = graph.inputs)
    (initializers : other.initializers = graph.initializers) : other.Sound := by
  have keeps : KeepsIds graph other := fun _ _ found => by rwa [ids]
  exact {
    indexed := sound.indexed.of_same_table ids infos
    keys := by rw [ids, infos, sound.keys]
    inputs := inputs ▸ sound.inputs.of_keepsIds keeps
    initializers := initializers ▸ sound.initializers.of_keepsIds keeps }

theorem addTensor (sound : graph.Sound) (info : TensorInfo) : (graph.addTensor info).1.Sound where
  indexed := sound.indexed.addTensor info
  keys := by
    unfold GraphOf.addTensor
    split
    · rename_i id found
      obtain ⟨previous, stored, called⟩ := sound.indexed.located found
      rw [names_set stored called.symm, sound.keys]
    · rename_i absent
      have fresh : info.name ∉ graph.tensors.keys := by
        rw [← NameMap.contains_iff_mem_keys, NameMap.contains, absent]
        decide
      rw [NameMap.keys_insert, if_neg fresh, sound.keys, List.map_append, List.map_singleton]
  inputs := by
    rw [inputs_addTensor]
    exact sound.inputs.of_keepsIds (.addTensor graph info)
  initializers := by
    rw [initializers_addTensor]
    exact sound.initializers.of_keepsIds (.addTensor graph info)

theorem addInput (sound : graph.Sound) (info : TensorInfo) : (graph.addInput info).1.Sound :=
  let added := sound.addTensor info
  { indexed := added.indexed.of_same_table rfl rfl
    keys := added.keys
    inputs := added.inputs.listOnce (contains_addTensor graph info)
    initializers := added.initializers }

theorem addInitializer (sound : graph.Sound) (info : TensorInfo) :
    (graph.addInitializer info).1.Sound :=
  let added := sound.addTensor info
  { indexed := added.indexed.of_same_table rfl rfl
    keys := added.keys
    inputs := added.inputs
    initializers := added.initializers.listOnce (contains_addTensor graph info) }

theorem ensureTensor (sound : graph.Sound) (name : String) :
    (graph.ensureTensor name).1.Sound := by
  unfold GraphOf.ensureTensor
  split
  · exact sound
  · exact sound.addTensor { name }

theorem setType (sound : graph.Sound) {type : TensorType}
    (accepted : graph.setType id type = .ok other) : other.Sound := by
  have indexed := sound.indexed.setType accepted
  unfold GraphOf.setType at accepted
  split at accepted
  · rename_i previous stored
    cases accepted
    have names : (graph.tensorInfo.set id { previous with type }).map TensorInfo.name =
        graph.tensorInfo.map TensorInfo.name := names_set stored rfl
    exact ⟨indexed, sound.keys.trans names.symm, sound.inputs, sound.initializers⟩
  · cases accepted

theorem corresponds (sound : graph.Sound) : graph.Corresponds where
  distinct := by
    rw [sound.keys, List.Nodup, List.pairwise_map, List.pairwise_iff_getElem]
    intro first second inFirst inSecond before same
    have found := sound.indexed.named (List.getElem?_eq_getElem inFirst)
    have again := sound.indexed.named (List.getElem?_eq_getElem inSecond)
    rw [same, again] at found
    exact Nat.ne_of_gt before (Option.some.inj found)
  counted := by
    have counted := congrArg List.length sound.keys
    rwa [List.length_map, NameMap.keys, List.length_map] at counted
  onto id := by
    constructor
    · rintro ⟨name, found⟩
      obtain ⟨info, stored, _⟩ := sound.indexed.located found
      exact (List.getElem?_eq_some_iff.mp stored).1
    · intro bound
      exact ⟨_, sound.indexed.named (List.getElem?_eq_getElem bound)⟩
  injective first second id found again := by
    obtain ⟨info, stored, called⟩ := sound.indexed.located found
    obtain ⟨same, storedAgain, calledAgain⟩ := sound.indexed.located again
    rw [stored] at storedAgain
    cases storedAgain
    exact called.symm.trans calledAgain
  called name id found := by
    obtain ⟨info, stored, called⟩ := sound.indexed.located found
    exact ⟨info, tensor_eq_ok_iff.mpr stored, called⟩
  found := sound.indexed.exists_tensorNamed_iff
  missing name problem failed := by
    rw [sound.indexed.tensorNamed_eq] at failed
    split at failed
    · cases failed
    · cases failed
      rfl

end Sound

end ShapeFlow.GraphOf
