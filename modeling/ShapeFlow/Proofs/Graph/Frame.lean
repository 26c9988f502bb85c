import Mathlib.Data.Set.Basic
import ShapeFlow.Proofs.Graph.Indexed

/-!
What a change of a graph leaves alone. Writing by name adds descriptors and overwrites what is
known about the names it writes. It moves no descriptor, renames none, and touches nothing else.
-/

namespace ShapeFlow.GraphOf

variable {α : Type} {graph before middle after : GraphOf α} {name : String} {id : Nat}

theorem typeOf_eq_getD (graph : GraphOf α) (name : String) :
    graph.typeOf name =
      (((graph.tensors.get? name).bind fun id => graph.tensorInfo[id]?).map
        TensorInfo.type).getD {} := by
  cases found : graph.tensors.get? name with
  | none => simp [typeOf, tensorNamed, tensorId, found, Except.bind]
  | some id =>
    cases stored : graph.tensorInfo[id]? <;>
      simp [typeOf, tensorNamed, tensorId, tensor, found, stored, Except.bind]

theorem typeOf_of_stored {info : TensorInfo} (found : graph.tensors.get? name = some id)
    (stored : graph.tensorInfo[id]? = some info) : graph.typeOf name = info.type := by
  simp [typeOf_eq_getD, found, stored]

theorem typeOf_of_absent (absent : graph.tensors.get? name = none) : graph.typeOf name = {} := by
  simp [typeOf_eq_getD, absent]

theorem tensor_eq_ok_iff {info : TensorInfo} :
    graph.tensor id = .ok info ↔ graph.tensorInfo[id]? = some info := by
  cases stored : graph.tensorInfo[id]? <;> simp [tensor, stored]

theorem Indexed.typeOf_eq (indexed : graph.Indexed) {info : TensorInfo}
    (stored : graph.tensorInfo[id]? = some info) : graph.typeOf info.name = info.type :=
  typeOf_of_stored (indexed.named stored) stored

theorem typeOf_of_same_table (ids : after.tensors = before.tensors)
    (infos : after.tensorInfo = before.tensorInfo) : after.typeOf = before.typeOf := by
  funext name
  rw [typeOf_eq_getD, typeOf_eq_getD, ids, infos]

theorem Indexed.tensorNamed_eq (indexed : graph.Indexed) (name : String) :
    graph.tensorNamed name =
      if graph.tensors.contains name then .ok ⟨name, graph.typeOf name⟩
      else .error (.missingTensor name) := by
  cases found : graph.tensors.get? name with
  | none => simp [tensorNamed, tensorId, NameMap.contains, found, Except.bind]
  | some id =>
    obtain ⟨info, stored, rfl⟩ := indexed.located found
    rw [typeOf_of_stored found stored]
    simp [tensorNamed, tensorId, tensor, NameMap.contains, found, stored, Except.bind]

theorem Indexed.exists_tensorNamed_iff (indexed : graph.Indexed) (name : String) :
    (∃ info, graph.tensorNamed name = .ok info) ↔ graph.tensors.contains name = true := by
  rw [indexed.tensorNamed_eq]
  split
  · rename_i contained
    exact iff_of_true ⟨_, rfl⟩ contained
  · rename_i absent
    exact iff_of_false (by simp) absent

/-- The second graph is the first with descriptors added and with some names overwritten. -/
structure Frame (before after : GraphOf α) (written : Set String) : Prop where
  nodes : after.nodes = before.nodes
  inputs : after.inputs = before.inputs
  outputs : after.outputs = before.outputs
  initializers : after.initializers = before.initializers
  opsetImports : after.opsetImports = before.opsetImports
  ids : ∀ {name : String} {id : Nat}, before.tensors.get? name = some id →
    after.tensors.get? name = some id
  kept : ∀ {id : Nat} {info : TensorInfo}, before.tensorInfo[id]? = some info →
    ∃ later, after.tensorInfo[id]? = some later ∧ later.name = info.name ∧
      (info.name ∉ written → later = info)
  created : ∀ {id : Nat} {info : TensorInfo}, before.tensorInfo[id]? = none →
    after.tensorInfo[id]? = some info → info.name ∉ written → info.type = {}

namespace Frame

variable {written rest : Set String}

theorem refl (graph : GraphOf α) (written : Set String) : Frame graph graph written where
  nodes := rfl
  inputs := rfl
  outputs := rfl
  initializers := rfl
  opsetImports := rfl
  ids found := found
  kept stored := ⟨_, stored, rfl, fun _ => rfl⟩
  created absent stored := by simp [absent] at stored

theorem trans (first : Frame before middle written) (second : Frame middle after rest) :
    Frame before after (written ∪ rest) where
  nodes := second.nodes.trans first.nodes
  inputs := second.inputs.trans first.inputs
  outputs := second.outputs.trans first.outputs
  initializers := second.initializers.trans first.initializers
  opsetImports := second.opsetImports.trans first.opsetImports
  ids found := second.ids (first.ids found)
  kept stored := by
    obtain ⟨early, present, sameName, untouched⟩ := first.kept stored
    obtain ⟨late, remains, keptName, unchanged⟩ := second.kept present
    refine ⟨late, remains, keptName.trans sameName, fun outside => ?_⟩
    have notFirst := untouched fun touched => outside (.inl touched)
    have notSecond := unchanged fun touched => outside (.inr (sameName ▸ touched))
    exact notSecond.trans notFirst
  created {id info} absent stored outside := by
    cases reached : middle.tensorInfo[id]? with
    | none => exact second.created reached stored fun touched => outside (.inr touched)
    | some early =>
      obtain ⟨late, remains, keptName, unchanged⟩ := second.kept reached
      have identical : info = late := Option.some.inj (stored.symm.trans remains)
      subst identical
      have same := unchanged fun touched => outside (.inr (keptName ▸ touched))
      subst same
      exact first.created absent reached fun touched => outside (.inl touched)

theorem mono (frame : Frame before after written) (larger : written ⊆ rest) :
    Frame before after rest :=
  { frame with
    kept := fun stored => by
      obtain ⟨later, remains, sameName, untouched⟩ := frame.kept stored
      exact ⟨later, remains, sameName, fun outside => untouched fun touched =>
        outside (larger touched)⟩
    created := fun absent stored outside =>
      frame.created absent stored fun touched => outside (larger touched) }

/-- Nothing else becomes known about a name that is not written. -/
theorem typeOf_eq (frame : Frame before after written) (indexed : after.Indexed)
    (valid : before.Indexed) (outside : name ∉ written) :
    after.typeOf name = before.typeOf name := by
  cases found : before.tensors.get? name with
  | some id =>
    obtain ⟨info, stored, called⟩ := valid.located found
    obtain ⟨later, remains, _, untouched⟩ := frame.kept stored
    rw [typeOf_of_stored found stored, typeOf_of_stored (frame.ids found) remains,
      untouched (called ▸ outside)]
  | none =>
    rw [typeOf_of_absent found]
    cases reached : after.tensors.get? name with
    | none => exact typeOf_of_absent reached
    | some id =>
      obtain ⟨info, stored, called⟩ := indexed.located reached
      rw [typeOf_of_stored reached stored]
      refine frame.created ?_ stored (called ▸ outside)
      -- A descriptor that was there before carried this name already, and then had an id.
      cases earlier : before.tensorInfo[id]? with
      | none => rfl
      | some previous =>
        obtain ⟨later, remains, sameName, _⟩ := frame.kept earlier
        have identical : info = later := Option.some.inj (stored.symm.trans remains)
        have known := valid.named earlier
        rw [← sameName, ← identical, called, found] at known
        cases known

theorem opsetVersionFor_eq (frame : Frame before after written) (node : NodeOf α) :
    after.opsetVersionFor node = before.opsetVersionFor node := by
  simp [opsetVersionFor, frame.opsetImports]

end Frame

theorem ensureTensor_of_found (found : graph.tensors.get? name = some id) :
    graph.ensureTensor name = (graph, id) := by
  simp only [ensureTensor, found]

theorem get?_ensureTensor (graph : GraphOf α) (name other : String) :
    (graph.ensureTensor name).1.tensors.get? other =
      if other = name then some (graph.ensureTensor name).2 else graph.tensors.get? other := by
  cases found : graph.tensors.get? name with
  | some id =>
    simp only [ensureTensor, found]
    split
    · rename_i same
      rw [same, found]
    · rfl
  | none => simp [ensureTensor, addTensor, found, NameMap.get?_insert]

theorem contains_ensureTensor (graph : GraphOf α) (name other : String) :
    (graph.ensureTensor name).1.tensors.contains other =
      (decide (other = name) || graph.tensors.contains other) := by
  by_cases same : other = name <;> simp [NameMap.contains, get?_ensureTensor, same]

theorem frame_ensureTensor (graph : GraphOf α) (name : String) :
    Frame graph (graph.ensureTensor name).1 ∅ := by
  cases found : graph.tensors.get? name with
  | some id => simpa [ensureTensor, found] using Frame.refl graph ∅
  | none =>
    simp only [ensureTensor, addTensor, found]
    refine ⟨rfl, rfl, rfl, rfl, rfl, ?_, ?_, ?_⟩
    · intro other id present
      have different : other ≠ name := by
        rintro rfl
        simp [found] at present
      simpa [NameMap.get?_insert, different] using present
    · intro id info stored
      have bound := (List.getElem?_eq_some_iff.mp stored).1
      exact ⟨info, by rw [List.getElem?_append_left bound, stored], rfl, fun _ => rfl⟩
    · intro id info absent stored _
      rw [List.getElem?_append_right (List.getElem?_eq_none_iff.mp absent),
        List.getElem?_singleton] at stored
      split at stored <;> cases stored
      rfl

theorem created_ensureTensor {info : TensorInfo} (absent : graph.tensorInfo[id]? = none)
    (stored : (graph.ensureTensor name).1.tensorInfo[id]? = some info) :
    info = { name } ∧ graph.tensors.get? name = none ∧ (graph.ensureTensor name).2 = id := by
  cases found : graph.tensors.get? name with
  | some _ => simp [ensureTensor, found, absent] at stored
  | none =>
    have beyond := List.getElem?_eq_none_iff.mp absent
    simp only [ensureTensor, addTensor, found] at stored ⊢
    rw [List.getElem?_append_right beyond, List.getElem?_singleton] at stored
    split at stored
    · cases stored
      exact ⟨rfl, trivial, by omega⟩
    · cases stored

/-- Ensuring a name tells nothing new, also where an id had no descriptor before. -/
theorem typeOf_ensureTensor (graph : GraphOf α) (name : String) :
    (graph.ensureTensor name).1.typeOf = graph.typeOf := by
  have stored (id : Nat) :
      ((graph.ensureTensor name).1.tensorInfo[id]?.map TensorInfo.type).getD {} =
        (graph.tensorInfo[id]?.map TensorInfo.type).getD {} := by
    cases earlier : graph.tensorInfo[id]? with
    | some info =>
      obtain ⟨later, remains, _, same⟩ := (frame_ensureTensor graph name).kept earlier
      rw [remains, same (Set.notMem_empty info.name)]
    | none =>
      cases reached : (graph.ensureTensor name).1.tensorInfo[id]? with
      | none => rfl
      | some info =>
        obtain ⟨rfl, _⟩ := created_ensureTensor earlier reached
        rfl
  funext other
  rw [typeOf_eq_getD, typeOf_eq_getD, get?_ensureTensor]
  split
  · rename_i same
    rw [same, Option.bind_some, stored]
    cases found : graph.tensors.get? name with
    | some id => simp only [ensureTensor_of_found found, Option.bind_some]
    | none => simp [ensureTensor, addTensor, found]
  · cases graph.tensors.get? other with
    | none => rfl
    | some id => exact stored id

theorem frame_setType {written : GraphOf α} {type : TensorType} (indexed : graph.Indexed)
    (found : graph.tensors.get? name = some id)
    (accepted : graph.setType id type = .ok written) : Frame graph written {name} := by
  obtain ⟨previous, stored, called⟩ := indexed.located found
  have bound := (List.getElem?_eq_some_iff.mp stored).1
  simp only [setType, stored] at accepted
  cases accepted
  refine ⟨rfl, rfl, rfl, rfl, rfl, fun present => present, ?_, ?_⟩
  · intro place info present
    by_cases here : place = id
    · subst here
      have identical : info = previous := Option.some.inj (present.symm.trans stored)
      subst identical
      exact ⟨_, List.getElem?_set_self bound, rfl, fun outside => absurd called outside⟩
    · exact ⟨info, by rw [List.getElem?_set_ne (Ne.symm here), present], rfl, fun _ => rfl⟩
  · intro place info absent present
    have beyond : graph.tensorInfo.length ≤ place := List.getElem?_eq_none_iff.mp absent
    simp [List.getElem?_eq_none_iff.mpr beyond,
      List.getElem?_set_ne (Nat.ne_of_lt (Nat.lt_of_lt_of_le bound beyond))] at present

theorem Indexed.setType_ok (indexed : graph.Indexed)
    (found : graph.tensors.get? name = some id) (type : TensorType) :
    ∃ written, graph.setType id type = .ok written ∧ written.tensors = graph.tensors ∧
      written.typeOf name = type := by
  obtain ⟨info, stored, _⟩ := indexed.located found
  have bound := (List.getElem?_eq_some_iff.mp stored).1
  let written := { graph with tensorInfo := graph.tensorInfo.set id { info with type } }
  have accepted : graph.setType id type = .ok written := by
    simp only [GraphOf.setType, stored, written]
  have overwritten : written.tensorInfo[id]? = some { info with type } :=
    List.getElem?_set_self bound
  have reached : written.tensors.get? name = some id := found
  exact ⟨written, accepted, rfl, typeOf_of_stored reached overwritten⟩

theorem Indexed.setType_typeOf (indexed : graph.Indexed)
    (found : graph.tensors.get? name = some id) :
    graph.setType id (graph.typeOf name) = .ok graph := by
  obtain ⟨info, stored, _⟩ := indexed.located found
  obtain ⟨bound, same⟩ := List.getElem?_eq_some_iff.mp stored
  have unchanged : graph.tensorInfo.set id info = graph.tensorInfo := by
    rw [← same, List.set_getElem_self]
  simp only [GraphOf.setType, stored, typeOf_of_stored found stored, unchanged]

end ShapeFlow.GraphOf
