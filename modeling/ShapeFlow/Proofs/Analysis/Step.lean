import ShapeFlow.Analysis.ShapeInference
import ShapeFlow.Proofs.Analysis.Course
import ShapeFlow.Proofs.Graph.Frame
import ShapeFlow.Proofs.Graph.Order

/-!
One step of the shape inference pass. The outputs of a node are described, the node is analyzed,
and its staged types are committed. On a graph whose table corresponds one to one no commit fails,
and a step writes the outputs of a node whose inference succeeded and nothing else.
-/

namespace ShapeFlow

open GraphOf

variable {graph : Graph} {node other : Node} {name : String}

namespace Analysis

variable {pairs rest : List (String × TensorType)} {type : TensorType}

private theorem commit_cons (indexed : graph.Indexed) (named : name ≠ "") (type : TensorType)
    (rest : List (String × TensorType)) :
    ∃ written : Graph, commit graph ((name, type) :: rest) = commit written rest ∧
      written.Indexed ∧ Frame graph written {name} ∧ written.typeOf name = type ∧
      ∀ other, written.tensors.contains other =
        (decide (other = name) || graph.tensors.contains other) := by
  have ensured := indexed.ensureTensor name
  have found : (graph.ensureTensor name).1.tensors.get? name =
      some (graph.ensureTensor name).2 := by
    rw [get?_ensureTensor, if_pos rfl]
  obtain ⟨written, accepted, sameIds, known⟩ := ensured.setType_ok found type
  refine ⟨written, ?_, ensured.setType accepted, ?_, known, ?_⟩
  · simp [commit, named, accepted]
  · have frame := (frame_ensureTensor graph name).trans (frame_setType ensured found accepted)
    simpa using frame
  · intro other
    rw [sameIds, contains_ensureTensor]

theorem commit_absent (type : TensorType) (rest : List (String × TensorType)) :
    commit graph (("", type) :: rest) = commit graph rest := by
  simp [commit]

/-- The names under which pairs are written. -/
def writtenNames (pairs : List (String × TensorType)) : Set String :=
  {name | name ≠ "" ∧ name ∈ pairs.map Prod.fst}

theorem mem_writtenNames :
    name ∈ writtenNames pairs ↔ name ≠ "" ∧ name ∈ pairs.map Prod.fst := Iff.rfl

theorem commit_ok (indexed : graph.Indexed) (pairs : List (String × TensorType)) :
    (commit graph pairs).2 = .ok () ∧ (commit graph pairs).1.Indexed ∧
      Frame graph (commit graph pairs).1 (writtenNames pairs) := by
  induction pairs generalizing graph with
  | nil => exact ⟨rfl, indexed, Frame.refl graph _⟩
  | cons pair rest ih =>
    obtain ⟨name, type⟩ := pair
    by_cases absent : name = ""
    · subst absent
      rw [commit_absent]
      obtain ⟨ok, valid, frame⟩ := ih indexed
      exact ⟨ok, valid, frame.mono fun other written => ⟨written.1, .tail _ written.2⟩⟩
    · obtain ⟨written, same, valid, first, _, _⟩ := commit_cons indexed absent type rest
      obtain ⟨ok, final, later⟩ := ih valid
      rw [same]
      refine ⟨ok, final, (first.trans later).mono ?_⟩
      rintro other (rfl | written)
      · exact ⟨absent, .head _⟩
      · exact ⟨written.1, .tail _ written.2⟩

theorem contains_commit (indexed : graph.Indexed) (pairs : List (String × TensorType)) :
    (commit graph pairs).1.tensors.contains name = true ↔
      name ∈ writtenNames pairs ∨ graph.tensors.contains name = true := by
  induction pairs generalizing graph with
  | nil => simp [commit, writtenNames]
  | cons pair rest ih =>
    obtain ⟨first, type⟩ := pair
    by_cases absent : first = ""
    · subst absent
      rw [commit_absent, ih indexed]
      simp only [mem_writtenNames, List.map_cons, List.mem_cons]
      grind
    · obtain ⟨written, same, valid, _, _, contains⟩ := commit_cons indexed absent type rest
      rw [same, ih valid, contains]
      simp only [mem_writtenNames, List.map_cons, List.mem_cons, Bool.or_eq_true,
        decide_eq_true_eq]
      grind

theorem typeOf_commit (indexed : graph.Indexed) (written : name ∈ writtenNames pairs) :
    ∃ type, (name, type) ∈ pairs ∧ (commit graph pairs).1.typeOf name = type := by
  induction pairs generalizing graph with
  | nil => simp [writtenNames] at written
  | cons pair rest ih =>
    obtain ⟨first, type⟩ := pair
    by_cases later : name ∈ writtenNames rest
    · by_cases absent : first = ""
      · subst absent
        obtain ⟨final, member, known⟩ := ih indexed later
        exact ⟨final, .tail _ member, by rw [commit_absent, known]⟩
      · obtain ⟨middle, same, valid, _⟩ := commit_cons indexed absent type rest
        obtain ⟨final, member, known⟩ := ih valid later
        exact ⟨final, .tail _ member, by rw [same, known]⟩
    · have here : name = first := by
        rcases List.mem_cons.mp written.2 with here | there
        · exact here
        · exact absurd ⟨written.1, there⟩ later
      subst here
      obtain ⟨middle, same, valid, _, known, _⟩ := commit_cons indexed written.1 type rest
      obtain ⟨_, final, frame⟩ := commit_ok valid rest
      exact ⟨type, .head _, by rw [same, frame.typeOf_eq final valid later, known]⟩

theorem commit_known (indexed : graph.Indexed) {pairs : List (String × TensorType)}
    (known : ∀ pair ∈ pairs, pair.1 ≠ "" →
      graph.tensors.contains pair.1 = true ∧ graph.typeOf pair.1 = pair.2) :
    commit graph pairs = (graph, .ok ()) := by
  induction pairs with
  | nil => rfl
  | cons pair rest ih =>
    obtain ⟨name, type⟩ := pair
    rw [List.forall_mem_cons] at known
    have later := ih known.2
    by_cases absent : name = ""
    · simp only [commit, absent, later, if_true]
    · obtain ⟨contained, same⟩ := known.1 absent
      obtain ⟨id, found⟩ := Option.isSome_iff_exists.mp contained
      simp only at same
      subst same
      simp only [commit, absent, ensureTensor_of_found found, indexed.setType_typeOf found, later,
        if_false]

end Analysis

namespace ShapeInference

variable {registry : FrozenRegistry} {options : AnalysisOptions} {index : Nat}
  {staged : List TensorType}

/-- The names that a node writes. -/
def written (node : Node) : Option (List TensorType) → Set String
  | none => ∅
  | some _ => {name | name ∈ node.presentOutputs}

/-- The graph that a node leaves behind with the types that are staged for its outputs. -/
def advance (graph : Graph) (node : Node) (staged : Option (List TensorType)) : Graph :=
  (Analysis.commitStaged (ensureOutputs graph node) node staged).1

private theorem indexed_ensureAll (indexed : graph.Indexed) (names : List String) :
    (names.foldl (fun graph name => (graph.ensureTensor name).1) graph).Indexed := by
  induction names generalizing graph with
  | nil => exact indexed
  | cons name rest ih => exact ih (indexed.ensureTensor name)

private theorem frame_ensureAll (graph : Graph) (names : List String) :
    Frame graph (names.foldl (fun graph name => (graph.ensureTensor name).1) graph) ∅ := by
  induction names generalizing graph with
  | nil => exact Frame.refl graph ∅
  | cons name rest ih => simpa using (frame_ensureTensor graph name).trans (ih _)

private theorem typeOf_ensureAll (graph : Graph) (names : List String) :
    (names.foldl (fun graph name => (graph.ensureTensor name).1) graph).typeOf = graph.typeOf := by
  induction names generalizing graph with
  | nil => rfl
  | cons name rest ih => rw [List.foldl_cons, ih, typeOf_ensureTensor]

private theorem contains_ensureAll (names : List String) :
    (names.foldl (fun graph name => (graph.ensureTensor name).1) graph).tensors.contains name =
        true ↔ name ∈ names ∨ graph.tensors.contains name = true := by
  induction names generalizing graph with
  | nil => simp
  | cons first rest ih =>
    rw [List.foldl_cons, ih, contains_ensureTensor]
    simp only [Bool.or_eq_true, decide_eq_true_eq, List.mem_cons]
    tauto

private theorem created_ensureAll {id : Nat} {info : TensorInfo} {names : List String}
    (absent : graph.tensorInfo[id]? = none)
    (stored : (names.foldl (fun graph name => (graph.ensureTensor name).1)
      graph).tensorInfo[id]? = some info) :
    info.name ∈ names ∧ graph.tensors.get? info.name = none ∧
      (names.foldl (fun graph name => (graph.ensureTensor name).1) graph).tensors.get? info.name =
        some id := by
  induction names generalizing graph with
  | nil => simp [absent] at stored
  | cons name rest ih =>
    cases reached : (graph.ensureTensor name).1.tensorInfo[id]? with
    | none =>
      obtain ⟨member, unknown, known⟩ := ih reached stored
      rw [get?_ensureTensor] at unknown
      split at unknown
      · cases unknown
      · exact ⟨.tail _ member, unknown, known⟩
    | some early =>
      -- The descriptor is that of the first name, and the names after it leave it alone.
      obtain ⟨rfl, unknown, placed⟩ := created_ensureTensor absent reached
      have later := frame_ensureAll (graph.ensureTensor name).1 rest
      obtain ⟨late, remains, _, same⟩ := later.kept reached
      rw [List.foldl_cons, remains, same (Set.notMem_empty name), Option.some.injEq] at stored
      subst stored
      exact ⟨.head _, unknown, later.ids (by rw [get?_ensureTensor, if_pos rfl, placed])⟩

theorem frame_ensureOutputs (graph : Graph) (node : Node) :
    Frame graph (ensureOutputs graph node) ∅ :=
  frame_ensureAll graph node.presentOutputs

theorem contains_ensureOutputs (graph : Graph) (node : Node) :
    (ensureOutputs graph node).tensors.contains name = true ↔
      name ∈ node.presentOutputs ∨ graph.tensors.contains name = true :=
  contains_ensureAll node.presentOutputs

/-- A descriptor that is added is that of an output without one. -/
theorem created_ensureOutputs {id : Nat} {info : TensorInfo}
    (absent : graph.tensorInfo[id]? = none)
    (stored : (ensureOutputs graph node).tensorInfo[id]? = some info) :
    info.name ∈ node.presentOutputs ∧ graph.tensors.get? info.name = none ∧
      (ensureOutputs graph node).tensors.get? info.name = some id :=
  created_ensureAll absent stored

theorem ensureOutputs_ok (indexed : graph.Indexed) (node : Node) :
    (ensureOutputs graph node).Indexed ∧ Frame graph (ensureOutputs graph node) ∅ :=
  ⟨indexed_ensureAll indexed node.presentOutputs, frame_ensureOutputs graph node⟩

/-- Describing outputs tells nothing new about any node. -/
theorem agree_ensureOutputs (graph : Graph) (node other : Node) :
    Analysis.Agree (ensureOutputs graph node) graph other where
  opsetVersion := (frame_ensureOutputs graph node).opsetVersionFor_eq other
  inputs := Analysis.inputTypes_congr fun name _ _ =>
    congrFun (typeOf_ensureAll graph node.presentOutputs) name
  outputs := Analysis.outputTypes_congr fun name _ _ =>
    congrFun (typeOf_ensureAll graph node.presentOutputs) name

private theorem mem_writtenNames_zip (sized : staged.length = node.outputs.length) :
    name ∈ Analysis.writtenNames (node.outputs.zip staged) ↔ name ∈ node.presentOutputs := by
  rw [Analysis.mem_writtenNames, List.map_fst_zip (Nat.le_of_eq sized.symm),
    NodeOf.mem_presentOutputs, and_comm]

theorem advance_ok (indexed : graph.Indexed) {staged : Option (List TensorType)}
    (sized : ∀ types ∈ staged, types.length = node.outputs.length) :
    Analysis.commitStaged (ensureOutputs graph node) node staged =
        (advance graph node staged, .ok ()) ∧
      (advance graph node staged).Indexed ∧
      Frame graph (advance graph node staged) (written node staged) := by
  obtain ⟨ensured, described⟩ := ensureOutputs_ok indexed node
  cases staged with
  | none => exact ⟨rfl, ensured, described⟩
  | some types =>
    obtain ⟨ok, final, frame⟩ := Analysis.commit_ok ensured (node.outputs.zip types)
    refine ⟨Prod.ext rfl ok, final, (described.trans frame).mono ?_⟩
    rintro name (impossible | member)
    · exact False.elim impossible
    · exact (mem_writtenNames_zip (sized types rfl)).mp member

/-- After a step the outputs of the node have descriptors, and no other name gains one. -/
theorem contains_advance (indexed : graph.Indexed) {staged : Option (List TensorType)}
    (sized : ∀ types ∈ staged, types.length = node.outputs.length) :
    (advance graph node staged).tensors.contains name = true ↔
      name ∈ node.presentOutputs ∨ graph.tensors.contains name = true := by
  cases staged with
  | none => exact contains_ensureOutputs graph node
  | some types =>
    rw [advance, Analysis.commitStaged, Analysis.contains_commit (ensureOutputs_ok indexed node).1,
      mem_writtenNames_zip (sized types rfl), contains_ensureOutputs]
    tauto

private theorem place_unique {i j : Nat} (distinct : node.presentOutputs.Nodup)
    (named : name ≠ "") (left : node.outputs[i]? = some name)
    (right : node.outputs[j]? = some name) : i = j := by
  have apart := List.pairwise_iff_getElem.mp (List.pairwise_filter.mp distinct)
  obtain ⟨boundLeft, here⟩ := List.getElem?_eq_some_iff.mp left
  obtain ⟨boundRight, there⟩ := List.getElem?_eq_some_iff.mp right
  have present : (name != "") = true := by simpa using named
  rcases Nat.lt_trichotomy i j with before | same | after
  · have different := apart i j boundLeft boundRight before
    rw [here, there] at different
    exact absurd rfl (different present present)
  · exact same
  · have different := apart j i boundRight boundLeft after
    rw [here, there] at different
    exact absurd rfl (different present present)

/-- After a step, one of the types that are staged for an output is known about it. -/
theorem typeOf_advance_mem (indexed : graph.Indexed)
    (sized : staged.length = node.outputs.length) (present : name ∈ node.presentOutputs) :
    ∃ (type : TensorType) (place : Nat), node.outputs[place]? = some name ∧
      staged[place]? = some type ∧
      (advance graph node (some staged)).typeOf name = type := by
  obtain ⟨type, member, known⟩ := Analysis.typeOf_commit (ensureOutputs_ok indexed node).1
    ((mem_writtenNames_zip sized).mpr present)
  obtain ⟨place, paired⟩ := List.mem_iff_getElem?.mp member
  obtain ⟨output, stagedHere⟩ := List.getElem?_zip_eq_some.mp paired
  exact ⟨type, place, output, stagedHere, known⟩

/-- What is staged for an output is known about it after the step, if no other output of the node
has the same name. -/
theorem typeOf_advance {type : TensorType} {place : Nat} (indexed : graph.Indexed)
    (sized : staged.length = node.outputs.length) (distinct : node.presentOutputs.Nodup)
    (named : name ≠ "") (output : node.outputs[place]? = some name)
    (stagedHere : staged[place]? = some type) :
    (advance graph node (some staged)).typeOf name = type := by
  have present : name ∈ node.presentOutputs :=
    NodeOf.mem_presentOutputs.mpr ⟨List.mem_of_getElem? output, named⟩
  obtain ⟨final, other, there, stagedThere, known⟩ := typeOf_advance_mem indexed sized present
  rw [← place_unique distinct named output there, stagedHere] at stagedThere
  rw [known]
  exact (Option.some.inj stagedThere).symm

theorem typeOf_advance_none (graph : Graph) (node : Node) :
    (advance graph node none).typeOf = graph.typeOf :=
  typeOf_ensureAll graph node.presentOutputs

private theorem ensureAll_of_contains {names : List String}
    (contained : ∀ name ∈ names, graph.tensors.contains name = true) :
    names.foldl (fun graph name => (graph.ensureTensor name).1) graph = graph := by
  induction names with
  | nil => rfl
  | cons name rest ih =>
    rw [List.forall_mem_cons] at contained
    obtain ⟨id, found⟩ := Option.isSome_iff_exists.mp contained.1
    rw [List.foldl_cons, ensureTensor_of_found found]
    exact ih contained.2

theorem advance_known (indexed : graph.Indexed)
    (described : ∀ name ∈ node.presentOutputs, graph.tensors.contains name = true)
    {staged : Option (List TensorType)}
    (known : ∀ types ∈ staged, ∀ (place : Nat) (name : String) (type : TensorType),
      node.outputs[place]? = some name → name ≠ "" → types[place]? = some type →
        graph.typeOf name = type) :
    advance graph node staged = graph := by
  have ensured : ensureOutputs graph node = graph := ensureAll_of_contains described
  cases staged with
  | none => exact ensured
  | some types =>
    rw [advance, ensured, Analysis.commitStaged, Analysis.commit_known indexed]
    intro pair member named
    obtain ⟨place, paired⟩ := List.mem_iff_getElem?.mp member
    obtain ⟨output, stagedHere⟩ := List.getElem?_zip_eq_some.mp paired
    have present := NodeOf.mem_presentOutputs.mpr ⟨List.mem_of_getElem? output, named⟩
    exact ⟨described pair.1 present, known types rfl place pair.1 pair.2 output named stagedHere⟩

end ShapeInference

end ShapeFlow
