import ShapeFlow.Attribute.Value
import ShapeFlow.Proofs.Graph.Order

/-!
Exactly which graphs are valid, and what is reported of the others. A valid graph has a tensor for
every listed name, and each of its nodes reads what callers, constants or earlier nodes provide.
Otherwise the first listed name without a tensor is reported, or else the first node that reads
what nothing provides, with the first such input.
-/

namespace ShapeFlow

variable {α : Type}

namespace NodeOf

variable {node : NodeOf α} {ready : String → Prop} {input : String}

/-- Every input that is present is ready. -/
def ReadsOnly (ready : String → Prop) (node : NodeOf α) : Prop :=
  ∀ input ∈ node.inputs, input ≠ "" → ready input

/-- The first input that is present and not ready. -/
def FirstUnready (ready : String → Prop) (node : NodeOf α) (input : String) : Prop :=
  ∃ before after, node.inputs = before ++ input :: after ∧
    (∀ other ∈ before, other ≠ "" → ready other) ∧ input ≠ "" ∧ ¬ ready input

theorem FirstUnready.not_readsOnly (unready : node.FirstUnready ready input) :
    ¬ node.ReadsOnly ready := by
  obtain ⟨before, after, listed, _, named, missing⟩ := unready
  intro reads
  exact missing (reads input (by simp [listed]) named)

end NodeOf

namespace GraphOf

variable {graph : GraphOf α} {available : List String} {node head : NodeOf α}
  {nodes rest : List (NodeOf α)} {place : Nat} {name input : String} {problem : GraphError}

theorem unavailableInput?_eq_some_iff :
    unavailableInput? available node = some input ↔ node.FirstUnready (· ∈ available) input := by
  rw [unavailableInput?, List.find?_eq_some_iff_append]
  constructor
  · rintro ⟨unready, before, after, listed, passed⟩
    simp only [Bool.and_eq_true, bne_iff_ne, Bool.not_eq_true', List.contains_eq_mem,
      decide_eq_false_iff_not] at unready
    refine ⟨before, after, listed, fun other earlier named => ?_, unready⟩
    simpa [named] using passed other earlier
  · rintro ⟨before, after, listed, passed, named, missing⟩
    refine ⟨by simp [named, missing], before, after, listed, fun other earlier => ?_⟩
    by_cases absent : other = ""
    · simp [absent]
    · simp [passed other earlier absent]

/-- A name that is available at the start or that a node before the place produces. -/
def AvailableAt (available : List String) (nodes : List (NodeOf α)) (place : Nat)
    (name : String) : Prop :=
  name ∈ available ∨ ∃ earlier < place, ∃ producer : NodeOf α, nodes[earlier]? = some producer ∧
    name ∈ producer.outputs

theorem availableAt_zero_iff : AvailableAt available nodes 0 name ↔ name ∈ available := by
  simp [AvailableAt]

theorem availableAt_succ_iff :
    AvailableAt available (head :: rest) (place + 1) name ↔
      AvailableAt (available ++ head.outputs) rest place name := by
  simp only [AvailableAt, List.mem_append, or_assoc]
  refine or_congr_right ?_
  constructor
  · rintro ⟨earlier, before, producer, at_earlier, made⟩
    cases earlier with
    | zero =>
      cases at_earlier
      exact .inl made
    | succ earlier =>
      exact .inr ⟨earlier, Nat.lt_of_succ_lt_succ before, producer, at_earlier, made⟩
  · rintro (made | ⟨earlier, before, producer, at_earlier, made⟩)
    · exact ⟨0, Nat.zero_lt_succ place, head, rfl, made⟩
    · exact ⟨earlier + 1, Nat.succ_lt_succ before, producer, at_earlier, made⟩

/-- Each node before a place reads what is available at its own place. -/
def OrderedBefore (available : List String) (nodes : List (NodeOf α)) (place : Nat) : Prop :=
  ∀ earlier < place, ∀ node : NodeOf α, nodes[earlier]? = some node →
    node.ReadsOnly (AvailableAt available nodes earlier)

theorem orderedBefore_succ_iff :
    OrderedBefore available (head :: rest) (place + 1) ↔
      head.ReadsOnly (· ∈ available) ∧
        OrderedBefore (available ++ head.outputs) rest place := by
  constructor
  · intro ordered
    refine ⟨fun input listed named => ?_, fun earlier before node present input listed named => ?_⟩
    · exact availableAt_zero_iff.mp (ordered 0 (Nat.zero_lt_succ place) head rfl input listed named)
    · have reads := ordered (earlier + 1) (Nat.succ_lt_succ before) node present
      exact availableAt_succ_iff.mp (reads input listed named)
  · rintro ⟨reads, ordered⟩ earlier before node present input listed named
    cases earlier with
    | zero =>
      cases present
      exact availableAt_zero_iff.mpr (reads input listed named)
    | succ earlier =>
      have later := ordered earlier (Nat.lt_of_succ_lt_succ before) node present
      exact availableAt_succ_iff.mpr (later input listed named)

/-- The first node that reads what is not available at its place, and its first such input. -/
structure FirstUnordered (available : List String) (nodes : List (NodeOf α)) (place : Nat)
    (node : NodeOf α) (input : String) : Prop where
  present : nodes[place]? = some node
  ordered : OrderedBefore available nodes place
  unready : node.FirstUnready (AvailableAt available nodes place) input

theorem firstUnordered_zero_iff :
    FirstUnordered available (head :: rest) 0 node input ↔
      head = node ∧ node.FirstUnready (· ∈ available) input := by
  have start : AvailableAt available (head :: rest) 0 = (· ∈ available) := by
    funext name
    exact propext availableAt_zero_iff
  constructor
  · rintro ⟨present, _, unready⟩
    exact ⟨Option.some.inj present, start ▸ unready⟩
  · rintro ⟨rfl, unready⟩
    exact ⟨rfl, nofun, start ▸ unready⟩

theorem firstUnordered_succ_iff :
    FirstUnordered available (head :: rest) (place + 1) node input ↔
      head.ReadsOnly (· ∈ available) ∧
        FirstUnordered (available ++ head.outputs) rest place node input := by
  have shifted : AvailableAt available (head :: rest) (place + 1) =
      AvailableAt (available ++ head.outputs) rest place := by
    funext name
    exact propext availableAt_succ_iff
  constructor
  · rintro ⟨present, ordered, unready⟩
    obtain ⟨reads, later⟩ := orderedBefore_succ_iff.mp ordered
    exact ⟨reads, present, later, shifted ▸ unready⟩
  · rintro ⟨reads, present, later, unready⟩
    exact ⟨present, orderedBefore_succ_iff.mpr ⟨reads, later⟩, shifted ▸ unready⟩

/-- The walk over the nodes ends at the first one that is out of order. -/
theorem checkOrder_eq_error_iff :
    checkOrder available nodes = .error problem ↔
      ∃ place node input, FirstUnordered available nodes place node input ∧
        problem = .unavailableInput node.name node.opType input := by
  induction nodes generalizing available with
  | nil =>
    simp only [checkOrder, reduceCtorEq, false_iff]
    rintro ⟨place, node, input, ⟨present, _, _⟩, _⟩
    cases present
  | cons head rest ih =>
    rw [checkOrder]
    cases found : unavailableInput? available head with
    | some first =>
      have unready := unavailableInput?_eq_some_iff.mp found
      constructor
      · rintro ⟨⟩
        exact ⟨0, head, first, firstUnordered_zero_iff.mpr ⟨rfl, unready⟩, rfl⟩
      · rintro ⟨place, node, input, here, rfl⟩
        cases place with
        | zero =>
          obtain ⟨rfl, same⟩ := firstUnordered_zero_iff.mp here
          cases found.symm.trans (unavailableInput?_eq_some_iff.mpr same)
          rfl
        | succ place => exact absurd (firstUnordered_succ_iff.mp here).1 unready.not_readsOnly
    | none =>
      have reads : head.ReadsOnly (· ∈ available) := unavailableInput?_eq_none_iff.mp found
      rw [ih]
      constructor
      · rintro ⟨place, node, input, later, rfl⟩
        exact ⟨place + 1, node, input, firstUnordered_succ_iff.mpr ⟨reads, later⟩, rfl⟩
      · rintro ⟨place, node, input, here, rfl⟩
        cases place with
        | zero =>
          obtain ⟨rfl, unready⟩ := firstUnordered_zero_iff.mp here
          exact absurd reads unready.not_readsOnly
        | succ place => exact ⟨place, node, input, (firstUnordered_succ_iff.mp here).2, rfl⟩

/-- The names that must have tensors, in the order in which they are looked up. -/
def listedNames (graph : GraphOf α) : List String :=
  graph.inputs ++ graph.outputs ++ graph.initializers

/-- The names that are available before the first node is reached. -/
def providedNames (graph : GraphOf α) : List String :=
  graph.inputs ++ graph.initializers

/-- The first listed name without a tensor. -/
def FirstMissing (graph : GraphOf α) (name : String) : Prop :=
  ∃ before after, graph.listedNames = before ++ name :: after ∧
    (∀ other ∈ before, graph.tensors.contains other = true) ∧
    graph.tensors.contains name = false

private theorem find?_unmapped_eq_some_iff :
    graph.listedNames.find? (fun name => !graph.tensors.contains name) = some name ↔
      graph.FirstMissing name := by
  rw [List.find?_eq_some_iff_append]
  constructor
  · rintro ⟨missing, before, after, listed, mapped⟩
    exact ⟨before, after, listed, by simpa using mapped, by simpa using missing⟩
  · rintro ⟨before, after, listed, mapped, missing⟩
    exact ⟨by simpa using missing, before, after, listed, by simpa using mapped⟩

/-- The first thing that is wrong with a graph. Names without tensors go before inputs that nothing
provides. -/
inductive FirstFault (graph : GraphOf α) : GraphError → Prop where
  | missingTensor {name : String} (first : graph.FirstMissing name) :
      FirstFault graph (.missingTensor name)
  | unavailableInput {place : Nat} {node : NodeOf α} {input : String}
      (mapped : ∀ name ∈ graph.listedNames, graph.tensors.contains name = true)
      (unordered : FirstUnordered graph.providedNames graph.nodes place node input) :
      FirstFault graph (.unavailableInput node.name node.opType input)

theorem validate_eq_error_iff : graph.validate = .error problem ↔ FirstFault graph problem := by
  unfold validate
  rw [← listedNames, ← providedNames]
  cases found : graph.listedNames.find? (fun name => !graph.tensors.contains name) with
  | some name =>
    have first := find?_unmapped_eq_some_iff.mp found
    constructor
    · rintro ⟨⟩
      exact .missingTensor first
    · rintro (other | ⟨mapped, _⟩)
      · cases found.symm.trans (find?_unmapped_eq_some_iff.mpr other)
        rfl
      · obtain ⟨_, _, listed, _, missing⟩ := first
        have present := mapped name (by simp [listed])
        cases missing.symm.trans present
  | none =>
    have mapped : ∀ name ∈ graph.listedNames, graph.tensors.contains name = true := by
      simpa using List.find?_eq_none.mp found
    simp only [checkOrder_eq_error_iff]
    constructor
    · rintro ⟨place, node, input, unordered, rfl⟩
      exact .unavailableInput mapped unordered
    · rintro (first | ⟨_, unordered⟩)
      · cases found.symm.trans (find?_unmapped_eq_some_iff.mpr first)
      · exact ⟨_, _, _, unordered, rfl⟩

/-- Which graphs are valid, and why the others are not. -/
structure ValidatesExactly (graph : GraphOf α) : Prop where
  /-- A graph is accepted exactly when every listed name has a tensor and every node reads what
  callers, constants or nodes before it provide. -/
  accepts : graph.validate = .ok () ↔
    (∀ name ∈ graph.listedNames, graph.tensors.contains name = true) ∧
      ∀ (place : Nat) (node : NodeOf α), graph.nodes[place]? = some node →
        node.ReadsOnly (AvailableAt graph.providedNames graph.nodes place)
  /-- Otherwise the first fault is reported. -/
  refuses : ∀ problem, graph.validate = .error problem ↔ FirstFault graph problem
  /-- A graph that is refused for what a node reads is refused for the same input however many
  tensors it has besides. -/
  descriptors : ∀ (tensors : NameMap Nat) (tensorInfo : List TensorInfo),
    (∀ name, graph.tensors.contains name = true → tensors.contains name = true) →
    ∀ nodeName opType input,
      graph.validate = .error (.unavailableInput nodeName opType input) →
      { graph with tensors, tensorInfo }.validate =
        .error (.unavailableInput nodeName opType input)

/-- Validation is exact for every graph, whatever its fields hold. -/
theorem validate_exact (graph : GraphOf α) : ValidatesExactly graph := by
  constructor
  case accepts => rw [validate_eq_ok_iff, checkOrder_eq_ok_iff]; rfl
  case refuses => exact fun problem => validate_eq_error_iff
  case descriptors =>
    intro tensors tensorInfo extra nodeName opType input refused
    rw [validate_eq_error_iff] at refused ⊢
    cases refused with
    | unavailableInput mapped unordered =>
      exact .unavailableInput (fun name listed => extra name (mapped name listed)) unordered

/-- Two nodes in the wrong order, with descriptors of their outputs as inference leaves them. -/
def outOfOrder : Graph where
  nodes := [
    { name := "first", opType := "Scale", inputs := ["", "a"], outputs := ["b"] },
    { opType := "Scale", inputs := ["x"], outputs := ["a"] }]
  tensors := .ofList [("x", 0), ("b", 1), ("a", 2)]
  inputs := ["x"]
  outputs := ["b"]

/-- The descriptor of a later output provides nothing, nor does one that is added. -/
theorem validate_exact_outOfOrder :
    FirstFault outOfOrder (.unavailableInput "first" "Scale" "a") ∧
      { outOfOrder with tensors := outOfOrder.tensors.insert "spare" 3 }.validate =
        .error (.unavailableInput "first" "Scale" "a") := by
  have exact := validate_exact outOfOrder
  have refused : outOfOrder.validate = .error (.unavailableInput "first" "Scale" "a") := rfl
  refine ⟨(exact.refuses _).mp refused, exact.descriptors _ _ ?_ _ _ _ refused⟩
  intro name present
  rw [NameMap.contains_insert, present, Bool.or_true]

end GraphOf

end ShapeFlow
