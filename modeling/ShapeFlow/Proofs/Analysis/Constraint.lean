import ShapeFlow.Proofs.Analysis.Node
import ShapeFlow.Proofs.Inference.Family

/-!
The constraints of the experimental operators. A node constrains what may be said of its first
output, given what is said of its first input. What an inference function asks of the output is
the least that the constraint allows.
-/

namespace ShapeFlow

open Inference

/-- The first operand of one side of a node, unless it is absent. -/
def firstOperand? (operands : List String) : Option String :=
  operands.head?.filter (· != "")

theorem firstOperand?_eq_some_iff {operands : List String} {name : String} :
    firstOperand? operands = some name ↔ operands[0]? = some name ∧ name ≠ "" := by
  simp [firstOperand?, Option.filter_eq_some_iff, List.head?_eq_getElem?]

namespace Analysis

variable {seen final : Graph} {node : Node} {schema : Schema}

theorem input?_nodeContext (schema : Schema) (bindings : TypeBindings)
    (inputs : inputTypes seen node = inputTypes final node) :
    (nodeContext schema bindings seen node).input? 0 =
      (firstOperand? node.inputs).map final.typeOf := by
  rw [Context.input?, nodeContext, inputs, inputTypes, firstOperand?]
  cases node.inputs with
  | nil => rfl
  | cons input rest => by_cases absent : input = "" <;> simp [absent, Option.filter]

theorem attribute?_nodeContext (bindings : TypeBindings) (seen : Graph) (node : Node)
    (undefaulted : ∀ spec ∈ schema.attributes, spec.default? = none) (name : String) :
    (nodeContext schema bindings seen node).attribute? name =
      node.attributes.get? name := by
  have absent : (schema.attribute? name).bind AttributeSpec.default? = none := by
    cases found : schema.attribute? name with
    | none => rfl
    | some spec => exact undefaulted spec (List.mem_of_find?_eq_some found)
  rw [Context.attribute?, nodeContext, absent, Option.or_none]

end Analysis

namespace Constraint

/-- The sizes of the `extra_shape` attribute. -/
def extraSizes (node : Node) : List Int :=
  match node.attributes.get? "extra_shape" with
  | some (.ints sizes) => sizes
  | _ => []

/-- What a fill allows of its output. -/
structure Filled (assigned : String → TensorType) (node : Node) (output : TensorType) : Prop where
  elementType : ∀ input, firstOperand? node.inputs = some input →
    ∀ type, (assigned input).elementType = some type → output.elementType = some type
  /-- The shape is at least that of the `shape` attribute, if there is one. -/
  given : ∀ sizes, node.attributes.get? "shape" = some (.ints sizes) →
    .ranked (specified sizes) ≤ output.shape
  /-- Otherwise, unless the contents of the input are the shape, it is at least the shape of the
  input, if its rank is known, with the dimensions of `extra_shape` behind it. -/
  extended : node.attributes.get? "shape" = none →
    (∀ flag, node.attributes.get? "input_as_shape" = some (.int flag) → flag = 0) →
    ∀ input, firstOperand? node.inputs = some input →
      ∀ dimensions, (assigned input).shape = .ranked dimensions →
        .ranked (dimensions ++ specified (extraSizes node)) ≤ output.shape

/-- An assignment of types to names respects the operator of a node. -/
structure Satisfied (assigned : String → TensorType) (node : Node) : Prop where
  passedOn : node.opType ∈ ["ThresholdedRelu", "ScaledTanh", "Scale"] →
    ∀ input, firstOperand? node.inputs = some input →
      ∀ output, firstOperand? node.outputs = some output → assigned input ≤ assigned output
  filled : node.opType = "GivenTensorFill" →
    ∀ output, firstOperand? node.outputs = some output → Filled assigned node (assigned output)

/-- What a node asks of its first output, given what is known of its first input: it is allowed
there, and whoever says more of the input says more of the output. -/
structure Asked (known : String → TensorType) (node : Node) (asked : TensorType) : Prop where
  enough : (∀ output, firstOperand? node.outputs = some output → asked ≤ known output) →
    Satisfied known node
  forced : ∀ assigned : String → TensorType, Satisfied assigned node →
    (∀ input, firstOperand? node.inputs = some input → known input ≤ assigned input) →
    ∀ output, firstOperand? node.outputs = some output → asked ≤ assigned output

variable {known : String → TensorType} {node : Node} {context : Context} {shape : Shape}

private theorem passed_eq (input : context.input? 0 = (firstOperand? node.inputs).map known) :
    { elementType := context.inputType? 0
      shape := (context.inputShape? 0).getD .unknown : TensorType } =
      ((firstOperand? node.inputs).map known).getD {} := by
  rw [Context.inputType?, Context.inputShape?, input]
  cases firstOperand? node.inputs with
  | none => rfl
  | some name =>
    have kept (shape : Shape) : ((some shape).filter Shape.isRanked).getD .unknown = shape := by
      cases shape <;> rfl
    exact congrArg (TensorType.mk (known name).elementType) (kept (known name).shape)

theorem asked_passThrough (named : node.opType ∈ ["ThresholdedRelu", "ScaledTanh", "Scale"])
    (input : context.input? 0 = (firstOperand? node.inputs).map known) :
    Asked known node
      { elementType := context.inputType? 0, shape := (context.inputShape? 0).getD .unknown } := by
  rw [passed_eq input]
  constructor
  · intro above
    constructor
    · intro _ name first output last
      simpa [first] using above output last
    · intro fills
      simp [fills] at named
  · intro assigned satisfied inputs output last
    cases first : firstOperand? node.inputs with
    | none => exact TensorType.unknown_le _
    | some name =>
      have passed := satisfied.passedOn named name first output last
      exact le_trans (inputs name first) passed

theorem asked_nothing (named : node.opType ∈ ["GRUUnit", "ATen", "DynamicSlice"]) :
    Asked known node {} where
  enough _ := by
    constructor
    · intro passes
      simp at named passes
      rcases named with same | same | same <;> simp [same] at passes
    · intro fills
      simp [fills] at named
  forced _ _ _ _ _ := TensorType.unknown_le _

section Fill

variable (attributes : ∀ name, context.attribute? name = node.attributes.get? name)
  (input : context.input? 0 = (firstOperand? node.inputs).map known)

include input

private theorem inputType?_eq_some_iff {type : ElementType} :
    context.inputType? 0 = some type ↔
      ∃ name, firstOperand? node.inputs = some name ∧ (known name).elementType = some type := by
  rw [Context.inputType?, input]
  cases firstOperand? node.inputs <;> simp

private theorem inputShape?_eq_some_iff {dimensions : List Dimension} :
    context.inputShape? 0 = some (.ranked dimensions) ↔
      ∃ name, firstOperand? node.inputs = some name ∧ (known name).shape = .ranked dimensions := by
  rw [Context.inputShape?, input]
  cases firstOperand? node.inputs with
  | none => simp
  | some name =>
    simp only [Option.map_some, Option.some.injEq, exists_eq_left', Option.filter_eq_some_iff,
      and_iff_left_iff_imp]
    intro same
    rw [Shape.isRanked]

include attributes

omit input in
private theorem extraSizes_eq {further : Option (List Int)}
    (extra : context.attribute? "extra_shape" = further.map .ints) :
    extraSizes node = further.getD [] := by
  rw [extraSizes, ← attributes, extra]
  cases further <;> rfl

private theorem filled_of_le {output : TensorType} (chosen : FillShape context shape)
    (below : { elementType := context.inputType? 0, shape : TensorType } ≤ output) :
    Filled known node output := by
  constructor
  · intro name first type same
    have seen := (inputType?_eq_some_iff input).mpr ⟨name, first, same⟩
    exact below.elementType type seen
  · intro sizes held
    cases chosen with
    | given present =>
      rw [attributes, held] at present
      cases present
      exact below.shape
    | contents absent => simp [attributes, held] at absent
    | undetermined absent => simp [attributes, held] at absent
    | extended absent => simp [attributes, held] at absent
  · intro absent unset name first dimensions same
    have seen := (inputShape?_eq_some_iff input).mpr ⟨name, first, same⟩
    cases chosen with
    | given present => simp [attributes, absent] at present
    | contents _ set nonzero => exact absurd (unset _ (attributes _ ▸ set)) nonzero
    | undetermined _ unknown => simp [seen] at unknown
    | extended _ _ found extra =>
      rw [seen] at found
      cases found
      rw [extraSizes_eq attributes extra]
      exact below.shape

/-- Whatever is allowed says at least as much as a fill asks for, if it says enough of the
input. -/
private theorem le_of_filled {assigned : String → TensorType} {output : TensorType}
    (chosen : FillShape context shape) (filled : Filled assigned node output)
    (inputs : ∀ name, firstOperand? node.inputs = some name → known name ≤ assigned name) :
    { elementType := context.inputType? 0, shape : TensorType } ≤ output := by
  constructor
  · intro type found
    obtain ⟨name, first, same⟩ := (inputType?_eq_some_iff input).mp found
    exact filled.elementType name first type ((inputs name first).elementType type same)
  · cases chosen with
    | given present => exact filled.given _ (attributes _ ▸ present)
    | contents => exact Shape.unknown_le output.shape
    | undetermined => exact Shape.unknown_le output.shape
    | extended absent unset found extra =>
      obtain ⟨name, first, same⟩ := (inputShape?_eq_some_iff input).mp found
      have above := (inputs name first).shape
      rw [same] at above
      obtain ⟨more, sameMore, axes⟩ := Shape.eq_ranked_of_le above
      have allowed := filled.extended (attributes _ ▸ absent) (attributes _ ▸ unset) name first more
        sameMore
      rw [extraSizes_eq attributes extra] at allowed
      exact le_trans (Shape.ranked_le_ranked_iff.mpr axes.append) allowed

theorem asked_fill (named : node.opType = "GivenTensorFill") (chosen : FillShape context shape) :
    Asked known node { elementType := context.inputType? 0, shape } where
  enough above := by
    constructor
    · intro passes
      simp [named] at passes
    · intro _ output last
      exact filled_of_le attributes input chosen (above output last)
  forced assigned satisfied inputs output last :=
    le_of_filled attributes input chosen (satisfied.filled named output last) inputs

end Fill

end Constraint

end ShapeFlow
