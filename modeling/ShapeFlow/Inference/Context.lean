import ShapeFlow.Check.TypeBindings
import ShapeFlow.Inference.Failure

/-!
What an inference function sees of a node, and the writes it may make. Writes reach only the staged
types of the node's outputs, and a refused write changes nothing.
-/

namespace ShapeFlow

/-- A node with what is known about its operands. -/
structure Context where
  node : Node
  signature : Signature
  bindings : TypeBindings := {}
  /-- The types of the inputs, none for an absent operand. -/
  inputs : List (Option TensorType) := []
  /-- The staged types of the outputs. -/
  outputs : List TensorType := []

/-- A change to the staged type of one output. -/
inductive Write where
  /-- Fills in the element type. -/
  | elementType (output : Nat) (type : ElementType)
  /-- Replaces the shape. -/
  | replaceShape (output : Nat) (shape : Shape)
  /-- Merges a shape into the known one. -/
  | refineShape (output : Nat) (shape : Shape)
deriving DecidableEq

/-- The output that a write addresses. -/
def Write.output : Write → Nat
  | .elementType output _ => output
  | .replaceShape output _ => output
  | .refineShape output _ => output

/-- What a write makes of the staged type it addresses. -/
def Write.apply (current : TensorType) : Write → Except InferenceFailure TensorType
  | .elementType output type =>
    match current.elementType with
    | none => .ok { current with elementType := some type }
    | some declared =>
      if declared = type then .ok current
      else .error (.elementTypeClash output declared type)
  | .replaceShape _ shape => .ok { current with shape }
  | .refineShape output shape =>
    match current.shape.merge shape with
    | .ok merged => .ok { current with shape := merged }
    | .error clash => .error (.shapeClash output clash)

namespace Context

/-- The value of an attribute at the node, or else its declared default. -/
def attribute? (context : Context) (name : String) : Option AttributeValue :=
  (context.node.attributes.get? name).or
    ((context.signature.attribute? name).bind AttributeSpec.default?)

def hasAttribute (context : Context) (name : String) : Bool :=
  (context.attribute? name).isSome

/-- The value of an attribute that must be an integer if it is present. -/
def int? (context : Context) (name : String) : Except InferenceFailure (Option Int) :=
  match context.attribute? name with
  | none => .ok none
  | some (.int number) => .ok (some number)
  | some other => .error (.attributeKind name .int other.kind)

/-- The value of an attribute that must be a list of integers if it is present. -/
def ints? (context : Context) (name : String) : Except InferenceFailure (Option (List Int)) :=
  match context.attribute? name with
  | none => .ok none
  | some (.ints numbers) => .ok (some numbers)
  | some other => .error (.attributeKind name .ints other.kind)

/-- The value of an attribute that must be a number if it is present. -/
def float? (context : Context) (name : String) : Except InferenceFailure (Option Binary32) :=
  match context.attribute? name with
  | none => .ok none
  | some (.float number) => .ok (some number)
  | some other => .error (.attributeKind name .float other.kind)

/-- What is known about an input that is present. -/
def input? (context : Context) (index : Nat) : Option TensorType :=
  context.inputs[index]?.join

def hasInput (context : Context) (index : Nat) : Bool :=
  (context.input? index).isSome

/-- The element type of an input, if it is present and known. -/
def inputType? (context : Context) (index : Nat) : Option ElementType :=
  (context.input? index).bind TensorType.elementType

/-- The shape of an input, if it is present and at least its rank is known. -/
def inputShape? (context : Context) (index : Nat) : Option Shape :=
  ((context.input? index).map TensorType.shape).filter Shape.isRanked

def hasInputShape (context : Context) (index : Nat) : Bool :=
  (context.inputShape? index).isSome

/-- The type that a variable was bound to before inference began. -/
def boundType? (context : Context) (typeVariable : String) : Option ElementType :=
  context.bindings.get? typeVariable

/-- The staged element type of an output. -/
def outputType? (context : Context) (index : Nat) : Option ElementType :=
  context.outputs[index]?.bind TensorType.elementType

/-- The staged shape of an output. -/
def outputShape? (context : Context) (index : Nat) : Option Shape :=
  context.outputs[index]?.map TensorType.shape

/-- Carries out a write, or refuses it as a whole. -/
def write (context : Context) (change : Write) : Except InferenceFailure Context :=
  match context.outputs[change.output]? with
  | none => .error (.noSuchOutput change.output context.outputs.length)
  | some current =>
    match change.apply current with
    | .ok updated => .ok { context with outputs := context.outputs.set change.output updated }
    | .error failure => .error failure

end Context

end ShapeFlow
