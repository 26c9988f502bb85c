import ShapeFlow.Inference.Propagate

/-!
Inference functions shared by several operators. The pass-through family hands what is known about
the first input on to the first output. The fill family describes a tensor whose shape comes from
attributes and from the shape of the first input.
-/

namespace ShapeFlow.Inference

/-- Gives the first output the shape of the first input, followed by further dimensions. The shape
is deferred while the rank of the input is unknown. -/
def extendFirstInput (further : List Dimension) : Inference InferenceOutcome := do
  match (← ask (·.inputShape? 0)).bind Shape.dimensions? with
  | none => return .deferred
  | some dimensions =>
    perform (.refineShape 0 (.ranked (dimensions ++ further)))
    return .inferred

/-- Gives the first output a shape that follows from the first input. The shape is deferred when
the input's contents are to be the shape, as `input_as_shape` says unless it is zero. Otherwise the
sizes of `extra_shape` follow the dimensions of the input. -/
def fillFromInput : Inference InferenceOutcome := do
  let contentsAreShape ← demand (·.int? "input_as_shape")
  if contentsAreShape.getD 0 ≠ 0 then
    return .deferred
  else
    let sizes ← demand (·.ints? "extra_shape")
    let further ← ofExcept (dimensionsOf (sizes.getD []))
    extendFirstInput further

end ShapeFlow.Inference

namespace ShapeFlow.InferenceFunction

/-- What is known about the first input is known about the first output. -/
def passThrough : InferenceFunction where
  name := "propagate_from_first_input"
  program := do
    Inference.propagateFirstInput
    return .inferred

/-- The first output takes the element type of the first input. Its shape is the `shape` attribute
if there is one, and follows from the first input otherwise. -/
def fill : InferenceFunction where
  name := "fill"
  program := do
    Inference.propagateElementType 0 0
    if ← Inference.ask (·.hasAttribute "shape") then
      Inference.propagateShapeAttribute "shape" 0
      return .inferred
    else
      Inference.fillFromInput

end ShapeFlow.InferenceFunction
