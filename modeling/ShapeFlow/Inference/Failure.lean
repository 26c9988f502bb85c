import ShapeFlow.Attribute.Value
import ShapeFlow.Shape.Merge

/-!
Reasons for which the inference of a node fails.
-/

namespace ShapeFlow

/-- Why an inference function gives up, or why one of its steps is refused. -/
inductive InferenceFailure where
  /-- The output is declared with another element type. -/
  | elementTypeClash (output : Nat) (declared inferred : ElementType)
  /-- The inferred shape does not merge with the known one. -/
  | shapeClash (output : Nat) (clash : ShapeClash)
  /-- The node has no output at the index. -/
  | noSuchOutput (index count : Nat)
  /-- The attribute is of another kind. -/
  | attributeKind (name : String) (expected actual : AttributeKind)
  /-- The attribute that gives the shape is absent. -/
  | missingShapeAttribute (name : String)
  /-- A shape is specified with a negative size. -/
  | negativeSize (value : Int)
  /-- A reason of the operator's own. -/
  | because (reason : String)
deriving DecidableEq

def InferenceFailure.message : InferenceFailure → String
  | .elementTypeClash output declared inferred =>
    s!"output {output} is declared as {declared.name}, inferred {inferred.name}"
  | .shapeClash output clash => s!"output {output}: {clash.message}"
  | .noSuchOutput index count => s!"output index {index} out of range, node has {count} outputs"
  | .attributeKind name expected actual =>
    s!"attribute '{name}' should be {expected.text}, got {actual.text}"
  | .missingShapeAttribute name => s!"attribute '{name}' is required to infer the shape"
  | .negativeSize value =>
    s!"Negative values are not allowed in a shape specification, got {value}"
  | .because reason => reason

end ShapeFlow
