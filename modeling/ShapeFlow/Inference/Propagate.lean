import ShapeFlow.Inference.Program

/-!
Steps that inference functions share: copying what is known about an input to an output, and
taking an output's shape from an attribute.
-/

namespace ShapeFlow.Inference

/-- Copies the element type of an input, if it is known, to an output. -/
def propagateElementType (input output : Nat) : Inference Unit := do
  match ← ask (·.inputType? input) with
  | some type => perform (.elementType output type)
  | none => pure ()

/-- Merges the shape of an input, if its rank is known, into an output. -/
def propagateShape (input output : Nat) : Inference Unit := do
  match ← ask (·.inputShape? input) with
  | some shape => perform (.refineShape output shape)
  | none => pure ()

/-- Copies the element type and then the shape of the first input to the first output. -/
def propagateFirstInput : Inference Unit := do
  propagateElementType 0 0
  propagateShape 0 0

/-- The dimensions that a list of sizes specifies. The first negative size is refused. Sizes are
taken to be 64 bits wide, as the integers of attributes are, so every other size fits, and the
failure of one that does not fit is left out. -/
def dimensionsOf : List Int → Except InferenceFailure (List Dimension)
  | [] => .ok []
  | size :: rest =>
    if size < 0 then .error (.negativeSize size)
    else (dimensionsOf rest).map (.size size.toNat :: ·)

/-- Merges the shape that an attribute specifies into an output. -/
def propagateShapeAttribute (name : String) (output : Nat) : Inference Unit := do
  match ← demand (·.ints? name) with
  | none => .fail (.missingShapeAttribute name)
  | some sizes =>
    let dimensions ← ofExcept (dimensionsOf sizes)
    perform (.refineShape output (.ranked dimensions))

end ShapeFlow.Inference
