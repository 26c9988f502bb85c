import ShapeFlow.Proofs.Shape.Merge
import ShapeFlow.TensorType

/-!
The order of what is known about tensors. An unknown element type lies below every element type,
known ones compare only when they are equal, and shapes compare as shapes do.
-/

namespace ShapeFlow.TensorType

/-- The second says at least as much as the first. -/
structure Le (lower upper : TensorType) : Prop where
  elementType : ∀ type, lower.elementType = some type → upper.elementType = some type
  shape : lower.shape ≤ upper.shape

instance : LE TensorType := ⟨Le⟩

instance : PartialOrder TensorType where
  le := (· ≤ ·)
  le_refl known := ⟨fun _ same => same, le_refl known.shape⟩
  le_trans _ _ _ first second :=
    ⟨fun type same => second.elementType type (first.elementType type same),
      le_trans first.shape second.shape⟩
  le_antisymm left right forward backward := by
    have sameType : left.elementType = right.elementType := by
      ext type
      exact ⟨forward.elementType type, backward.elementType type⟩
    have sameShape : left.shape = right.shape := le_antisymm forward.shape backward.shape
    cases left
    cases right
    cases sameType
    cases sameShape
    rfl

variable {type : Option ElementType} {shape : Shape} {upper : TensorType}

theorem unknown_le (upper : TensorType) : {} ≤ upper :=
  ⟨nofun, Shape.unknown_le upper.shape⟩

/-- The element type and the shape may be compared one after the other. -/
theorem parts_le_iff :
    { elementType := type, shape : TensorType } ≤ upper ↔
      { elementType := type : TensorType } ≤ upper ∧ { shape : TensorType } ≤ upper := by
  constructor
  · intro below
    exact ⟨⟨below.elementType, Shape.unknown_le upper.shape⟩, ⟨nofun, below.shape⟩⟩
  · rintro ⟨sameType, sameShape⟩
    exact ⟨sameType.elementType, sameShape.shape⟩

end ShapeFlow.TensorType
