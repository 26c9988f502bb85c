import ShapeFlow.ElementType
import ShapeFlow.Shape.Basic

/-!
What is known about a tensor: its element type and its shape, each possibly open. A descriptor
adds the tensor's name.
-/

namespace ShapeFlow

/-- What is known about the element type and the shape of a tensor. -/
structure TensorType where
  elementType : Option ElementType := none
  shape : Shape := .unknown
deriving DecidableEq

/-- The descriptor that a graph keeps of a named tensor. -/
structure TensorInfo where
  name : String
  type : TensorType := {}
deriving DecidableEq

end ShapeFlow
