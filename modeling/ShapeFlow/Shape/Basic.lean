/-!
Partially known tensor shapes. A shape either has a known rank, with each dimension a size, a
symbol or unknown, or nothing is known about it.
-/

namespace ShapeFlow

/-- One dimension of a shape of known rank. -/
inductive Dimension where
  /-- The size is known. -/
  | size (extent : Nat)
  /-- The size is not known but has a symbolic name. -/
  | symbol (name : String)
  /-- Nothing is known about the size. -/
  | unknown
deriving DecidableEq

def Dimension.text : Dimension → String
  | .size extent => toString extent
  | .symbol name => name
  | .unknown => "?"

/-- What is known about the shape of a tensor. -/
inductive Shape where
  /-- The rank is known. -/
  | ranked (dimensions : List Dimension)
  /-- Not even the rank is known. -/
  | unknown
deriving DecidableEq

namespace Shape

/-- The shape whose sizes are all known. -/
def fixed (sizes : List Nat) : Shape :=
  .ranked (sizes.map Dimension.size)

def isRanked : Shape → Bool
  | .ranked _ => true
  | .unknown => false

/-- The dimensions of a shape of known rank. -/
def dimensions? : Shape → Option (List Dimension)
  | .ranked dimensions => some dimensions
  | .unknown => none

def text : Shape → String
  | .ranked dimensions => "[" ++ ", ".intercalate (dimensions.map Dimension.text) ++ "]"
  | .unknown => "?"

end Shape

end ShapeFlow
