/-!
Single precision numbers by their bit patterns. Nothing here computes with them. They are only
stored and compared, and comparison follows the arithmetic standard rather than the bits.
-/

namespace ShapeFlow

/-- A number in the 32-bit binary interchange format. -/
structure Binary32 where
  bits : UInt32
deriving DecidableEq

namespace Binary32

def one : Binary32 := ⟨0x3F800000⟩

/-- All exponent bits are set and the fraction is not zero. -/
def isNaN (number : Binary32) : Bool :=
  0x7F800000 < (number.bits &&& 0x7FFFFFFF)

/-- All bits but the sign are zero. -/
def isZero (number : Binary32) : Bool :=
  (number.bits &&& 0x7FFFFFFF) == 0

/-- Numeric equality: a number that is not a number differs from everything, itself included, and
the two zeros are equal. -/
def equal (left right : Binary32) : Bool :=
  !left.isNaN && !right.isNaN && (left.bits == right.bits || (left.isZero && right.isZero))

/-- Equality of lists, element by element. -/
def equalAll : List Binary32 → List Binary32 → Bool
  | [], [] => true
  | left :: leftRest, right :: rightRest => left.equal right && equalAll leftRest rightRest
  | _, _ => false

end Binary32

end ShapeFlow
