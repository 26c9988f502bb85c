import ShapeFlow.Shape.Basic

/-!
Merging two partial descriptions of one shape. A shape of unknown rank takes the other side.
Shapes of known rank must have equal ranks, and on each axis a size wins over a symbol and a symbol
over an unknown dimension. Two sizes or two symbols that differ clash.
-/

namespace ShapeFlow

/-- Why two shapes do not describe one tensor. -/
inductive ShapeClash where
  | rank (existing inferred : List Dimension)
  | size (axis existing inferred : Nat)
  | symbol (axis : Nat) (existing inferred : String)
deriving DecidableEq

def ShapeClash.message : ShapeClash → String
  | .rank existing inferred =>
    s!"rank mismatch: existing shape {(Shape.ranked existing).text} has rank {existing.length}, " ++
      s!"inferred {(Shape.ranked inferred).text} has rank {inferred.length}"
  | .size axis existing inferred => s!"dimension {axis} is {existing} but inferred {inferred}"
  | .symbol axis existing inferred => s!"dimension {axis} is '{existing}' but inferred '{inferred}'"

/-- Merges two dimensions that stand on the same axis. -/
def Dimension.merge (axis : Nat) : Dimension → Dimension → Except ShapeClash Dimension
  | .unknown, inferred => .ok inferred
  | existing, .unknown => .ok existing
  | .size existing, .size inferred =>
    if existing = inferred then .ok (.size existing) else .error (.size axis existing inferred)
  | .size existing, .symbol _ => .ok (.size existing)
  | .symbol _, .size inferred => .ok (.size inferred)
  | .symbol existing, .symbol inferred =>
    if existing = inferred then .ok (.symbol existing)
    else .error (.symbol axis existing inferred)

namespace Shape

/-- Merges dimension lists of equal length axis by axis. The first clash is the one reported. -/
def mergeAxes : Nat → List Dimension → List Dimension → Except ShapeClash (List Dimension)
  | axis, existing :: existingRest, inferred :: inferredRest =>
    match existing.merge axis inferred with
    | .error clash => .error clash
    | .ok merged => (mergeAxes (axis + 1) existingRest inferredRest).map (merged :: ·)
  | _, _, _ => .ok []

/-- Merges what is already known about a shape with what was inferred about it. -/
def merge : Shape → Shape → Except ShapeClash Shape
  | .unknown, inferred => .ok inferred
  | existing, .unknown => .ok existing
  | .ranked existing, .ranked inferred =>
    if existing.length = inferred.length then
      (mergeAxes 0 existing inferred).map Shape.ranked
    else .error (.rank existing inferred)

@[simp] theorem merge_unknown_left (shape : Shape) : merge .unknown shape = .ok shape := by
  cases shape <;> rfl

@[simp] theorem merge_unknown_right (shape : Shape) : merge shape .unknown = .ok shape := by
  cases shape <;> rfl

end Shape

end ShapeFlow
