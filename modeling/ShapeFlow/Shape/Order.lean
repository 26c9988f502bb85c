import ShapeFlow.Shape.Basic

/-!
The order of dimensions and shapes by what they say. Nothing known lies below everything, a symbol
lies below every size, and shapes of known rank compare only at equal rank, axis by axis. Both
orders are partial.
-/

namespace ShapeFlow

/-- The second dimension says at least as much as the first. -/
inductive Dimension.Le : Dimension → Dimension → Prop where
  | refl (dimension : Dimension) : Dimension.Le dimension dimension
  | unknown (dimension : Dimension) : Dimension.Le .unknown dimension
  | symbol (name : String) (extent : Nat) : Dimension.Le (.symbol name) (.size extent)

instance : LE Dimension := ⟨Dimension.Le⟩

namespace Dimension

theorem le_refl (dimension : Dimension) : dimension ≤ dimension := .refl dimension

theorem unknown_le (dimension : Dimension) : .unknown ≤ dimension := .unknown dimension

theorem symbol_le_size (name : String) (extent : Nat) : symbol name ≤ size extent :=
  .symbol name extent

theorem le_trans {lower middle upper : Dimension} (first : lower ≤ middle)
    (second : middle ≤ upper) : lower ≤ upper := by
  cases first with
  | refl => exact second
  | unknown => exact unknown_le upper
  | symbol name extent =>
    cases second with
    | refl => exact symbol_le_size name extent

theorem le_antisymm {left right : Dimension} (forward : left ≤ right) (backward : right ≤ left) :
    left = right := by
  cases forward with
  | refl => rfl
  | unknown => cases backward <;> rfl
  | symbol name extent => cases backward

theorem eq_of_size_le {extent : Nat} {dimension : Dimension} (above : size extent ≤ dimension) :
    dimension = size extent := by
  cases above
  rfl

end Dimension

/-- Two lists of dimensions of equal length, the second saying at least as much on each axis. -/
inductive Dimension.LeAll : List Dimension → List Dimension → Prop where
  | nil : Dimension.LeAll [] []
  | cons {lower upper : Dimension} {lowers uppers : List Dimension} (head : lower ≤ upper)
      (tail : Dimension.LeAll lowers uppers) : Dimension.LeAll (lower :: lowers) (upper :: uppers)

namespace Dimension.LeAll

theorem refl (dimensions : List Dimension) : LeAll dimensions dimensions := by
  induction dimensions with
  | nil => exact .nil
  | cons head rest ih => exact .cons (le_refl head) ih

theorem trans {lower middle upper : List Dimension} (first : LeAll lower middle)
    (second : LeAll middle upper) : LeAll lower upper := by
  induction first generalizing upper with
  | nil => exact second
  | cons head _ ih =>
    cases second with
    | cons next rest => exact .cons (le_trans head next) (ih rest)

theorem antisymm {left right : List Dimension} (forward : LeAll left right)
    (backward : LeAll right left) : left = right := by
  induction forward with
  | nil => rfl
  | cons head _ ih =>
    cases backward with
    | cons back rest => rw [le_antisymm head back, ih rest]

theorem length_eq {lower upper : List Dimension} (ordered : LeAll lower upper) :
    lower.length = upper.length := by
  induction ordered with
  | nil => rfl
  | cons _ _ ih => simp [ih]

end Dimension.LeAll

/-- The second shape says at least as much as the first. -/
inductive Shape.Le : Shape → Shape → Prop where
  | unknown (shape : Shape) : Shape.Le .unknown shape
  | ranked {lower upper : List Dimension} (axes : Dimension.LeAll lower upper) :
      Shape.Le (.ranked lower) (.ranked upper)

instance : LE Shape := ⟨Shape.Le⟩

namespace Shape

theorem unknown_le (shape : Shape) : .unknown ≤ shape := .unknown shape

theorem le_refl (shape : Shape) : shape ≤ shape := by
  cases shape with
  | ranked dimensions => exact .ranked (.refl dimensions)
  | unknown => exact unknown_le .unknown

theorem le_trans {lower middle upper : Shape} (first : lower ≤ middle) (second : middle ≤ upper) :
    lower ≤ upper := by
  cases first with
  | unknown => exact unknown_le upper
  | ranked axes =>
    cases second with
    | ranked rest => exact .ranked (axes.trans rest)

theorem le_antisymm {left right : Shape} (forward : left ≤ right) (backward : right ≤ left) :
    left = right := by
  cases forward with
  | unknown => cases backward; rfl
  | ranked axes =>
    cases backward with
    | ranked back => rw [axes.antisymm back]

end Shape

end ShapeFlow
