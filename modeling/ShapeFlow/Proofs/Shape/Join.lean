import Mathlib.Order.Bounds.Basic
import ShapeFlow.Proofs.Shape.Merge

/-!
Merging and least upper bounds. Two shapes merge exactly when they have a least upper bound, which
is then what they merge to. Two symbols that differ lie below every size, but no size is the least
of them, so they do not merge although some size may stand for both.
-/

namespace ShapeFlow

namespace Dimension

variable {axis : Nat} {existing inferred merged upper : Dimension} {clash : ShapeClash}

/-- Two dimensions that no merge joins. -/
inductive Clashes : Dimension → Dimension → Prop where
  | size {existing inferred : Nat} (different : existing ≠ inferred) :
      Clashes (.size existing) (.size inferred)
  | symbol {existing inferred : String} (different : existing ≠ inferred) :
      Clashes (.symbol existing) (.symbol inferred)

/-- Two dimensions merge to one of them unless they clash. -/
theorem merge_cases (axis : Nat) (existing inferred : Dimension) :
    existing.merge axis inferred = .ok existing ∨ existing.merge axis inferred = .ok inferred ∨
      existing.Clashes inferred ∧ ∃ clash, existing.merge axis inferred = .error clash := by
  cases existing with
  | unknown => exact .inr (.inl rfl)
  | size extent =>
    cases inferred with
    | unknown | symbol => exact .inl rfl
    | size other =>
      by_cases same : extent = other
      · exact .inl (if_pos same)
      · exact .inr (.inr ⟨.size same, _, if_neg same⟩)
  | symbol name =>
    cases inferred with
    | unknown => exact .inl rfl
    | size extent => exact .inr (.inl rfl)
    | symbol other =>
      by_cases same : name = other
      · exact .inl (if_pos same)
      · exact .inr (.inr ⟨.symbol same, _, if_neg same⟩)

theorem clashes_of_merge (failed : existing.merge axis inferred = .error clash) :
    existing.Clashes inferred := by
  rcases merge_cases axis existing inferred with done | done | ⟨clashes, _⟩
  · cases done.symm.trans failed
  · cases done.symm.trans failed
  · exact clashes

theorem eq_or_eq_of_merge (done : existing.merge axis inferred = .ok merged) :
    merged = existing ∨ merged = inferred := by
  rcases merge_cases axis existing inferred with same | same | ⟨_, _, failed⟩
  · exact .inl (Except.ok.inj (done.symm.trans same))
  · exact .inr (Except.ok.inj (done.symm.trans same))
  · cases done.symm.trans failed

/-- Where dimensions that clash have an upper bound, they are symbols, and it is a size. -/
theorem Clashes.of_le (clashes : Clashes existing inferred) (existingBelow : existing ≤ upper)
    (inferredBelow : inferred ≤ upper) :
    ∃ first second extent, first ≠ second ∧ existing = .symbol first ∧ inferred = .symbol second ∧
      upper = .size extent := by
  cases clashes with
  | size different =>
    rw [eq_of_size_le existingBelow] at inferredBelow
    exact absurd (Dimension.size.inj (eq_of_size_le inferredBelow)) different
  | @symbol first second different =>
    cases existingBelow with
    | refl =>
      cases inferredBelow
      exact absurd rfl different
    | symbol _ extent => exact ⟨first, second, extent, different, rfl, rfl, rfl⟩

namespace LeAll

variable {lower upper : Dimension} {lowers uppers : List Dimension}

theorem getElem? (ordered : LeAll lowers uppers) (below : lowers[axis]? = some lower)
    (above : uppers[axis]? = some upper) : lower ≤ upper := by
  induction ordered generalizing axis with
  | nil => cases below
  | cons head _ ih =>
    cases axis with
    | zero =>
      cases below
      cases above
      exact head
    | succ axis => exact ih below above

/-- The dimension of one axis may be replaced by another one above what stands there. -/
theorem set (ordered : LeAll lowers uppers)
    (above : ∀ lower, lowers[axis]? = some lower → lower ≤ upper) :
    LeAll lowers (uppers.set axis upper) := by
  induction ordered generalizing axis with
  | nil => exact .nil
  | cons head rest ih =>
    cases axis with
    | zero => exact .cons (above _ rfl) rest
    | succ axis => exact .cons head (ih above)

end LeAll

end Dimension

namespace Shape

open Dimension

variable {axis : Nat} {existing inferred merged upper : Shape} {dimension : Dimension}
  {clash : ShapeClash}

/-- The dimension on an axis of a shape of known rank. -/
def dimensionAt? (shape : Shape) (axis : Nat) : Option Dimension :=
  shape.dimensions?.bind (·[axis]?)

theorem exists_dimensionAt?_of_le {lower : Shape} (below : lower ≤ upper)
    (stands : lower.dimensionAt? axis = some dimension) :
    ∃ higher, upper.dimensionAt? axis = some higher ∧ dimension ≤ higher := by
  cases below with
  | unknown => cases stands
  | @ranked lowers uppers axes =>
    have bounded : axis < uppers.length := by
      rw [← axes.length_eq]
      exact (List.getElem?_eq_some_iff.mp stands).1
    have found : uppers[axis]? = some uppers[axis] := List.getElem?_eq_getElem bounded
    exact ⟨uppers[axis], found, axes.getElem? stands found⟩

private theorem dimensionAt?_of_mergeAxes {existing inferred merged : List Dimension} {start : Nat}
    (done : mergeAxes start existing inferred = .ok merged)
    (stands : merged[axis]? = some dimension) :
    existing[axis]? = some dimension ∨ inferred[axis]? = some dimension := by
  induction existing generalizing start axis inferred merged with
  | nil =>
    cases done
    cases stands
  | cons head rest ih =>
    cases inferred with
    | nil =>
      cases done
      cases stands
    | cons other others =>
      cases first : head.merge start other with
      | error clash => simp [mergeAxes, first] at done
      | ok joined =>
        simp only [mergeAxes, first] at done
        obtain ⟨remaining, later, rfl⟩ := exists_of_map_eq_ok done
        cases axis with
        | zero =>
          cases stands
          rcases eq_or_eq_of_merge first with rfl | rfl
          · exact .inl rfl
          · exact .inr rfl
        | succ axis => exact ih later stands

theorem dimensionAt?_of_merge (done : existing.merge inferred = .ok merged)
    (stands : merged.dimensionAt? axis = some dimension) :
    existing.dimensionAt? axis = some dimension ∨ inferred.dimensionAt? axis = some dimension := by
  cases existing with
  | unknown =>
    rw [merge_unknown_left] at done
    cases done
    exact .inr stands
  | ranked existing =>
    cases inferred with
    | unknown =>
      cases done
      exact .inl stands
    | ranked inferred =>
      simp only [merge] at done
      split at done
      · obtain ⟨joined, axes, rfl⟩ := exists_of_map_eq_ok done
        exact dimensionAt?_of_mergeAxes axes stands
      · cases done

private theorem clashes_of_mergeAxes {existing inferred : List Dimension} {start : Nat}
    (failed : mergeAxes start existing inferred = .error clash) :
    ∃ (axis : Nat) (first second : Dimension), existing[axis]? = some first ∧
      inferred[axis]? = some second ∧ first.Clashes second := by
  induction existing generalizing start inferred with
  | nil => cases failed
  | cons head rest ih =>
    cases inferred with
    | nil => cases failed
    | cons other others =>
      cases first : head.merge start other with
      | error problem => exact ⟨0, head, other, rfl, rfl, clashes_of_merge first⟩
      | ok joined =>
        simp only [mergeAxes, first] at failed
        obtain ⟨axis, here, there, clashes⟩ := ih (eq_error_of_map failed)
        exact ⟨axis + 1, here, there, clashes⟩

/-- Shapes that do not merge are of known rank. Either their ranks differ, or some axis holds
dimensions that clash. -/
theorem ranks_or_clashes_of_merge (failed : existing.merge inferred = .error clash) :
    ∃ lefts rights, existing = ranked lefts ∧ inferred = ranked rights ∧
      (lefts.length ≠ rights.length ∨
        ∃ (axis : Nat) (first second : Dimension), lefts[axis]? = some first ∧
          rights[axis]? = some second ∧ first.Clashes second) := by
  cases existing with
  | unknown => simp at failed
  | ranked lefts =>
    cases inferred with
    | unknown => simp at failed
    | ranked rights =>
      refine ⟨lefts, rights, rfl, rfl, ?_⟩
      simp only [merge] at failed
      split at failed
      · exact .inr (clashes_of_mergeAxes (eq_error_of_map failed))
      · exact .inl ‹_›

/-- Shapes that do not merge although something lies above both have two different symbols on one
axis, where the upper bound has a size. -/
theorem symbols_of_merge (failed : existing.merge inferred = .error clash)
    (existingBelow : existing ≤ upper) (inferredBelow : inferred ≤ upper) :
    ∃ axis first second extent, first ≠ second ∧
      existing.dimensionAt? axis = some (.symbol first) ∧
      inferred.dimensionAt? axis = some (.symbol second) ∧
      upper.dimensionAt? axis = some (.size extent) := by
  obtain ⟨lefts, rights, rfl, rfl, ranks | ⟨axis, here, there, left, right, clashes⟩⟩ :=
    ranks_or_clashes_of_merge failed
  · obtain ⟨uppers, rfl, lefts⟩ := eq_ranked_of_le existingBelow
    exact absurd (lefts.length_eq.trans (ranked_le_ranked_iff.mp inferredBelow).length_eq.symm)
      ranks
  · obtain ⟨higher, found, hereBelow⟩ := exists_dimensionAt?_of_le existingBelow left
    obtain ⟨_, same, thereBelow⟩ := exists_dimensionAt?_of_le inferredBelow right
    cases found.symm.trans same
    obtain ⟨first, second, extent, different, rfl, rfl, rfl⟩ :=
      clashes.of_le hereBelow thereBelow
    exact ⟨axis, first, second, extent, different, left, right, found⟩

theorem isLUB_pair_iff {bound : Shape} :
    IsLUB {existing, inferred} bound ↔
      ∀ upper, bound ≤ upper ↔ existing ≤ upper ∧ inferred ≤ upper := by
  simp [isLUB_iff_le_iff]

/-- Shapes that do not merge have no least upper bound. Where they have an upper bound at all,
another size would do as well on the axis on which two symbols clash. -/
theorem not_isLUB_of_merge (failed : existing.merge inferred = .error clash) (bound : Shape) :
    ¬ IsLUB {existing, inferred} bound := by
  rw [isLUB_pair_iff]
  intro least
  obtain ⟨existingBelow, inferredBelow⟩ := (least bound).mp (le_refl bound)
  obtain ⟨axis, first, second, extent, _, left, right, sized⟩ :=
    symbols_of_merge failed existingBelow inferredBelow
  obtain ⟨lefts, rights, rfl, rfl, _⟩ := ranks_or_clashes_of_merge failed
  obtain ⟨uppers, rfl, leftsBelow⟩ := eq_ranked_of_le existingBelow
  have rightsBelow := ranked_le_ranked_iff.mp inferredBelow
  have enlarged : ranked uppers ≤ ranked (uppers.set axis (.size (extent + 1))) := by
    refine (least _).mpr ⟨.ranked (leftsBelow.set ?_), .ranked (rightsBelow.set ?_)⟩
    · intro lower found
      cases left.symm.trans found
      exact symbol_le_size first (extent + 1)
    · intro lower found
      cases right.symm.trans found
      exact symbol_le_size second (extent + 1)
  have bounded : axis < uppers.length := (List.getElem?_eq_some_iff.mp sized).1
  have sameSize : size extent ≤ size (extent + 1) :=
    (ranked_le_ranked_iff.mp enlarged).getElem? sized (List.getElem?_set_self bounded)
  exact Nat.succ_ne_self extent (Dimension.size.inj (eq_of_size_le sameSize))

/-- Merging answers with the least upper bound. -/
theorem merge_eq_ok_iff :
    existing.merge inferred = .ok merged ↔ IsLUB {existing, inferred} merged := by
  constructor
  · intro done
    exact isLUB_pair_iff.mpr fun _ => merge_le_iff done
  · intro least
    cases ended : existing.merge inferred with
    | error clash => exact absurd least (not_isLUB_of_merge ended merged)
    | ok joined =>
      have joins : IsLUB {existing, inferred} joined :=
        isLUB_pair_iff.mpr fun _ => merge_le_iff ended
      rw [joins.unique least]

theorem merge_comm_iff :
    existing.merge inferred = .ok merged ↔ inferred.merge existing = .ok merged := by
  rw [merge_eq_ok_iff, merge_eq_ok_iff, Set.pair_comm]

/-- What merging two shapes comes to in the order of what they say. -/
structure MergeJoins (existing inferred : Shape) : Prop where
  /-- The shapes merge to their least upper bound. -/
  joins : ∀ merged, existing.merge inferred = .ok merged ↔ IsLUB {existing, inferred} merged
  /-- They clash exactly when they have none. -/
  clashes : (∃ clash, existing.merge inferred = .error clash) ↔
    ¬ ∃ bound, IsLUB {existing, inferred} bound
  comm : ∀ merged, existing.merge inferred = .ok merged ↔ inferred.merge existing = .ok merged
  /-- They merge in one order exactly when they merge in the other. -/
  together : (∃ merged, existing.merge inferred = .ok merged) ↔
    ∃ merged, inferred.merge existing = .ok merged
  idem : existing.merge existing = .ok existing
  unknown_left : Shape.unknown.merge existing = .ok existing
  unknown_right : existing.merge .unknown = .ok existing
  /-- Merging the second shape once more changes nothing. -/
  again : ((existing.merge inferred).bind fun merged => merged.merge inferred) =
    existing.merge inferred

/-- Merging is joining, for all shapes. -/
theorem merge_joins (existing inferred : Shape) : MergeJoins existing inferred where
  joins _ := merge_eq_ok_iff
  clashes := by
    constructor
    · rintro ⟨clash, failed⟩ ⟨bound, least⟩
      exact not_isLUB_of_merge failed bound least
    · intro none
      cases ended : existing.merge inferred with
      | error clash => exact ⟨clash, rfl⟩
      | ok merged => exact absurd ⟨merged, merge_eq_ok_iff.mp ended⟩ none
  comm _ := merge_comm_iff
  together := exists_congr fun _ => merge_comm_iff
  idem := merge_of_le (le_refl existing)
  unknown_left := merge_unknown_left existing
  unknown_right := merge_unknown_right existing
  again := by
    cases ended : existing.merge inferred with
    | error clash => rfl
    | ok merged =>
      have below : inferred ≤ merged := ((merge_le_iff ended).mp (le_refl merged)).2
      exact merge_of_le below

/-- Every size lies above both symbols, and none of the sizes is least. -/
example : (ranked [.symbol "rows"]).merge (ranked [.symbol "lines"]) =
    .error (.symbol 0 "rows" "lines") := by
  decide

end Shape

end ShapeFlow
