import Mathlib.Order.Defs.PartialOrder
import ShapeFlow.Proofs.Except
import ShapeFlow.Shape.Merge
import ShapeFlow.Shape.Order

/-!
Merging is joining. What two descriptions merge to says what both of them say and nothing more, so
a description lies above it exactly when it lies above both.
-/

namespace ShapeFlow

namespace Dimension

instance : PartialOrder Dimension where
  le := (· ≤ ·)
  le_refl := le_refl
  le_trans _ _ _ := le_trans
  le_antisymm _ _ := le_antisymm

variable {axis : Nat} {existing inferred merged upper : Dimension}

theorem merge_le_iff (done : existing.merge axis inferred = .ok merged) :
    merged ≤ upper ↔ existing ≤ upper ∧ inferred ≤ upper := by
  have weaker (name : String) (extent : Nat) : size extent ≤ upper → symbol name ≤ upper :=
    le_trans (symbol_le_size name extent)
  cases existing with
  | unknown =>
    cases done
    exact (and_iff_right (unknown_le upper)).symm
  | size extent =>
    cases inferred with
    | unknown =>
      cases done
      exact (and_iff_left (unknown_le upper)).symm
    | symbol name =>
      cases done
      exact (and_iff_left_of_imp (weaker name extent)).symm
    | size other =>
      simp only [merge] at done
      split at done
      · rename_i same
        cases done
        rw [same, and_self]
      · cases done
  | symbol name =>
    cases inferred with
    | unknown =>
      cases done
      exact (and_iff_left (unknown_le upper)).symm
    | size extent =>
      cases done
      exact (and_iff_right_of_imp (weaker name extent)).symm
    | symbol other =>
      simp only [merge] at done
      split at done
      · rename_i same
        cases done
        rw [same, and_self]
      · cases done

theorem merge_of_le (below : inferred ≤ existing) :
    existing.merge axis inferred = .ok existing := by
  cases below with
  | refl => cases existing <;> simp [merge]
  | unknown => cases existing <;> rfl
  | symbol name extent => rfl

namespace LeAll

variable {lower upper : Dimension} {lowers uppers : List Dimension}

theorem cons_iff :
    LeAll (lower :: lowers) (upper :: uppers) ↔ lower ≤ upper ∧ LeAll lowers uppers := by
  constructor
  · rintro (_ | ⟨head, tail⟩)
    exact ⟨head, tail⟩
  · rintro ⟨head, tail⟩
    exact .cons head tail

theorem append {others : List Dimension} (ordered : LeAll lowers uppers) :
    LeAll (lowers ++ others) (uppers ++ others) := by
  induction ordered with
  | nil => exact refl others
  | cons head _ ih => exact .cons head ih

end LeAll

end Dimension

namespace Shape

open Dimension

instance : PartialOrder Shape where
  le := (· ≤ ·)
  le_refl := le_refl
  le_trans _ _ _ := le_trans
  le_antisymm _ _ := le_antisymm

theorem ranked_le_ranked_iff {lowers uppers : List Dimension} :
    ranked lowers ≤ ranked uppers ↔ LeAll lowers uppers := by
  constructor
  · rintro (_ | axes)
    exact axes
  · exact .ranked

theorem eq_ranked_of_le {lowers : List Dimension} {upper : Shape} (above : ranked lowers ≤ upper) :
    ∃ uppers, upper = ranked uppers ∧ LeAll lowers uppers := by
  cases above with
  | @ranked _ uppers axes => exact ⟨uppers, rfl, axes⟩

private theorem mergeAxes_leAll_iff {axis : Nat} {existing inferred merged uppers : List Dimension}
    (sameRank : existing.length = inferred.length)
    (done : mergeAxes axis existing inferred = .ok merged) :
    LeAll merged uppers ↔ LeAll existing uppers ∧ LeAll inferred uppers := by
  induction existing generalizing axis inferred merged uppers with
  | nil =>
    obtain rfl : inferred = [] := List.eq_nil_of_length_eq_zero sameRank.symm
    cases done
    exact (and_self_iff).symm
  | cons head rest ih =>
    cases inferred with
    | nil => cases sameRank
    | cons other others =>
      have sameRest : rest.length = others.length := by simpa using sameRank
      cases first : head.merge axis other with
      | error clash => simp [mergeAxes, first] at done
      | ok joined =>
        simp only [mergeAxes, first] at done
        obtain ⟨remaining, later, rfl⟩ := exists_of_map_eq_ok done
        cases uppers with
        | nil =>
          constructor
          · nofun
          · rintro ⟨impossible, _⟩
            cases impossible
        | cons upper uppers =>
          rw [LeAll.cons_iff, LeAll.cons_iff, LeAll.cons_iff, Dimension.merge_le_iff first,
            ih sameRest later]
          exact and_and_and_comm

theorem merge_le_iff {existing inferred merged upper : Shape}
    (done : existing.merge inferred = .ok merged) :
    merged ≤ upper ↔ existing ≤ upper ∧ inferred ≤ upper := by
  cases existing with
  | unknown =>
    rw [merge_unknown_left] at done
    cases done
    exact (and_iff_right (unknown_le upper)).symm
  | ranked existing =>
    cases inferred with
    | unknown =>
      cases done
      exact (and_iff_left (unknown_le upper)).symm
    | ranked inferred =>
      simp only [merge] at done
      split at done
      · rename_i sameRank
        obtain ⟨joined, axes, rfl⟩ := exists_of_map_eq_ok done
        cases upper with
        | unknown =>
          constructor
          · nofun
          · rintro ⟨impossible, _⟩
            cases impossible
        | ranked uppers =>
          rw [ranked_le_ranked_iff, ranked_le_ranked_iff, ranked_le_ranked_iff]
          exact mergeAxes_leAll_iff sameRank axes
      · cases done

private theorem mergeAxes_of_leAll {axis : Nat} {existing inferred : List Dimension}
    (below : LeAll inferred existing) : mergeAxes axis existing inferred = .ok existing := by
  induction below generalizing axis with
  | nil => rfl
  | cons head _ ih => simp [mergeAxes, Dimension.merge_of_le head, ih, Except.map]

theorem merge_of_le {existing inferred : Shape} (below : inferred ≤ existing) :
    existing.merge inferred = .ok existing := by
  cases below with
  | unknown => exact merge_unknown_right existing
  | ranked axes => simp [merge, axes.length_eq, mergeAxes_of_leAll axes, Except.map]

end Shape

end ShapeFlow
