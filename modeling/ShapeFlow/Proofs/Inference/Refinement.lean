import ShapeFlow.Proofs.Inference.Fails
import ShapeFlow.Proofs.Shape.Join

/-!
Refining one output by several shapes, one after the other. Whatever their order, the refinements
that are accepted leave the join of all the shapes. The order may decide whether they are accepted,
since a size that is merged early hides that two symbols clash, and nothing else can do so.
-/

namespace ShapeFlow

namespace Shape

variable {start final upper : Shape} {shapes first second : List Shape} {clash : ShapeClash}
  {axis : Nat} {dimension : Dimension}

/-- Merges shapes into one, one after the other. The first clash ends the merging. -/
def mergeAll (start : Shape) (shapes : List Shape) : Except ShapeClash Shape :=
  shapes.foldlM merge start

theorem mergeAll_cons {shape : Shape} :
    start.mergeAll (shape :: shapes) = (start.merge shape).bind (·.mergeAll shapes) := rfl

/-- The shapes say of an axis that a dimension stands there. -/
def OccursAt (shapes : List Shape) (axis : Nat) (dimension : Dimension) : Prop :=
  ∃ shape ∈ shapes, shape.dimensionAt? axis = some dimension

theorem OccursAt.mono (occurs : OccursAt first axis dimension) (within : first ⊆ second) :
    OccursAt second axis dimension := by
  obtain ⟨shape, listed, stands⟩ := occurs
  exact ⟨shape, within listed, stands⟩

theorem OccursAt.of_merge {shape merged : Shape} (done : start.merge shape = .ok merged)
    (occurs : OccursAt (merged :: shapes) axis dimension) :
    OccursAt (start :: shape :: shapes) axis dimension := by
  obtain ⟨holder, listed, stands⟩ := occurs
  rcases List.mem_cons.mp listed with rfl | later
  · rcases dimensionAt?_of_merge done stands with here | there
    · exact ⟨start, List.mem_cons_self, here⟩
    · exact ⟨shape, List.mem_cons_of_mem start List.mem_cons_self, there⟩
  · exact ⟨holder, List.mem_cons_of_mem start (List.mem_cons_of_mem shape later), stands⟩

/-- Merged shapes are joined. -/
theorem mergeAll_le_iff (done : start.mergeAll shapes = .ok final) :
    final ≤ upper ↔ ∀ shape ∈ start :: shapes, shape ≤ upper := by
  induction shapes generalizing start with
  | nil =>
    cases done
    simp
  | cons shape rest ih =>
    rw [mergeAll_cons] at done
    cases step : start.merge shape with
    | error clash => simp [step, Except.bind] at done
    | ok merged =>
      rw [step] at done
      rw [ih done, List.forall_mem_cons, merge_le_iff step, List.forall_mem_cons,
        List.forall_mem_cons, and_assoc]

/-- Every dimension of the merged shape comes from one of the shapes. -/
theorem occursAt_of_mergeAll (done : start.mergeAll shapes = .ok final)
    (stands : final.dimensionAt? axis = some dimension) :
    OccursAt (start :: shapes) axis dimension := by
  induction shapes generalizing start with
  | nil =>
    cases done
    exact ⟨final, List.mem_cons_self, stands⟩
  | cons shape rest ih =>
    rw [mergeAll_cons] at done
    cases step : start.merge shape with
    | error clash => simp [step, Except.bind] at done
    | ok merged =>
      rw [step] at done
      exact (ih done).of_merge step

/-- Shapes that clash although something lies above all of them have two different symbols on one
axis, where the upper bound has a size. -/
theorem symbols_of_mergeAll (failed : start.mergeAll shapes = .error clash)
    (below : ∀ shape ∈ start :: shapes, shape ≤ upper) :
    ∃ axis left right extent, left ≠ right ∧
      OccursAt (start :: shapes) axis (.symbol left) ∧
      OccursAt (start :: shapes) axis (.symbol right) ∧
      upper.dimensionAt? axis = some (.size extent) := by
  induction shapes generalizing start with
  | nil => cases failed
  | cons shape rest ih =>
    rw [mergeAll_cons] at failed
    obtain ⟨startBelow, shapeBelow, restBelow⟩ :=
      (List.forall_mem_cons.trans (and_congr_right fun _ => List.forall_mem_cons)).mp below
    cases step : start.merge shape with
    | error problem =>
      obtain ⟨axis, left, right, extent, different, here, there, sized⟩ :=
        symbols_of_merge step startBelow shapeBelow
      exact ⟨axis, left, right, extent, different, ⟨start, List.mem_cons_self, here⟩,
        ⟨shape, List.mem_cons_of_mem start List.mem_cons_self, there⟩, sized⟩
    | ok merged =>
      rw [step] at failed
      have mergedBelow : merged ≤ upper := (merge_le_iff step).mpr ⟨startBelow, shapeBelow⟩
      obtain ⟨axis, left, right, extent, different, here, there, sized⟩ :=
        ih failed (List.forall_mem_cons.mpr ⟨mergedBelow, restBelow⟩)
      exact ⟨axis, left, right, extent, different, here.of_merge step, there.of_merge step, sized⟩

/-- Two different symbols and a size occur on one axis of the shapes. -/
def SizeHidesClash (shapes : List Shape) : Prop :=
  ∃ axis left right extent, left ≠ right ∧ OccursAt shapes axis (.symbol left) ∧
    OccursAt shapes axis (.symbol right) ∧ OccursAt shapes axis (.size extent)

/-- Shapes that merge in one order and clash in another hide a clash behind a size. -/
theorem sizeHidesClash_of_mergeAll (reordered : first.Perm second)
    (done : start.mergeAll first = .ok final) (failed : start.mergeAll second = .error clash) :
    SizeHidesClash (start :: first) := by
  have same : (start :: first).Perm (start :: second) := reordered.cons start
  have below : ∀ shape ∈ start :: second, shape ≤ final := fun shape listed =>
    (mergeAll_le_iff done).mp (le_refl final) shape (same.mem_iff.mpr listed)
  obtain ⟨axis, left, right, extent, different, here, there, sized⟩ :=
    symbols_of_mergeAll failed below
  exact ⟨axis, left, right, extent, different, here.mono same.symm.subset,
    there.mono same.symm.subset, occursAt_of_mergeAll done sized⟩

/-- Where no axis has two different symbols, shapes that merge in one order merge in every
other. -/
theorem exists_mergeAll_of_perm (reordered : first.Perm second)
    (clear : ∀ axis left right, OccursAt (start :: first) axis (.symbol left) →
      OccursAt (start :: first) axis (.symbol right) → left = right)
    (done : start.mergeAll first = .ok final) : ∃ other, start.mergeAll second = .ok other := by
  cases ended : start.mergeAll second with
  | ok other => exact ⟨other, rfl⟩
  | error clash =>
    obtain ⟨axis, left, right, _, different, here, there, _⟩ :=
      sizeHidesClash_of_mergeAll reordered done ended
    exact absurd (clear axis left right here there) different

theorem mergeAll_unique {other : Shape} (reordered : first.Perm second)
    (done : start.mergeAll first = .ok final) (again : start.mergeAll second = .ok other) :
    final = other := by
  have same : (start :: first).Perm (start :: second) := reordered.cons start
  apply le_antisymm
  · exact (mergeAll_le_iff done).mpr fun shape listed =>
      (mergeAll_le_iff again).mp (le_refl other) shape (same.mem_iff.mp listed)
  · exact (mergeAll_le_iff again).mpr fun shape listed =>
      (mergeAll_le_iff done).mp (le_refl final) shape (same.mem_iff.mpr listed)

end Shape

namespace Context

variable {context : Context} {output : Nat} {current : TensorType} {shape merged : Shape}

theorem write_refineShape (staged : context.outputs[output]? = some current)
    (done : current.shape.merge shape = .ok merged) :
    context.write (.refineShape output shape) =
      .ok (context.restage output { current with shape := merged }) :=
  write_eq_ok_iff.mpr ⟨current, _, staged, by simp [Write.apply, done], rfl⟩

end Context

namespace Inference

open Shape

variable {context final : Context} {output : Nat} {current : TensorType} {merged : Shape}
  {shapes first second : List Shape} {clash : ShapeClash}

/-- Merges shapes into an output, one after the other. The first refusal ends the program. -/
def refineEach (output : Nat) (shapes : List Shape) : Inference Unit :=
  shapes.forM fun shape => perform (.refineShape output shape)

theorem refineEach_cons {shape : Shape} :
    refineEach output (shape :: shapes) =
      (perform (.refineShape output shape) >>= fun _ => refineEach output shapes) := rfl

theorem ends_refineEach (staged : context.outputs[output]? = some current)
    (done : current.shape.mergeAll shapes = .ok merged) :
    Ends (refineEach output shapes) context ()
      (context.restage output { current with shape := merged }) := by
  induction shapes generalizing context current with
  | nil =>
    cases done
    exact ends_done.mpr ⟨rfl, (Context.restage_self staged).symm⟩
  | cons shape rest ih =>
    rw [mergeAll_cons] at done
    cases step : current.shape.merge shape with
    | error clash => simp [step, Except.bind] at done
    | ok joined =>
      rw [step] at done
      have restaged : (context.restage output { current with shape := joined }).outputs[output]? =
          some { current with shape := joined } := Context.outputs_restage staged
      have later := ih restaged done
      rw [Context.restage_restage] at later
      exact ends_bind.mpr ⟨(), _, ends_perform.mpr (Context.write_refineShape staged step), later⟩

theorem fails_refineEach (staged : context.outputs[output]? = some current)
    (failed : current.shape.mergeAll shapes = .error clash) :
    Fails (refineEach output shapes) context (.shapeClash output clash) := by
  induction shapes generalizing context current with
  | nil => cases failed
  | cons shape rest ih =>
    rw [mergeAll_cons] at failed
    rw [refineEach_cons, fails_bind]
    cases step : current.shape.merge shape with
    | error first =>
      rw [step] at failed
      cases failed
      have refused : context.write (.refineShape output shape) =
          .error (.shapeClash output clash) :=
        (Context.write_eq_error_iff staged).mpr
          (Write.refineShape_eq_error_iff.mpr ⟨clash, step, rfl⟩)
      exact .inl (fails_perform.mpr refused)
    | ok joined =>
      rw [step] at failed
      have restaged : (context.restage output { current with shape := joined }).outputs[output]? =
          some { current with shape := joined } := Context.outputs_restage staged
      exact .inr ⟨(), _, ends_perform.mpr (Context.write_refineShape staged step),
        ih restaged failed⟩

/-- Refinements are accepted exactly when the shapes merge. -/
theorem ends_refineEach_iff (staged : context.outputs[output]? = some current) :
    Ends (refineEach output shapes) context () final ↔
      ∃ merged, current.shape.mergeAll shapes = .ok merged ∧
        final = context.restage output { current with shape := merged } := by
  constructor
  · intro ends
    cases ended : current.shape.mergeAll shapes with
    | error clash => cases ends.1.symm.trans (fails_refineEach staged ended)
    | ok merged => exact ⟨merged, rfl, ends.2.symm.trans (ends_refineEach staged ended).2⟩
  · rintro ⟨merged, done, rfl⟩
    exact ends_refineEach staged done

theorem exists_ends_refineEach_iff (staged : context.outputs[output]? = some current) :
    (∃ final, Ends (refineEach output shapes) context () final) ↔
      ∃ merged, current.shape.mergeAll shapes = .ok merged := by
  constructor
  · rintro ⟨final, ends⟩
    obtain ⟨merged, done, _⟩ := (ends_refineEach_iff staged).mp ends
    exact ⟨merged, done⟩
  · rintro ⟨merged, done⟩
    exact ⟨_, ends_refineEach staged done⟩

/-- What the order of refinements decides. -/
structure OrderMatters (context : Context) (output : Nat) (current : TensorType)
    (first second : List Shape) : Prop where
  /-- Where both orders are accepted, they leave one and the same shape, and nothing else
  differs. -/
  same : ∀ left right, Ends (refineEach output first) context () left →
    Ends (refineEach output second) context () right → left = right
  /-- Where only one order is accepted, a size hides that two symbols clash on some axis. -/
  hidden : ∀ left failure, Ends (refineEach output first) context () left →
    Fails (refineEach output second) context failure → SizeHidesClash (current.shape :: first)
  /-- Where no axis has two different symbols, both orders are accepted or none is. -/
  together : (∀ axis left right, OccursAt (current.shape :: first) axis (.symbol left) →
      OccursAt (current.shape :: first) axis (.symbol right) → left = right) →
    ((∃ left, Ends (refineEach output first) context () left) ↔
      ∃ right, Ends (refineEach output second) context () right)

/-- The order of refinements decides at most whether they are accepted, and that only where a size
hides a clash. -/
theorem refineEach_reordered (staged : context.outputs[output]? = some current)
    (reordered : first.Perm second) : OrderMatters context output current first second := by
  constructor
  case same =>
    intro left right accepted again
    obtain ⟨merged, done, rfl⟩ := (ends_refineEach_iff staged).mp accepted
    obtain ⟨other, redone, rfl⟩ := (ends_refineEach_iff staged).mp again
    rw [mergeAll_unique reordered done redone]
  case hidden =>
    intro left failure accepted refused
    obtain ⟨merged, done, _⟩ := (ends_refineEach_iff staged).mp accepted
    cases ended : current.shape.mergeAll second with
    | error clash => exact sizeHidesClash_of_mergeAll reordered done ended
    | ok other => cases (ends_refineEach staged ended).1.symm.trans refused
  case together =>
    intro clear
    have within : current.shape :: second ⊆ current.shape :: first :=
      (reordered.cons current.shape).symm.subset
    rw [exists_ends_refineEach_iff staged, exists_ends_refineEach_iff staged]
    constructor
    · rintro ⟨merged, done⟩
      exact exists_mergeAll_of_perm reordered clear done
    · rintro ⟨merged, done⟩
      refine exists_mergeAll_of_perm reordered.symm (fun axis left right here there => ?_) done
      exact clear axis left right (here.mono within) (there.mono within)

/-- A node with one output of which nothing is known. -/
def openOutput : Context where
  node := { opType := "Scale" }
  signature := { id := .normalized "" "Scale" 1 }
  outputs := [{}]

/-- The size comes before the other name of the axis. -/
def sizedEarly : List Shape :=
  [.ranked [.symbol "rows"], .ranked [.size 3], .ranked [.symbol "lines"]]

/-- Both names of the axis come before the size. -/
def sizedLate : List Shape :=
  [.ranked [.symbol "rows"], .ranked [.symbol "lines"], .ranked [.size 3]]

theorem refineEach_reordered_sized :
    sizedEarly.Perm sizedLate ∧
      Ends (refineEach 0 sizedEarly) openOutput ()
        (openOutput.restage 0 { shape := .ranked [.size 3] }) ∧
      Fails (refineEach 0 sizedLate) openOutput (.shapeClash 0 (.symbol 0 "rows" "lines")) ∧
      SizeHidesClash (.unknown :: sizedEarly) := by
  have staged : openOutput.outputs[0]? = some ({} : TensorType) := rfl
  have reordered : sizedEarly.Perm sizedLate := .cons _ (.swap _ _ _)
  have done : Shape.unknown.mergeAll sizedEarly = .ok (.ranked [.size 3]) := rfl
  have failed : Shape.unknown.mergeAll sizedLate = .error (.symbol 0 "rows" "lines") := rfl
  have accepted := ends_refineEach staged done
  have refused := fails_refineEach staged failed
  exact ⟨reordered, accepted, refused,
    (refineEach_reordered staged reordered).hidden _ _ accepted refused⟩

end Inference

end ShapeFlow
