import Mathlib.Data.Set.Basic
import ShapeFlow.Proofs.Inference.Family
import ShapeFlow.Proofs.Inference.Growth

/-!
Running a program again. A program that reads nothing of its outputs and replaces no shape asks for
the same things whenever its inputs are the same. Where what it asked for is known already, a second
run changes nothing, and where it is not known the second run does what the first one did.
-/

namespace ShapeFlow

variable {α β : Type}

/-- A write that asks for no more than is known of a type leaves the type as it is. -/
theorem Write.apply_of_asked_le {change : Write} {current : TensorType}
    (keeps : change.keepsShape = true) (known : change.asked ≤ current) :
    change.apply current = .ok current := by
  cases change with
  | replaceShape output shape => cases keeps
  | elementType output type => simp [apply, known.elementType type rfl]
  | refineShape output shape =>
    have merged : current.shape.merge shape = .ok current.shape := Shape.merge_of_le known.shape
    simp [apply, merged]

theorem Context.write_of_asked_le {context : Context} {change : Write} {current : TensorType}
    (keeps : change.keepsShape = true) (staged : context.outputs[change.output]? = some current)
    (known : change.asked ≤ current) : context.write change = .ok context := by
  have unchanged : context.outputs.set change.output current = context.outputs := by
    obtain ⟨bound, same⟩ := List.getElem?_eq_some_iff.mp staged
    rw [← same, List.set_getElem_self]
  exact Context.write_eq_ok_iff.mpr
    ⟨current, current, staged, Write.apply_of_asked_le keeps known, by rw [unchanged]⟩

namespace Inference

variable {places : Set Nat} {before final later context : Context}

/-- A later context for a run that was made before. At some places it knows what the run left there,
at all others what the run started from. -/
structure Revisit (places : Set Nat) (before final later : Context) : Prop where
  same : before.SameInputs later
  known : ∀ place ∈ places, ∀ reached, final.outputs[place]? = some reached →
    ∃ current, later.outputs[place]? = some current ∧ reached ≤ current
  fresh : ∀ place ∉ places, later.outputs[place]? = before.outputs[place]?

/-- A second run that ends as the first one did. It changes nothing at some places and leaves at all
others what the first run left there. -/
structure Repeated (places : Set Nat) (first : Run α) (later : Context) (second : Run α) :
    Prop where
  result : second.result = first.result
  notes : second.notes = first.notes
  same : later.SameInputs second.context
  kept : ∀ place ∈ places, second.context.outputs[place]? = later.outputs[place]?
  redone : ∀ place ∉ places, second.context.outputs[place]? = first.context.outputs[place]?

/-- A program that only adds to what is known, and that does so again when it is run again. -/
structure Repeatable (program : Inference α) : Prop where
  keepsShapes : program.KeepsShapes
  again : ∀ {places : Set Nat} {before later : Context} {answer : α},
    (program.run before).result = .ok answer →
      Revisit places before (program.run before).context later →
      Repeated places (program.run before) later (program.run later)

namespace Repeatable

theorem pure (answer : α) : (Pure.pure answer : Inference α).Repeatable where
  keepsShapes _ change attempted := by cases attempted
  again {_ _ later _} _ revisit := ⟨rfl, rfl, .refl later, fun _ _ => rfl, revisit.fresh⟩

theorem fail (failure : InferenceFailure) : (Inference.fail failure : Inference α).Repeatable where
  keepsShapes _ change attempted := by cases attempted
  again impossible := by cases impossible

theorem ofExcept (value : Except InferenceFailure α) : (Inference.ofExcept value).Repeatable := by
  cases value with
  | ok answer => exact .pure answer
  | error failure => exact .fail failure

/-- Only what does not change between runs may be asked. -/
theorem demand {question : Context → Except InferenceFailure α}
    (steady : ∀ {left right : Context}, left.SameInputs right → question right = question left) :
    (Inference.demand question).Repeatable where
  keepsShapes context := (ofExcept (question context)).keepsShapes context
  again {_ before later _} ended revisit := by
    have repeated := (ofExcept (question before)).again ended revisit
    rw [← steady revisit.same] at repeated
    simpa only [Inference.demand, run, steady revisit.same] using repeated

theorem ask {question : Context → α}
    (steady : ∀ {left right : Context}, left.SameInputs right → question right = question left) :
    (Inference.ask question).Repeatable := by
  have demanded : (Inference.demand fun context => .ok (question context)).Repeatable :=
    demand fun same => congrArg Except.ok (steady same)
  exact demanded

/-- A write that is repeated finds what it asks for, or else it is made again. -/
theorem perform {change : Write} (keeps : change.keepsShape = true) :
    (Inference.perform change).Repeatable where
  keepsShapes context other attempted := by
    have single : (Inference.perform change).attempts context = [change] := by
      cases accepted : context.write change <;> simp [Inference.perform, attempts, accepted,
        Inference.ofExcept]
    rw [single, List.mem_singleton] at attempted
    rw [attempted, keeps]
  again {places before later answer} ended revisit := by
    have accepted := ends_perform.mp ⟨ended, rfl⟩
    obtain ⟨current, updated, staged, applied, written⟩ := Context.write_eq_ok_iff.mp accepted
    rw [run_perform_of_ok accepted] at revisit ⊢
    simp only [written] at revisit ⊢
    have bound := (List.getElem?_eq_some_iff.mp staged).1
    by_cases here : change.output ∈ places
    · obtain ⟨held, stagedLater, more⟩ :=
        revisit.known _ here updated (List.getElem?_set_self bound)
      have asked : change.asked ≤ held := (change.apply_le_iff keeps applied |>.mp more).2
      rw [run_perform_of_ok (Context.write_of_asked_le keeps stagedLater asked)]
      refine ⟨rfl, rfl, .refl later, fun _ _ => rfl, fun place outside => ?_⟩
      have elsewhere : change.output ≠ place := fun same => outside (same ▸ here)
      rw [List.getElem?_set_ne elsewhere, revisit.fresh place outside]
    · have stagedLater := (revisit.fresh _ here).trans staged
      have boundLater := (List.getElem?_eq_some_iff.mp stagedLater).1
      rw [run_perform_of_ok
        (Context.write_eq_ok_iff.mpr ⟨current, updated, stagedLater, applied, rfl⟩)]
      refine ⟨rfl, rfl, ⟨rfl, rfl, rfl⟩, fun place inside => ?_, fun place outside => ?_⟩
      · have elsewhere : change.output ≠ place := fun same => here (same ▸ inside)
        exact List.getElem?_set_ne elsewhere
      · by_cases same : change.output = place
        · subst same
          rw [List.getElem?_set_self bound, List.getElem?_set_self boundLater]
        · rw [List.getElem?_set_ne same, List.getElem?_set_ne same, revisit.fresh place outside]

/-- A sequence is repeated part by part. The second part of the first run only added to what the
first part left, so the first part is revisited too. -/
theorem bind {program : Inference α} {after : α → Inference β} (first : program.Repeatable)
    (second : ∀ answer, (after answer).Repeatable) : (program >>= after).Repeatable where
  keepsShapes context change attempted := by
    rw [attempts_bind, List.mem_append] at attempted
    rcases attempted with early | late
    · exact first.keepsShapes context change early
    · split at late
      · exact (second _).keepsShapes _ change late
      · cases late
  again {places before later answer} ended revisit := by
    have sequence (context : Context) :
        (program >>= after).run context = (program.run context).andThen after :=
      run_bind program after context
    rw [sequence, sequence]
    rw [sequence] at ended revisit
    cases reached : (program.run before).result with
    | error failure => simp [Run.andThen, reached] at ended
    | ok middle =>
      simp only [Run.andThen, reached] at ended revisit ⊢
      have early : Revisit places before (program.run before).context later := by
        refine ⟨revisit.same, fun place inside current staged => ?_, revisit.fresh⟩
        obtain ⟨more, stagedMore, lower⟩ :=
          (second middle).keepsShapes.raises _ place current staged
        obtain ⟨held, stagedLater, upper⟩ := revisit.known place inside more stagedMore
        exact ⟨held, stagedLater, le_trans lower upper⟩
      have repeated := first.again reached early
      have late : Revisit places (program.run before).context
          ((after middle).run (program.run before).context).context
          (program.run later).context := by
        refine ⟨?_, fun place inside current staged => ?_, repeated.redone⟩
        · exact (sameInputs_run program before).symm.trans (revisit.same.trans repeated.same)
        · rw [repeated.kept place inside]
          exact revisit.known place inside current staged
      have again := (second middle).again ended late
      simp only [repeated.result, reached]
      refine ⟨again.result, by rw [again.notes, repeated.notes], repeated.same.trans again.same,
        fun place inside => ?_, again.redone⟩
      exact (again.kept place inside).trans (repeated.kept place inside)

theorem propagateElementType (input output : Nat) :
    (Inference.propagateElementType input output).Repeatable := by
  refine bind (ask fun same => same.inputType?_eq input) fun known => ?_
  cases known with
  | none => exact .pure ()
  | some type => exact .perform rfl

theorem propagateShape (input output : Nat) :
    (Inference.propagateShape input output).Repeatable := by
  refine bind (ask fun same => same.inputShape?_eq input) fun known => ?_
  cases known with
  | none => exact .pure ()
  | some shape => exact .perform rfl

theorem propagateShapeAttribute (name : String) (output : Nat) :
    (Inference.propagateShapeAttribute name output).Repeatable := by
  refine bind (demand fun same => same.ints?_eq name) fun found => ?_
  cases found with
  | none => exact .fail _
  | some sizes => exact bind (.ofExcept _) fun dimensions => .perform rfl

theorem extendFirstInput (further : List Dimension) :
    (Inference.extendFirstInput further).Repeatable := by
  refine bind (ask fun same => same.inputShape?_eq 0) fun known => ?_
  cases ranked : known.bind Shape.dimensions? with
  | none => simpa only [ranked] using .pure InferenceOutcome.deferred
  | some dimensions =>
    simpa only [ranked] using bind (.perform rfl) fun _ => .pure InferenceOutcome.inferred

theorem fillFromInput : Inference.fillFromInput.Repeatable := by
  refine bind (demand fun same => same.int?_eq "input_as_shape") fun flag => ?_
  split
  · exact .pure InferenceOutcome.deferred
  · refine bind (demand fun same => same.ints?_eq "extra_shape") fun sizes => ?_
    exact bind (.ofExcept _) extendFirstInput

end Repeatable

end Inference

namespace InferenceFunction

open Inference

theorem passThrough_repeatable : passThrough.program.Repeatable := by
  refine .bind (.bind (.propagateElementType 0 0) fun _ => .propagateShape 0 0) fun _ => ?_
  exact .pure InferenceOutcome.inferred

theorem fill_repeatable : fill.program.Repeatable := by
  refine .bind (.propagateElementType 0 0) fun _ => ?_
  refine .bind (.ask fun same => same.hasAttribute_eq "shape") fun given => ?_
  split
  · exact .bind (.propagateShapeAttribute "shape" 0) fun _ => .pure InferenceOutcome.inferred
  · exact .fillFromInput

theorem Shared.repeatable {function : InferenceFunction} (shared : function.Shared) :
    function.program.Repeatable := by
  rcases shared with rfl | rfl
  · exact passThrough_repeatable
  · exact fill_repeatable

end InferenceFunction

end ShapeFlow
