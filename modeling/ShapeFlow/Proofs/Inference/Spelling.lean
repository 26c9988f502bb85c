import ShapeFlow.Proofs.Attribute.Spelling
import ShapeFlow.Proofs.Inference.Family

/-!
Inference functions and the spelling of domains. A program that never looks at how its node spells
domains runs alike under every spelling. Such programs are closed under sequencing, so the shared
inference functions are among them.
-/

namespace ShapeFlow

variable {α β : Type} {scope : SpellingScope}

namespace Context

variable (scope) (context : Context)

/-- The context with its node in the normalized spelling, as far as the scope goes. -/
def spelled : Context :=
  { context with node := context.node.spelled scope }

theorem attribute?_spelled (name : String) :
    (context.spelled scope).attribute? name =
      ((context.node.attributes.get? name).map (AttributeValue.spelled scope)).or
        ((context.signature.attribute? name).bind AttributeSpec.default?) := by
  simp only [attribute?, spelled, NodeOf.spelled, NameMap.get?_spelled]

theorem hasAttribute_spelled (name : String) :
    (context.spelled scope).hasAttribute name = context.hasAttribute name := by
  rw [hasAttribute, hasAttribute, attribute?_spelled, attribute?]
  cases context.node.attributes.get? name <;> rfl

theorem int?_spelled (name : String) : (context.spelled scope).int? name = context.int? name := by
  rw [int?, int?, attribute?_spelled, attribute?]
  cases context.node.attributes.get? name with
  | none => rfl
  | some value => cases scope <;> cases value <;> rfl

theorem ints?_spelled (name : String) :
    (context.spelled scope).ints? name = context.ints? name := by
  rw [ints?, ints?, attribute?_spelled, attribute?]
  cases context.node.attributes.get? name with
  | none => rfl
  | some value => cases scope <;> cases value <;> rfl

theorem write_spelled (change : Write) :
    (context.spelled scope).write change = (context.write change).map (spelled scope) := by
  have sameOutputs : (context.spelled scope).outputs = context.outputs := rfl
  rw [write, write, sameOutputs]
  cases context.outputs[change.output]? with
  | none => rfl
  | some current => cases applied : change.apply current <;> simp [Except.map, applied, spelled]

end Context

namespace Inference

/-- What a run leaves behind, with the node in the normalized spelling. -/
def Run.spelled (scope : SpellingScope) (run : Run α) : Run α :=
  { run with context := run.context.spelled scope }

/-- Nothing that the program does follows from how its node spells domains. -/
def OverlooksSpelling (scope : SpellingScope) : Inference α → Prop
  | .done _ => True
  | .fail _ => True
  | .inspect next => ∀ context, (next context).OverlooksSpelling scope ∧
      next (context.spelled scope) = next context
  | .write _ next => ∀ result, (next result).OverlooksSpelling scope
  | .note _ next => next.OverlooksSpelling scope

/-- A program that overlooks the spelling runs alike in the normalized spelling. -/
theorem run_spelled {program : Inference α} (overlooks : program.OverlooksSpelling scope)
    (context : Context) :
    program.run (context.spelled scope) = (program.run context).spelled scope := by
  induction program generalizing context with
  | done answer => rfl
  | fail failure => rfl
  | inspect next ih =>
    obtain ⟨later, same⟩ := overlooks context
    rw [run, run, same]
    exact ih context later context
  | write change next ih =>
    rw [run, run, Context.write_spelled]
    cases context.write change with
    | ok written => exact ih _ (overlooks _) written
    | error failure => exact ih _ (overlooks _) context
  | note text next ih =>
    rw [run, run, ih overlooks]
    rfl

namespace OverlooksSpelling

theorem pure (answer : α) : (Pure.pure answer : Inference α).OverlooksSpelling scope := trivial

theorem ofExcept (value : Except InferenceFailure α) :
    (ofExcept value).OverlooksSpelling scope := by
  cases value with
  | ok answer => trivial
  | error failure => trivial

theorem demand {question : Context → Except InferenceFailure α}
    (steady : ∀ context : Context, question (context.spelled scope) = question context) :
    (demand question).OverlooksSpelling scope :=
  fun context => ⟨ofExcept (question context), congrArg Inference.ofExcept (steady context)⟩

theorem ask {question : Context → α}
    (steady : ∀ context : Context, question (context.spelled scope) = question context) :
    (ask question).OverlooksSpelling scope :=
  fun context => ⟨trivial, congrArg Inference.done (steady context)⟩

theorem perform (change : Write) : (perform change).OverlooksSpelling scope :=
  fun result => ofExcept result

theorem bind {program : Inference α} {after : α → Inference β}
    (first : program.OverlooksSpelling scope)
    (second : ∀ answer, (after answer).OverlooksSpelling scope) :
    (program >>= after).OverlooksSpelling scope := by
  change (program.bind after).OverlooksSpelling scope
  induction program with
  | done answer => exact second answer
  | fail failure => trivial
  | inspect next ih =>
    intro context
    obtain ⟨later, same⟩ := first context
    exact ⟨ih context later, congrArg (·.bind after) same⟩
  | write change next ih => exact fun result => ih result (first result)
  | note text next ih => exact ih first

theorem propagateElementType (input output : Nat) :
    (Inference.propagateElementType input output).OverlooksSpelling scope := by
  refine bind (ask fun _ => rfl) fun known => ?_
  cases known with
  | none => exact .pure ()
  | some type => exact .perform _

theorem propagateShape (input output : Nat) :
    (Inference.propagateShape input output).OverlooksSpelling scope := by
  refine bind (ask fun _ => rfl) fun known => ?_
  cases known with
  | none => exact .pure ()
  | some shape => exact .perform _

theorem propagateShapeAttribute (name : String) (output : Nat) :
    (Inference.propagateShapeAttribute name output).OverlooksSpelling scope := by
  refine bind (demand fun context => context.ints?_spelled scope name) fun found => ?_
  cases found with
  | none => trivial
  | some sizes => exact bind (.ofExcept _) fun dimensions => .perform _

theorem extendFirstInput (further : List Dimension) :
    (Inference.extendFirstInput further).OverlooksSpelling scope := by
  refine bind (ask fun _ => rfl) fun known => ?_
  cases ranked : known.bind Shape.dimensions? with
  | none => simpa only [ranked] using .pure InferenceOutcome.deferred
  | some dimensions =>
    simpa only [ranked] using bind (.perform _) fun _ => .pure InferenceOutcome.inferred

theorem fillFromInput : Inference.fillFromInput.OverlooksSpelling scope := by
  refine bind (demand fun context => context.int?_spelled scope _) fun flag => ?_
  split
  · exact .pure InferenceOutcome.deferred
  · refine bind (demand fun context => context.ints?_spelled scope _) fun sizes => ?_
    exact bind (.ofExcept _) extendFirstInput

end OverlooksSpelling

end Inference

namespace InferenceFunction

open Inference

/-- How nodes spell domains makes no difference to an inference function. -/
def IgnoresSpelling (scope : SpellingScope) (function : InferenceFunction) : Prop :=
  ∀ context : Context,
    function.program.run (context.spelled scope) = (function.program.run context).spelled scope

theorem IgnoresSpelling.of_overlooks {function : InferenceFunction}
    (overlooks : function.program.OverlooksSpelling scope) : function.IgnoresSpelling scope :=
  run_spelled overlooks

theorem passThrough_overlooksSpelling : passThrough.program.OverlooksSpelling scope := by
  refine .bind (.bind (.propagateElementType 0 0) fun _ => .propagateShape 0 0) fun _ => ?_
  exact .pure InferenceOutcome.inferred

theorem fill_overlooksSpelling : fill.program.OverlooksSpelling scope := by
  refine .bind (.propagateElementType 0 0) fun _ => ?_
  refine .bind (.ask fun context => context.hasAttribute_spelled scope "shape") fun given => ?_
  split
  · exact .bind (.propagateShapeAttribute "shape" 0) fun _ => .pure InferenceOutcome.inferred
  · exact .fillFromInput

theorem Shared.ignoresSpelling {function : InferenceFunction} (shared : function.Shared) :
    function.IgnoresSpelling scope := by
  rcases shared with rfl | rfl
  · exact .of_overlooks passThrough_overlooksSpelling
  · exact .of_overlooks fill_overlooksSpelling

end InferenceFunction

end ShapeFlow
