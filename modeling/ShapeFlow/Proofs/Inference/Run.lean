import ShapeFlow.Inference.Program

/-!
Runs of inference programs. A program reaches its context only by writes, so whatever every
accepted write preserves is preserved by every run, a failed one included.
-/

namespace ShapeFlow

variable {α β : Type} {context written final : Context} {change : Write}

namespace Context

/-- An accepted write replaces the one staged type that it addresses. -/
theorem write_eq_ok_iff :
    context.write change = .ok written ↔
      ∃ current updated, context.outputs[change.output]? = some current ∧
        change.apply current = .ok updated ∧
        written = { context with outputs := context.outputs.set change.output updated } := by
  cases addressed : context.outputs[change.output]? with
  | none => simp [write, addressed]
  | some current =>
    cases applied : change.apply current <;> simp [write, addressed, applied, eq_comm]

variable {output : Nat} {current type other : TensorType}

/-- The context with another staged type of one output. -/
def restage (context : Context) (output : Nat) (type : TensorType) : Context :=
  { context with outputs := context.outputs.set output type }

theorem restage_self (staged : context.outputs[output]? = some current) :
    context.restage output current = context := by
  obtain ⟨bounded, rfl⟩ := List.getElem?_eq_some_iff.mp staged
  rw [restage, List.set_getElem_self]

theorem restage_restage :
    (context.restage output type).restage output other = context.restage output other := by
  simp only [restage, List.set_set]

theorem outputs_restage (staged : context.outputs[output]? = some current) :
    (context.restage output type).outputs[output]? = some type :=
  List.getElem?_set_self (List.getElem?_eq_some_iff.mp staged).1

end Context

/-- Two contexts of one node that differ at most in their bindings and staged types. -/
structure Context.SameInputs (left right : Context) : Prop where
  node : right.node = left.node
  signature : right.signature = left.signature
  inputs : right.inputs = left.inputs

namespace Context.SameInputs

variable {left middle right : Context}

theorem refl (context : Context) : SameInputs context context := ⟨rfl, rfl, rfl⟩

theorem symm (same : SameInputs left right) : SameInputs right left :=
  ⟨same.node.symm, same.signature.symm, same.inputs.symm⟩

theorem trans (first : SameInputs left middle) (second : SameInputs middle right) :
    SameInputs left right :=
  ⟨second.node.trans first.node, second.signature.trans first.signature,
    second.inputs.trans first.inputs⟩

theorem inputType?_eq (same : SameInputs left right) (index : Nat) :
    right.inputType? index = left.inputType? index := by
  simp only [inputType?, input?, same.inputs]

theorem inputShape?_eq (same : SameInputs left right) (index : Nat) :
    right.inputShape? index = left.inputShape? index := by
  simp only [inputShape?, input?, same.inputs]

theorem attribute?_eq (same : SameInputs left right) (name : String) :
    right.attribute? name = left.attribute? name := by
  simp only [attribute?, same.node, same.signature]

theorem hasAttribute_eq (same : SameInputs left right) (name : String) :
    right.hasAttribute name = left.hasAttribute name := by
  simp only [hasAttribute, same.attribute?_eq]

theorem int?_eq (same : SameInputs left right) (name : String) :
    right.int? name = left.int? name := by
  simp only [int?, same.attribute?_eq]

theorem ints?_eq (same : SameInputs left right) (name : String) :
    right.ints? name = left.ints? name := by
  simp only [ints?, same.attribute?_eq]

theorem float?_eq (same : SameInputs left right) (name : String) :
    right.float? name = left.float? name := by
  simp only [float?, same.attribute?_eq]

end Context.SameInputs

namespace Inference

/-- What every accepted write preserves, every run preserves. -/
theorem run_preserves (holds : Context → Prop)
    (step : ∀ {context written : Context} {change : Write}, holds context →
      context.write change = .ok written → holds written)
    (program : Inference α) (start : holds context) : holds (program.run context).context := by
  induction program generalizing context with
  | done answer => exact start
  | fail failure => exact start
  | inspect next ih => exact ih context start
  | write change next ih =>
    simp only [run]
    split
    · rename_i written accepted
      exact ih _ (step start accepted)
    · exact ih _ start
  | note text next ih => exact ih start

theorem run_perform_of_ok (accepted : context.write change = .ok written) :
    (perform change).run context = { context := written, result := .ok () } := by
  simp [perform, run, accepted, ofExcept]

theorem run_perform_of_error {failure : InferenceFailure}
    (refused : context.write change = .error failure) :
    (perform change).run context = { context, result := .error failure } := by
  simp [perform, run, refused, ofExcept]

theorem sameInputs_run (program : Inference α) (context : Context) :
    context.SameInputs (program.run context).context := by
  refine run_preserves (fun reached => context.SameInputs reached) (fun same accepted => ?_)
    program (.refl context)
  obtain ⟨_, _, _, _, rfl⟩ := Context.write_eq_ok_iff.mp accepted
  exact same.trans ⟨rfl, rfl, rfl⟩

/-- A run from a context ends with an answer and leaves a final context. -/
def Ends (program : Inference α) (context : Context) (answer : α) (final : Context) : Prop :=
  (program.run context).result = .ok answer ∧ (program.run context).context = final

@[simp] theorem ends_done {value answer : α} :
    Ends (.done value) context answer final ↔ value = answer ∧ context = final := by
  simp [Ends, run]

@[simp] theorem ends_pure {value answer : α} :
    Ends (pure value) context answer final ↔ value = answer ∧ context = final :=
  ends_done

@[simp] theorem ends_fail {failure : InferenceFailure} {answer : α} :
    ¬ Ends (.fail failure) context answer final := by
  simp [Ends, run]

@[simp] theorem ends_bind {program : Inference α} {after : α → Inference β} {answer : β} :
    Ends (program >>= after) context answer final ↔
      ∃ middle reached, Ends program context middle reached ∧
        Ends (after middle) reached answer final := by
  have sequence : (program >>= after).run context = (program.run context).andThen after :=
    run_bind program after context
  simp only [Ends, sequence, Run.andThen]
  cases ended : (program.run context).result with
  | error failure => simp
  | ok middle =>
    constructor
    · intro both
      exact ⟨middle, _, ⟨rfl, rfl⟩, both⟩
    · rintro ⟨_, _, ⟨same, rfl⟩, both⟩
      cases same
      exact both

theorem ends_bind_of_ends {program : Inference α} {after : α → Inference β} {middle : α}
    {answer : β} {reached : Context} (ends : Ends program context middle reached) :
    Ends (program >>= after) context answer final ↔ Ends (after middle) reached answer final := by
  have sequence : (program >>= after).run context = (program.run context).andThen after :=
    run_bind program after context
  simp only [Ends, sequence, Run.andThen, ends.1, ends.2]

@[simp] theorem ends_ask {question : Context → α} {answer : α} :
    Ends (ask question) context answer final ↔ question context = answer ∧ context = final :=
  ends_done

@[simp] theorem ends_ofExcept {value : Except InferenceFailure α} {answer : α} :
    Ends (ofExcept value) context answer final ↔ value = .ok answer ∧ context = final := by
  cases value <;> simp [ofExcept]

@[simp] theorem ends_demand {question : Context → Except InferenceFailure α} {answer : α} :
    Ends (demand question) context answer final ↔
      question context = .ok answer ∧ context = final :=
  ends_ofExcept

@[simp] theorem ends_perform {answer : Unit} :
    Ends (perform change) context answer final ↔ context.write change = .ok final := by
  cases accepted : context.write change <;> simp [Ends, perform, run, accepted, ofExcept]

theorem length_outputs_run (program : Inference α) (context : Context) :
    (program.run context).context.outputs.length = context.outputs.length := by
  refine run_preserves (fun reached => reached.outputs.length = context.outputs.length)
    (fun kept accepted => ?_) program rfl
  obtain ⟨_, _, _, _, rfl⟩ := Context.write_eq_ok_iff.mp accepted
  simpa using kept

end Inference

end ShapeFlow
