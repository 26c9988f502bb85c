import ShapeFlow.Proofs.Inference.Family

/-!
When the shared inference functions fail. How a program fails is told step by step, as is how it
ends. Where the first output is there, the attributes have their kinds and the element types agree,
only shapes are left to fail on.
-/

namespace ShapeFlow

namespace Context

variable {context : Context} {change : Write} {current : TensorType} {failure : InferenceFailure}

theorem write_eq_error_iff (staged : context.outputs[change.output]? = some current) :
    context.write change = .error failure ↔ change.apply current = .error failure := by
  cases applied : change.apply current <;> simp [write, staged, applied]

/-- The context once its first output has the element type of the first input, if that is known, and
a shape. -/
def filled (context : Context) (declared : TensorType) (shape : Shape) : Context :=
  context.restage 0 { elementType := (context.inputType? 0).or declared.elementType, shape }

theorem outputs_filled {current : TensorType} (declared : TensorType) (shape : Shape)
    (staged : context.outputs[0]? = some current) :
    (context.filled declared shape).outputs[0]? =
      some { elementType := (context.inputType? 0).or declared.elementType, shape } :=
  outputs_restage staged

/-- The dimensions of the first input, if its rank is known. -/
def inputDimensions? (context : Context) : Option (List Dimension) :=
  (context.inputShape? 0).bind Shape.dimensions?

theorem inputShape?_eq_some_iff {shape : Shape} :
    context.inputShape? 0 = some shape ↔
      ∃ dimensions, context.inputDimensions? = some dimensions ∧ shape = .ranked dimensions := by
  rw [inputDimensions?]
  cases known : context.inputShape? 0 with
  | none => simp
  | some found =>
    cases found with
    | ranked dimensions => simp [Shape.dimensions?, eq_comm]
    | unknown => simp [inputShape?, Option.filter_eq_some_iff, Shape.isRanked] at known

theorem SameInputs.inputDimensions?_eq {left right : Context} (same : left.SameInputs right) :
    right.inputDimensions? = left.inputDimensions? := by
  rw [inputDimensions?, same.inputShape?_eq, ← inputDimensions?]

end Context

theorem Write.refineShape_eq_error_iff {output : Nat} {shape : Shape} {current : TensorType}
    {failure : InferenceFailure} :
    (refineShape output shape).apply current = .error failure ↔
      ∃ clash, current.shape.merge shape = .error clash ∧ failure = .shapeClash output clash := by
  cases merged : current.shape.merge shape <;> simp [apply, merged, eq_comm]

namespace Inference

variable {α β : Type} {context reached : Context} {change : Write} {failure : InferenceFailure}
  {current : TensorType} {input output : Nat}

/-- A run from a context fails. -/
def Fails (program : Inference α) (context : Context) (failure : InferenceFailure) : Prop :=
  (program.run context).result = .error failure

theorem exists_fails_iff {program : Inference α} :
    (∃ failure, Fails program context failure) ↔
      ∀ answer final, ¬Ends program context answer final := by
  cases ended : (program.run context).result <;> simp [Fails, Ends, ended]

@[simp] theorem fails_done {value : α} : ¬Fails (.done value) context failure := by
  simp [Fails, run]

@[simp] theorem fails_pure {value : α} : ¬Fails (pure value) context failure :=
  fails_done

@[simp] theorem fails_fail {given : InferenceFailure} :
    Fails (.fail given : Inference α) context failure ↔ given = failure := by
  simp [Fails, run]

/-- A sequence fails in its first part, or in the other part after the first one ended. -/
theorem fails_bind {program : Inference α} {after : α → Inference β} :
    Fails (program >>= after) context failure ↔
      Fails program context failure ∨
        ∃ middle reached, Ends program context middle reached ∧
          Fails (after middle) reached failure := by
  have sequence : (program >>= after).run context = (program.run context).andThen after :=
    run_bind program after context
  simp only [Fails, Ends, sequence, Run.andThen]
  cases ended : (program.run context).result with
  | error failure => simp
  | ok middle =>
    constructor
    · exact fun fails => .inr ⟨middle, _, ⟨rfl, rfl⟩, fails⟩
    · rintro (impossible | ⟨_, _, ⟨same, rfl⟩, fails⟩)
      · cases impossible
      · cases same
        exact fails

theorem fails_bind_of_ends {program : Inference α} {after : α → Inference β} {middle : α}
    (ends : Ends program context middle reached) :
    Fails (program >>= after) context failure ↔ Fails (after middle) reached failure := by
  have sequence : (program >>= after).run context = (program.run context).andThen after :=
    run_bind program after context
  simp only [Fails, sequence, Run.andThen, ends.1, ends.2]

@[simp] theorem fails_ofExcept {value : Except InferenceFailure α} :
    Fails (ofExcept value) context failure ↔ value = .error failure := by
  cases value <;> simp [ofExcept]

@[simp] theorem fails_perform :
    Fails (perform change) context failure ↔ context.write change = .error failure := by
  cases accepted : context.write change <;> simp [Fails, perform, run, accepted, ofExcept]

theorem dimensionsOf_eq_error_iff {sizes : List Int} :
    dimensionsOf sizes = .error failure ↔
      ∃ size, sizes.find? (fun size => size < 0) = some size ∧ failure = .negativeSize size := by
  induction sizes with
  | nil => simp [dimensionsOf]
  | cons size rest ih =>
    by_cases negative : size < 0
    · simp [dimensionsOf, negative, eq_comm]
    · rw [dimensionsOf, if_neg negative, List.find?_cons_of_neg (by simpa using negative), ← ih]
      cases dimensionsOf rest <;> simp [Except.map]

/-- Sizes cannot stand behind dimensions in the shape of an output: a size is negative, or what is
known of the shape does not merge with the whole. While the dimensions are not known, only a
negative size is refused. -/
inductive SizesRefused (known : Shape) (before : Option (List Dimension)) (sizes : List Int) :
    InferenceFailure → Prop where
  | negative {size : Int} (first : sizes.find? (fun size => size < 0) = some size) :
      SizesRefused known before sizes (.negativeSize size)
  | clash {dimensions : List Dimension} {clash : ShapeClash}
      (nonnegative : ∀ size ∈ sizes, 0 ≤ size) (ranked : before = some dimensions)
      (clashes : known.merge (.ranked (dimensions ++ specified sizes)) = .error clash) :
      SizesRefused known before sizes (.shapeClash 0 clash)

private theorem refineShape_fails_iff {shape : Shape}
    (staged : context.outputs[0]? = some current) :
    Fails (perform (.refineShape 0 shape)) context failure ↔
      ∃ clash, current.shape.merge shape = .error clash ∧ failure = .shapeClash 0 clash := by
  have addressed : context.outputs[(Write.refineShape 0 shape).output]? = some current := staged
  rw [fails_perform, Context.write_eq_error_iff addressed, Write.refineShape_eq_error_iff]

theorem propagateShape_fails_iff (staged : context.outputs[0]? = some current) :
    Fails (propagateShape 0 0) context failure ↔
      ∃ dimensions clash, context.inputDimensions? = some dimensions ∧
        current.shape.merge (.ranked dimensions) = .error clash ∧
        failure = .shapeClash 0 clash := by
  rw [propagateShape, fails_bind_of_ends (ends_ask.mpr ⟨rfl, rfl⟩)]
  cases known : context.inputShape? 0 with
  | none => simp [Context.inputDimensions?, known]
  | some shape =>
    obtain ⟨dimensions, ranked, rfl⟩ := Context.inputShape?_eq_some_iff.mp known
    simp [refineShape_fails_iff staged, ranked]

theorem propagateShapeAttribute_fails_iff {name : String} {sizes : List Int}
    (staged : context.outputs[0]? = some current)
    (held : context.attribute? name = some (.ints sizes)) :
    Fails (propagateShapeAttribute name 0) context failure ↔
      SizesRefused current.shape (some []) sizes failure := by
  have read : context.ints? name = .ok (some sizes) := Context.ints?_eq_ok_iff.mpr held
  rw [propagateShapeAttribute, fails_bind_of_ends (ends_demand.mpr ⟨read, rfl⟩), fails_bind]
  simp only [fails_ofExcept, ends_ofExcept, dimensionsOf_eq_error_iff, dimensionsOf_eq_ok_iff]
  constructor
  · rintro (⟨size, first, rfl⟩ | ⟨_, _, ⟨⟨nonnegative, rfl⟩, rfl⟩, fails⟩)
    · exact .negative first
    · obtain ⟨clash, clashes, rfl⟩ := (refineShape_fails_iff staged).mp fails
      exact .clash nonnegative rfl clashes
  · rintro (⟨first⟩ | ⟨nonnegative, ranked, clashes⟩)
    · exact .inl ⟨_, first, rfl⟩
    · cases ranked
      refine .inr ⟨_, context, ⟨⟨nonnegative, rfl⟩, rfl⟩, ?_⟩
      exact (refineShape_fails_iff staged).mpr ⟨_, clashes, rfl⟩

private theorem extendFirstInput_fails_iff {further : List Dimension}
    (staged : context.outputs[0]? = some current) :
    Fails (extendFirstInput further) context failure ↔
      ∃ dimensions clash, context.inputDimensions? = some dimensions ∧
        current.shape.merge (.ranked (dimensions ++ further)) = .error clash ∧
        failure = .shapeClash 0 clash := by
  rw [extendFirstInput, fails_bind_of_ends (ends_ask.mpr ⟨rfl, rfl⟩), Context.inputDimensions?]
  cases known : (context.inputShape? 0).bind Shape.dimensions? with
  | none => simp
  | some dimensions => simp [fails_bind, refineShape_fails_iff staged]

/-- Where the contents of the input are not the shape, further sizes are refused behind the
dimensions of the input. -/
theorem fillFromInput_fails_iff {flag : Option Int} {extra : Option (List Int)}
    (staged : context.outputs[0]? = some current)
    (flagged : context.attribute? "input_as_shape" = flag.map .int)
    (further : context.attribute? "extra_shape" = extra.map .ints) :
    Fails fillFromInput context failure ↔ flag.getD 0 = 0 ∧
      SizesRefused current.shape context.inputDimensions? (extra.getD []) failure := by
  have readFlag := Context.int?_eq_ok_iff.mpr flagged
  have readExtra := Context.ints?_eq_ok_iff.mpr further
  rw [fillFromInput, fails_bind_of_ends (ends_demand.mpr ⟨readFlag, rfl⟩)]
  by_cases zero : flag.getD 0 = 0
  · simp only [zero, ne_eq, not_true_eq_false, if_false, true_and]
    rw [fails_bind_of_ends (ends_demand.mpr ⟨readExtra, rfl⟩), fails_bind]
    simp only [fails_ofExcept, ends_ofExcept, dimensionsOf_eq_error_iff, dimensionsOf_eq_ok_iff]
    constructor
    · rintro (⟨size, first, rfl⟩ | ⟨_, _, ⟨⟨nonnegative, rfl⟩, rfl⟩, fails⟩)
      · exact .negative first
      · obtain ⟨dimensions, clash, ranked, clashes, rfl⟩ :=
          (extendFirstInput_fails_iff staged).mp fails
        exact .clash nonnegative ranked clashes
    · rintro (⟨first⟩ | ⟨nonnegative, ranked, clashes⟩)
      · exact .inl ⟨_, first, rfl⟩
      · refine .inr ⟨_, context, ⟨⟨nonnegative, rfl⟩, rfl⟩, ?_⟩
        exact (extendFirstInput_fails_iff staged).mpr ⟨_, _, ranked, clashes, rfl⟩
  · simp [zero]

/-- The first output is there, and its element type is that of the first input, if both are
known. -/
structure FirstAgrees (context : Context) (current : TensorType) : Prop where
  staged : context.outputs[0]? = some current
  agrees : ∀ type declared, context.inputType? 0 = some type →
    current.elementType = some declared → declared = type

theorem FirstAgrees.ends_propagateElementType (first : FirstAgrees context current) :
    Ends (propagateElementType 0 0) context () (context.filled current current.shape) := by
  rw [propagateElementType, ends_bind_of_ends (ends_ask.mpr ⟨rfl, rfl⟩), Context.filled]
  cases known : context.inputType? 0 with
  | none => exact ends_pure.mpr ⟨rfl, (Context.restage_self first.staged).symm⟩
  | some type =>
    have applied : (Write.elementType 0 type).apply current =
        .ok { elementType := some type, shape := current.shape } := by
      cases declared : current.elementType with
      | none => simp only [Write.apply, declared]
      | some other =>
        obtain rfl := first.agrees type other known declared
        simp only [Write.apply, declared, if_true]
        rw [← declared]
    rw [ends_perform, Option.some_or]
    exact Context.write_eq_ok_iff.mpr ⟨current, _, first.staged, applied, rfl⟩

theorem FirstAgrees.propagateElementType_ends (first : FirstAgrees context current) :
    ∃ reached updated, Ends (propagateElementType 0 0) context () reached ∧
      context.SameInputs reached ∧ reached.outputs[0]? = some updated ∧
      updated.shape = current.shape :=
  ⟨_, _, first.ends_propagateElementType, ⟨rfl, rfl, rfl⟩,
    Context.outputs_filled current current.shape first.staged, rfl⟩

end Inference

namespace InferenceFunction

open Inference

variable {context : Context} {current : TensorType} {failure : InferenceFailure}

/-- A pass-through fails where the shape of the first input clashes with that of the first
output. -/
theorem passThrough_fails_iff (first : FirstAgrees context current) :
    Fails passThrough.program context failure ↔
      ∃ dimensions clash, context.inputDimensions? = some dimensions ∧
        current.shape.merge (.ranked dimensions) = .error clash ∧
        failure = .shapeClash 0 clash := by
  obtain ⟨reached, updated, ends, same, staged, shape⟩ := first.propagateElementType_ends
  have whole : Fails passThrough.program context failure ↔
      Fails propagateFirstInput context failure := by
    simp [passThrough, fails_bind]
  rw [whole, propagateFirstInput, fails_bind_of_ends ends, propagateShape_fails_iff staged, shape,
    same.inputDimensions?_eq]

/-- A fill fails where the sizes of its `shape` attribute are refused, or, without this attribute,
where further sizes are refused behind the dimensions of the first input. -/
theorem fill_fails_iff {given extra : Option (List Int)} {flag : Option Int}
    (first : FirstAgrees context current)
    (shaped : context.attribute? "shape" = given.map .ints)
    (flagged : context.attribute? "input_as_shape" = flag.map .int)
    (further : context.attribute? "extra_shape" = extra.map .ints) :
    Fails fill.program context failure ↔
      (∃ sizes, given = some sizes ∧ SizesRefused current.shape (some []) sizes failure) ∨
        (given = none ∧ flag.getD 0 = 0 ∧
          SizesRefused current.shape context.inputDimensions? (extra.getD []) failure) := by
  obtain ⟨reached, updated, ends, same, staged, shape⟩ := first.propagateElementType_ends
  have asked := same.hasAttribute_eq "shape"
  rw [fill, fails_bind_of_ends ends, fails_bind_of_ends (ends_ask.mpr ⟨rfl, rfl⟩), asked,
    Context.hasAttribute, shaped]
  cases given with
  | some sizes =>
    rw [← same.attribute?_eq] at shaped
    simp [fails_bind, propagateShapeAttribute_fails_iff staged shaped, shape]
  | none =>
    rw [← same.attribute?_eq] at flagged further
    simp [fillFromInput_fails_iff staged flagged further, shape, same.inputDimensions?_eq]

end InferenceFunction

end ShapeFlow
