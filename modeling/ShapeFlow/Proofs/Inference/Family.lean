import ShapeFlow.Inference.Family
import ShapeFlow.Proofs.Inference.Joined

/-!
What the shared inference functions ask of the first output. A pass-through asks what is known
about the first input. A fill asks for its element type, and for a shape that comes from one of
several places.
-/

namespace ShapeFlow

namespace Context

variable {context : Context} {name : String}

theorem int?_eq_ok_iff {found : Option Int} :
    context.int? name = .ok found ↔ context.attribute? name = found.map .int := by
  cases held : context.attribute? name with
  | none => cases found <;> simp [int?, held]
  | some value => cases value <;> cases found <;> simp_all [int?]

theorem ints?_eq_ok_iff {found : Option (List Int)} :
    context.ints? name = .ok found ↔ context.attribute? name = found.map .ints := by
  cases held : context.attribute? name with
  | none => cases found <;> simp [ints?, held]
  | some value => cases value <;> cases found <;> simp_all [ints?]

theorem float?_eq_ok_iff {found : Option Binary32} :
    context.float? name = .ok found ↔ context.attribute? name = found.map .float := by
  cases held : context.attribute? name with
  | none => cases found <;> simp [float?, held]
  | some value => cases value <;> cases found <;> simp_all [float?]

end Context

namespace Inference

variable {before after context final : Context} {output : Nat} {asked : TensorType}

/-- The shape that sizes specify. -/
def specified (sizes : List Int) : List Dimension :=
  sizes.map fun size => .size size.toNat

theorem dimensionsOf_eq_ok_iff {sizes : List Int} {dimensions : List Dimension} :
    dimensionsOf sizes = .ok dimensions ↔
      (∀ size ∈ sizes, 0 ≤ size) ∧ dimensions = specified sizes := by
  induction sizes generalizing dimensions with
  | nil => simp [dimensionsOf, specified, eq_comm]
  | cons size rest ih =>
    by_cases negative : size < 0
    · simp [dimensionsOf, negative, Int.not_le.mpr negative]
    · have nonnegative : 0 ≤ size := Int.not_lt.mp negative
      cases later : dimensionsOf rest with
      | error failure =>
        have refused : ¬ ∀ size ∈ rest, 0 ≤ size := fun all => by
          simp [ih.mpr ⟨all, rfl⟩] at later
        simp [dimensionsOf, negative, later, Except.map, nonnegative, refused]
      | ok further =>
        obtain ⟨all, same⟩ := ih.mp later
        have every : ∀ other ∈ size :: rest, 0 ≤ other := by simpa using ⟨nonnegative, all⟩
        have whole : specified (size :: rest) = .size size.toNat :: further := by
          rw [same, specified, specified, List.map_cons]
        simp only [dimensionsOf, negative, later, Except.map, if_false, Except.ok.injEq, whole]
        exact ⟨fun done => ⟨every, done.symm⟩, fun both => both.2.symm⟩

theorem propagateShapeAttribute_joined {name : String} {answer : Unit}
    (ends : Ends (propagateShapeAttribute name output) context answer final) :
    ∃ sizes, context.attribute? name = some (.ints sizes) ∧
      Joined output context final { shape := .ranked (specified sizes) } := by
  simp only [propagateShapeAttribute, ends_bind, ends_demand] at ends
  obtain ⟨found, _, ⟨read, rfl⟩, ends⟩ := ends
  have held := Context.ints?_eq_ok_iff.mp read
  cases found with
  | none => simp at ends
  | some sizes =>
    simp only [ends_bind, ends_ofExcept, ends_perform] at ends
    obtain ⟨dimensions, _, ⟨specifies, rfl⟩, accepted⟩ := ends
    obtain ⟨_, rfl⟩ := dimensionsOf_eq_ok_iff.mp specifies
    exact ⟨sizes, held, .of_write rfl accepted⟩

/-- The shape that a fill asks of its output, by where it comes from. -/
inductive FillShape (context : Context) : Shape → Prop where
  /-- The `shape` attribute gives it. -/
  | given {sizes : List Int} (present : context.attribute? "shape" = some (.ints sizes)) :
      FillShape context (.ranked (specified sizes))
  /-- It is in the contents of the input. -/
  | contents {flag : Int} (absent : context.attribute? "shape" = none)
      (set : context.attribute? "input_as_shape" = some (.int flag)) (nonzero : flag ≠ 0) :
      FillShape context .unknown
  /-- The rank of the input is not known. -/
  | undetermined (absent : context.attribute? "shape" = none)
      (unknown : context.inputShape? 0 = none) : FillShape context .unknown
  /-- The dimensions of the input are extended. -/
  | extended {dimensions : List Dimension} {further : Option (List Int)}
      (absent : context.attribute? "shape" = none)
      (unset : ∀ flag, context.attribute? "input_as_shape" = some (.int flag) → flag = 0)
      (known : context.inputShape? 0 = some (.ranked dimensions))
      (extra : context.attribute? "extra_shape" = further.map .ints) :
      FillShape context (.ranked (dimensions ++ specified (further.getD [])))

theorem FillShape.of_sameInputs {shape : Shape} (same : before.SameInputs after)
    (asks : FillShape after shape) : FillShape before shape := by
  cases asks with
  | given present => exact .given (same.attribute?_eq _ ▸ present)
  | contents absent set nonzero =>
    exact .contents (same.attribute?_eq _ ▸ absent) (same.attribute?_eq _ ▸ set) nonzero
  | undetermined absent unknown =>
    exact .undetermined (same.attribute?_eq _ ▸ absent) (same.inputShape?_eq _ ▸ unknown)
  | extended absent unset known extra =>
    exact .extended (same.attribute?_eq _ ▸ absent) (same.attribute?_eq _ ▸ unset)
      (same.inputShape?_eq _ ▸ known) (same.attribute?_eq _ ▸ extra)

private theorem fillFromInput_joined {outcome : InferenceOutcome}
    (absent : context.attribute? "shape" = none) (ends : Ends fillFromInput context outcome final) :
    ∃ shape, FillShape context shape ∧ Joined 0 context final { shape } := by
  simp only [fillFromInput, ends_bind, ends_demand] at ends
  obtain ⟨flag, _, ⟨readFlag, rfl⟩, ends⟩ := ends
  have set := Context.int?_eq_ok_iff.mp readFlag
  split at ends
  · rename_i nonzero
    simp only [ends_pure] at ends
    cases flag with
    | none => simp at nonzero
    | some flag =>
      exact ⟨.unknown, .contents absent set nonzero, ends.2 ▸ .refl 0 context⟩
  · rename_i zero
    have unset : ∀ other, context.attribute? "input_as_shape" = some (.int other) → other = 0 := by
      intro other held
      rw [set] at held
      cases flag with
      | none => cases held
      | some flag =>
        cases held
        simpa using zero
    simp only [extendFirstInput, ends_bind, ends_demand, ends_ofExcept, ends_ask] at ends
    obtain ⟨further, _, ⟨readExtra, rfl⟩, _, _, ⟨specifies, rfl⟩, _, _, ⟨rfl, rfl⟩, ends⟩ := ends
    obtain ⟨_, rfl⟩ := dimensionsOf_eq_ok_iff.mp specifies
    have extra := Context.ints?_eq_ok_iff.mp readExtra
    cases known : context.inputShape? 0 with
    | none =>
      simp only [known, Option.bind_none, ends_pure] at ends
      exact ⟨.unknown, .undetermined absent known, ends.2 ▸ .refl 0 context⟩
    | some shape =>
      cases shape with
      | unknown => simp [Context.inputShape?, Option.filter_eq_some_iff, Shape.isRanked] at known
      | ranked dimensions =>
        simp only [known, Option.bind_some, Shape.dimensions?, ends_bind, ends_perform,
          ends_pure] at ends
        obtain ⟨_, _, accepted, _, rfl⟩ := ends
        exact ⟨_, .extended absent unset known extra, .of_write rfl accepted⟩

end Inference

namespace InferenceFunction

/-- A pass-through or a fill, which are the functions that several operators share. -/
def Shared (function : InferenceFunction) : Prop :=
  function = passThrough ∨ function = fill

open Inference

variable {context final : Context} {outcome : InferenceOutcome}

/-- A pass-through asks of the first output what is known about the first input. -/
theorem passThrough_joined (ends : Ends passThrough.program context outcome final) :
    Joined 0 context final
      { elementType := context.inputType? 0
        shape := (context.inputShape? 0).getD .unknown } := by
  simp only [passThrough, propagateFirstInput, ends_bind, ends_pure] at ends
  obtain ⟨_, _, ⟨_, reached, typed, shaped⟩, _, rfl⟩ := ends
  have first := propagateElementType_joined typed
  have second := propagateShape_joined shaped
  rw [first.sameInputs.inputShape?_eq] at second
  exact first.trans second fun _ => TensorType.parts_le_iff

/-- A fill asks for the element type of the first input and for the shape. -/
theorem fill_joined (ends : Ends fill.program context outcome final) :
    ∃ shape, FillShape context shape ∧
      Joined 0 context final { elementType := context.inputType? 0, shape } := by
  simp only [fill, ends_bind, ends_ask] at ends
  obtain ⟨_, reached, typed, _, _, ⟨rfl, rfl⟩, ends⟩ := ends
  have first := propagateElementType_joined typed
  have asked : ∃ shape, FillShape reached shape ∧ Joined 0 reached final { shape } := by
    cases present : reached.attribute? "shape" with
    | some value =>
      simp only [Context.hasAttribute, present, Option.isSome_some, if_true, ends_bind,
        ends_pure] at ends
      obtain ⟨_, _, shaped, _, rfl⟩ := ends
      obtain ⟨sizes, held, second⟩ := propagateShapeAttribute_joined shaped
      exact ⟨_, .given held, second⟩
    | none =>
      simp only [Context.hasAttribute, present, Option.isSome_none, Bool.false_eq_true,
        if_false] at ends
      exact fillFromInput_joined present ends
  obtain ⟨shape, asks, second⟩ := asked
  exact ⟨shape, asks.of_sameInputs first.sameInputs,
    first.trans second fun _ => TensorType.parts_le_iff⟩

end InferenceFunction

end ShapeFlow
