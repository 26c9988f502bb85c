import ShapeFlow.Proofs.Inference.Refinement

/-!
Where a fill takes the shape of its output from. The `shape` attribute goes before the contents of
the input, and these go before the dimensions of the input. The sizes of the attribute become the
shape as they are, while dimensions of the input may be refined by what is declared.
-/

namespace ShapeFlow

open Inference

namespace Dimension.LeAll

variable {sizes : List Int} {uppers : List Dimension}

theorem eq_specified (above : LeAll (specified sizes) uppers) : uppers = specified sizes := by
  induction sizes generalizing uppers with
  | nil =>
    cases above
    rfl
  | cons size rest ih =>
    cases above with
    | cons head tail =>
      rw [eq_of_size_le head, ih tail]
      rfl

end Dimension.LeAll

namespace Shape

variable {existing merged : Shape} {sizes : List Int} {dimensions : List Dimension}

theorem eq_specified_of_merge (done : existing.merge (.ranked (specified sizes)) = .ok merged) :
    merged = .ranked (specified sizes) := by
  have above := ((merge_le_iff done).mp (le_refl merged)).2
  obtain ⟨uppers, rfl, axes⟩ := eq_ranked_of_le above
  rw [axes.eq_specified]

theorem rank_of_merge (done : existing.merge (.ranked dimensions) = .ok merged) :
    ∃ axes, merged = .ranked axes ∧ axes.length = dimensions.length := by
  have above := ((merge_le_iff done).mp (le_refl merged)).2
  obtain ⟨axes, same, below⟩ := eq_ranked_of_le above
  exact ⟨axes, same, below.length_eq.symm⟩

end Shape

namespace Context

variable {context : Context}

theorem inputDimensions?_eq (context : Context) :
    context.inputDimensions? = (context.input? 0).bind (·.shape.dimensions?) := by
  rw [inputDimensions?, inputShape?]
  cases context.input? 0 with
  | none => rfl
  | some input =>
    cases shape : input.shape <;>
      simp [shape, Option.filter_some, Shape.isRanked, Shape.dimensions?]

end Context

namespace Inference

variable {context : Context} {current : TensorType} {merged : Shape} {sizes : List Int}
  {further : List Dimension}

theorem ends_propagateShapeAttribute {name : String}
    (staged : context.outputs[0]? = some current)
    (held : context.attribute? name = some (.ints sizes)) (nonnegative : ∀ size ∈ sizes, 0 ≤ size)
    (done : current.shape.merge (.ranked (specified sizes)) = .ok merged) :
    Ends (propagateShapeAttribute name 0) context ()
      (context.restage 0 { current with shape := merged }) := by
  have read : context.ints? name = .ok (some sizes) := Context.ints?_eq_ok_iff.mpr held
  have specifies := dimensionsOf_eq_ok_iff.mpr ⟨nonnegative, rfl⟩
  rw [propagateShapeAttribute, ends_bind_of_ends (ends_demand.mpr ⟨read, rfl⟩),
    ends_bind_of_ends (ends_ofExcept.mpr ⟨specifies, rfl⟩), ends_perform]
  exact Context.write_refineShape staged done

theorem ends_extendFirstInput_of_none (unranked : context.inputDimensions? = none) :
    Ends (extendFirstInput further) context .deferred context := by
  rw [extendFirstInput, ends_bind_of_ends (ends_ask.mpr ⟨rfl, rfl⟩), ← Context.inputDimensions?,
    unranked]
  exact ends_pure.mpr ⟨rfl, rfl⟩

theorem ends_extendFirstInput_of_some {dimensions : List Dimension}
    (staged : context.outputs[0]? = some current)
    (ranked : context.inputDimensions? = some dimensions)
    (done : current.shape.merge (.ranked (dimensions ++ further)) = .ok merged) :
    Ends (extendFirstInput further) context .inferred
      (context.restage 0 { current with shape := merged }) := by
  have accepted : Ends (perform (.refineShape 0 (.ranked (dimensions ++ further)))) context ()
      (context.restage 0 { current with shape := merged }) :=
    ends_perform.mpr (Context.write_refineShape staged done)
  rw [extendFirstInput, ends_bind_of_ends (ends_ask.mpr ⟨rfl, rfl⟩), ← Context.inputDimensions?,
    ranked]
  exact (ends_bind_of_ends accepted).mpr (ends_pure.mpr ⟨rfl, rfl⟩)

theorem ends_fillFromInput_of_contents {flag : Option Int}
    (flagged : context.attribute? "input_as_shape" = flag.map .int) (set : flag.getD 0 ≠ 0) :
    Ends fillFromInput context .deferred context := by
  have read := Context.int?_eq_ok_iff.mpr flagged
  rw [fillFromInput, ends_bind_of_ends (ends_demand.mpr ⟨read, rfl⟩), if_pos set]
  exact ends_pure.mpr ⟨rfl, rfl⟩

theorem ends_fillFromInput_iff {flag : Option Int} {extra : Option (List Int)}
    {outcome : InferenceOutcome} {final : Context}
    (flagged : context.attribute? "input_as_shape" = flag.map .int) (unset : flag.getD 0 = 0)
    (further : context.attribute? "extra_shape" = extra.map .ints)
    (nonnegative : ∀ size ∈ extra.getD [], 0 ≤ size) :
    Ends fillFromInput context outcome final ↔
      Ends (extendFirstInput (specified (extra.getD []))) context outcome final := by
  have readFlag := Context.int?_eq_ok_iff.mpr flagged
  have readExtra := Context.ints?_eq_ok_iff.mpr further
  have specifies := dimensionsOf_eq_ok_iff.mpr ⟨nonnegative, rfl⟩
  rw [fillFromInput, ends_bind_of_ends (ends_demand.mpr ⟨readFlag, rfl⟩),
    if_neg (not_not_intro unset), ends_bind_of_ends (ends_demand.mpr ⟨readExtra, rfl⟩),
    ends_bind_of_ends (ends_ofExcept.mpr ⟨specifies, rfl⟩)]

/-- Sizes that are not negative are refused for a clash alone. -/
theorem sizesRefused_iff {known : Shape} {before : Option (List Dimension)}
    {failure : InferenceFailure} (nonnegative : ∀ size ∈ sizes, 0 ≤ size) :
    SizesRefused known before sizes failure ↔
      ∃ dimensions clash, before = some dimensions ∧
        known.merge (.ranked (dimensions ++ specified sizes)) = .error clash ∧
        failure = .shapeClash 0 clash := by
  constructor
  · intro refused
    cases refused with
    | negative first =>
      have negative := List.find?_some first
      have least := nonnegative _ (List.mem_of_find?_eq_some first)
      exact absurd least (by simpa using negative)
    | clash _ ranked clashes => exact ⟨_, _, ranked, clashes, rfl⟩
  · rintro ⟨dimensions, clash, ranked, clashes, rfl⟩
    exact .clash nonnegative ranked clashes

end Inference

namespace InferenceFunction

variable {context final : Context} {current : TensorType} {sizes : List Int} {merged : Shape}
  {given extra : Option (List Int)} {flag : Option Int} {outcome : InferenceOutcome}

/-- A fill whose `shape` attribute merges with what is declared is done with that. -/
theorem fill_ends_of_given (first : FirstAgrees context current)
    (shaped : context.attribute? "shape" = some (.ints sizes))
    (nonnegative : ∀ size ∈ sizes, 0 ≤ size)
    (done : current.shape.merge (.ranked (specified sizes)) = .ok merged) :
    Ends fill.program context .inferred (context.filled current merged) := by
  have staged := Context.outputs_filled current current.shape first.staged
  have named : (context.filled current current.shape).attribute? "shape" = some (.ints sizes) :=
    shaped
  have given := ends_propagateShapeAttribute staged named nonnegative done
  rw [Context.filled, Context.restage_restage, ← Context.filled] at given
  rw [fill, ends_bind_of_ends first.ends_propagateElementType,
    ends_bind_of_ends (ends_ask.mpr ⟨rfl, rfl⟩), Context.hasAttribute, named]
  exact (ends_bind_of_ends given).mpr (ends_pure.mpr ⟨rfl, rfl⟩)

/-- A fill without a `shape` attribute looks at the input once the element type is handed on. -/
theorem fill_ends_iff_of_absent (first : FirstAgrees context current)
    (absent : context.attribute? "shape" = none) :
    Ends fill.program context outcome final ↔
      Ends fillFromInput (context.filled current current.shape) outcome final := by
  have named : (context.filled current current.shape).attribute? "shape" = none := absent
  rw [fill, ends_bind_of_ends first.ends_propagateElementType,
    ends_bind_of_ends (ends_ask.mpr ⟨rfl, rfl⟩), Context.hasAttribute, named]
  rfl

theorem fill_ends_iff_of_unset (first : FirstAgrees context current)
    (absent : context.attribute? "shape" = none)
    (flagged : context.attribute? "input_as_shape" = flag.map .int) (unset : flag.getD 0 = 0)
    (further : context.attribute? "extra_shape" = extra.map .ints)
    (nonnegative : ∀ size ∈ extra.getD [], 0 ≤ size) :
    Ends fill.program context outcome final ↔
      Ends (extendFirstInput (specified (extra.getD [])))
        (context.filled current current.shape) outcome final := by
  have flaggedThere : (context.filled current current.shape).attribute? "input_as_shape" =
    flag.map .int := flagged
  have furtherThere : (context.filled current current.shape).attribute? "extra_shape" =
    extra.map .ints := further
  rw [fill_ends_iff_of_absent first absent,
    ends_fillFromInput_iff flaggedThere unset furtherThere nonnegative]

/-- A fill merges a shape into what is declared: it is inferred with the merged shape, and fails
where the two clash. -/
structure FillMerges (context : Context) (current : TensorType) (shape : Shape) : Prop where
  inferred : ∀ merged, current.shape.merge shape = .ok merged →
    Ends fill.program context .inferred (context.filled current merged)
  refused : ∀ failure, Fails fill.program context failure ↔
    ∃ clash, current.shape.merge shape = .error clash ∧ failure = .shapeClash 0 clash

/-- What a fill does, by where the shape of its output comes from. In each case that ends well the
first output has the element type of the first input, or else the declared one. -/
structure FillsByPrecedence (context : Context) (current : TensorType) (given : Option (List Int))
    (flag : Option Int) (extra : Option (List Int)) : Prop where
  /-- The sizes of the `shape` attribute become the shape as they are. -/
  verbatim : ∀ sizes, given = some sizes → FillMerges context current (.ranked (specified sizes)) ∧
    ∀ merged, current.shape.merge (.ranked (specified sizes)) = .ok merged →
      merged = .ranked (specified sizes)
  /-- The shape stays as declared where it is in the contents of the input. -/
  contents : given = none → flag.getD 0 ≠ 0 →
    Ends fill.program context .deferred (context.filled current current.shape)
  /-- So it does where the first input is absent or its rank is not known. -/
  unranked : given = none → flag.getD 0 = 0 →
    (∀ input, context.input? 0 = some input → input.shape = .unknown) →
    Ends fill.program context .deferred (context.filled current current.shape)
  /-- The dimensions of the input are followed by the sizes of `extra_shape`. -/
  extended : given = none → flag.getD 0 = 0 →
    ∀ input dimensions, context.input? 0 = some input → input.shape = .ranked dimensions →
      FillMerges context current (.ranked (dimensions ++ specified (extra.getD []))) ∧
      ∀ merged,
        current.shape.merge (.ranked (dimensions ++ specified (extra.getD []))) = .ok merged →
        ∃ axes, merged = .ranked axes ∧ axes.length = dimensions.length + (extra.getD []).length

/-- A fill whose attributes have their kinds and no negative sizes goes by precedence. -/
theorem fill_precedence (first : FirstAgrees context current)
    (shaped : context.attribute? "shape" = given.map .ints)
    (flagged : context.attribute? "input_as_shape" = flag.map .int)
    (further : context.attribute? "extra_shape" = extra.map .ints)
    (givenNonnegative : ∀ size ∈ given.getD [], 0 ≤ size)
    (extraNonnegative : ∀ size ∈ extra.getD [], 0 ≤ size) :
    FillsByPrecedence context current given flag extra := by
  have staged := Context.outputs_filled current current.shape first.staged
  constructor
  case verbatim =>
    rintro sizes rfl
    have nonnegative : ∀ size ∈ sizes, 0 ≤ size := givenNonnegative
    refine ⟨⟨fun merged done => fill_ends_of_given first shaped nonnegative done,
      fun failure => ?_⟩, fun merged => Shape.eq_specified_of_merge⟩
    rw [fill_fails_iff first shaped flagged further]
    simp [sizesRefused_iff nonnegative]
  case contents =>
    rintro rfl set
    rw [fill_ends_iff_of_absent first shaped]
    exact ends_fillFromInput_of_contents flagged set
  case unranked =>
    rintro rfl unset unranked
    have unknown : (context.filled current current.shape).inputDimensions? = none := by
      rw [Context.inputDimensions?_eq]
      exact Option.bind_eq_none_iff.mpr fun input present => by
        rw [unranked input present, Shape.dimensions?]
    rw [fill_ends_iff_of_unset first shaped flagged unset further extraNonnegative]
    exact ends_extendFirstInput_of_none unknown
  case extended =>
    rintro rfl unset input dimensions present ranked
    have known : context.inputDimensions? = some dimensions := by
      rw [Context.inputDimensions?_eq, present, Option.bind_some, ranked, Shape.dimensions?]
    refine ⟨⟨fun merged done => ?_, fun failure => ?_⟩, fun merged done => ?_⟩
    · have extended := ends_extendFirstInput_of_some staged known done
      rw [Context.filled, Context.restage_restage, ← Context.filled] at extended
      rw [fill_ends_iff_of_unset first shaped flagged unset further extraNonnegative]
      exact extended
    · rw [fill_fails_iff first shaped flagged further]
      simp [sizesRefused_iff extraNonnegative, unset, known]
    · obtain ⟨axes, rfl, rank⟩ := Shape.rank_of_merge done
      exact ⟨axes, rfl, by rw [rank, List.length_append, specified, List.length_map]⟩

/-- A fill of an input with one named axis, where the output is declared with a first axis of
two. -/
def namedAxisFill (attributes : List (String × AttributeValue)) : Context where
  node := { opType := "GivenTensorFill", attributes := .ofList attributes }
  signature := { id := .normalized "" "GivenTensorFill" 1 }
  inputs := [some { elementType := some .float32, shape := .ranked [.symbol "n"] }]
  outputs := [{ shape := .ranked [.size 2, .unknown] }]

/-- The named axis of the input gives way to the declared size, but a size of the `shape` attribute
does not. -/
theorem fill_precedence_namedAxis :
    Ends fill.program (namedAxisFill [("extra_shape", .ints [3])]) .inferred
        ((namedAxisFill [("extra_shape", .ints [3])]).restage 0
          { elementType := some .float32, shape := .ranked [.size 2, .size 3] }) ∧
      Fails fill.program (namedAxisFill [("shape", .ints [4, 3]), ("extra_shape", .ints [3])])
        (.shapeClash 0 (.size 0 2 4)) := by
  have agrees (attributes : List (String × AttributeValue)) :
      FirstAgrees (namedAxisFill attributes) { shape := .ranked [.size 2, .unknown] } :=
    ⟨rfl, fun _ _ _ declared => nomatch declared⟩
  have extending : FillsByPrecedence (namedAxisFill [("extra_shape", .ints [3])])
      { shape := .ranked [.size 2, .unknown] } none none (some [3]) :=
    fill_precedence (agrees _) rfl rfl rfl (by decide) (by decide)
  have given : FillsByPrecedence
      (namedAxisFill [("shape", .ints [4, 3]), ("extra_shape", .ints [3])])
      { shape := .ranked [.size 2, .unknown] } (some [4, 3]) none (some [3]) :=
    fill_precedence (agrees _) rfl rfl rfl (by decide) (by decide)
  exact ⟨(extending.extended rfl rfl _ _ rfl rfl).1.inferred _ rfl,
    ((given.verbatim _ rfl).1.refused _).mpr ⟨_, rfl, rfl⟩⟩

end InferenceFunction

end ShapeFlow
