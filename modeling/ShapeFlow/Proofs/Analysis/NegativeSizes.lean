import Mathlib
import ShapeFlow.Catalogue
import ShapeFlow.Proofs.Analysis.Coherence
import ShapeFlow.Proofs.Inference.Precedence

/-!
Negative sizes in the attributes of a fill. A fill that reads one fails. It reads the sizes of
`shape` wherever it has any, but those of `extra_shape` only where the shape is neither given nor in
the contents of the input.
-/

namespace ShapeFlow

open Inference

/-- The value of an attribute at a node, or else its declared default. -/
def Signature.effective? (signature : Signature) (node : Node) (name : String) :
    Option AttributeValue :=
  (node.attributes.get? name).or ((signature.attribute? name).bind AttributeSpec.default?)

/-- An attribute lists a negative size. -/
def Signature.ListsNegative (signature : Signature) (node : Node) (name : String) : Prop :=
  ∃ sizes, signature.effective? node name = some (.ints sizes) ∧ ∃ size ∈ sizes, size < 0

/-- An attribute that a fill takes sizes from lists a negative one. -/
def Signature.FillsNegative (signature : Signature) (node : Node) : Prop :=
  signature.ListsNegative node "shape" ∨ signature.ListsNegative node "extra_shape"

/-- A fill fails at a node, whatever is known there. -/
def Signature.FillFails (signature : Signature) (node : Node) : Prop :=
  ∀ context : Context, context.node = node → context.signature = signature →
    ∃ failure, Fails InferenceFunction.fill.program context failure

/-- A fill settles the shape before it comes to `extra_shape`, with an outcome. -/
inductive Signature.SettlesEarly (signature : Signature) (node : Node) :
    InferenceOutcome → Prop where
  /-- The shape is given. -/
  | given {sizes : List Int} (present : signature.effective? node "shape" = some (.ints sizes))
      (nonnegative : ∀ size ∈ sizes, 0 ≤ size) : SettlesEarly signature node .inferred
  /-- The shape is in the contents of the input. -/
  | contents {flag : Int} (absent : signature.effective? node "shape" = none)
      (set : signature.effective? node "input_as_shape" = some (.int flag)) (nonzero : flag ≠ 0) :
      SettlesEarly signature node .deferred

variable {signature : Signature} {node : Node} {context final : Context}
  {outcome : InferenceOutcome} {name : String} {sizes : List Int}

theorem Context.attribute?_eq_effective? (context : Context) (name : String) :
    context.attribute? name = context.signature.effective? context.node name :=
  rfl

theorem Signature.ListsNegative.not_nonnegative (listed : signature.ListsNegative node name)
    (held : signature.effective? node name = some (.ints sizes)) :
    ¬∀ size ∈ sizes, 0 ≤ size := by
  obtain ⟨others, present, size, member, negative⟩ := listed
  cases held.symm.trans present
  exact fun nonnegative => absurd (nonnegative size member) (Int.not_le.mpr negative)

/-- A negative size in `shape` is read before anything is settled. -/
theorem Signature.ListsNegative.not_settlesEarly (listed : signature.ListsNegative node "shape")
    (outcome : InferenceOutcome) : ¬signature.SettlesEarly node outcome := by
  rintro (⟨present, nonnegative⟩ | ⟨absent, _, _⟩)
  · exact listed.not_nonnegative present nonnegative
  · obtain ⟨_, present, _⟩ := listed
    cases absent.symm.trans present

namespace Inference

theorem propagateShapeAttribute_reads {output : Nat} {answer : Unit}
    (ends : Ends (propagateShapeAttribute name output) context answer final) :
    ∃ sizes, context.attribute? name = some (.ints sizes) ∧ ∀ size ∈ sizes, 0 ≤ size := by
  simp only [propagateShapeAttribute, ends_bind, ends_demand] at ends
  obtain ⟨found, _, ⟨read, rfl⟩, ends⟩ := ends
  cases found with
  | none => simp at ends
  | some sizes =>
    simp only [ends_bind, ends_ofExcept] at ends
    obtain ⟨_, _, ⟨specifies, _⟩, _⟩ := ends
    exact ⟨sizes, Context.ints?_eq_ok_iff.mp read, (dimensionsOf_eq_ok_iff.mp specifies).1⟩

/-- A fill that goes by its input leaves the shape to the contents, or reads further sizes that are
not negative. -/
theorem fillFromInput_reads (ends : Ends fillFromInput context outcome final) :
    (∃ flag, context.attribute? "input_as_shape" = some (.int flag) ∧ flag ≠ 0 ∧
        outcome = .deferred) ∨
      ∃ extra : Option (List Int), context.attribute? "extra_shape" = extra.map .ints ∧
        ∀ size ∈ extra.getD [], 0 ≤ size := by
  simp only [fillFromInput, ends_bind, ends_demand] at ends
  obtain ⟨flag, _, ⟨readFlag, rfl⟩, ends⟩ := ends
  split at ends
  · rename_i nonzero
    cases flag with
    | none => simp at nonzero
    | some flag =>
      exact .inl ⟨flag, Context.int?_eq_ok_iff.mp readFlag, nonzero, (ends_pure.mp ends).1.symm⟩
  · simp only [ends_bind, ends_demand, ends_ofExcept] at ends
    obtain ⟨extra, _, ⟨readExtra, rfl⟩, _, _, ⟨specifies, _⟩, _⟩ := ends
    exact .inr ⟨extra, Context.ints?_eq_ok_iff.mp readExtra,
      (dimensionsOf_eq_ok_iff.mp specifies).1⟩

end Inference

namespace InferenceFunction

/-- A fill that ends over a negative size settles the shape before it comes to `extra_shape`. -/
theorem fill_settlesEarly (ends : Ends fill.program context outcome final)
    (listed : context.signature.FillsNegative context.node) :
    context.signature.SettlesEarly context.node outcome := by
  simp only [fill, ends_bind, ends_ask] at ends
  obtain ⟨_, reached, typed, _, _, ⟨rfl, rfl⟩, ends⟩ := ends
  have same : context.SameInputs reached := typed.2 ▸ sameInputs_run _ _
  have reads (name : String) :
      context.signature.effective? context.node name = reached.attribute? name := by
    rw [same.attribute?_eq, Context.attribute?_eq_effective?]
  cases present : reached.attribute? "shape" with
  | some value =>
    simp only [Context.hasAttribute, present, Option.isSome_some, if_true, ends_bind,
      ends_pure] at ends
    obtain ⟨_, _, shaped, rfl, _⟩ := ends
    obtain ⟨sizes, held, nonnegative⟩ := propagateShapeAttribute_reads shaped
    exact .given ((reads _).trans held) nonnegative
  | none =>
    simp only [Context.hasAttribute, present, Option.isSome_none, Bool.false_eq_true,
      if_false] at ends
    have absent := (reads "shape").trans present
    rcases fillFromInput_reads ends with ⟨flag, set, nonzero, rfl⟩ | ⟨extra, further, nonnegative⟩
    · exact .contents absent ((reads _).trans set) nonzero
    · have held := (reads "extra_shape").trans further
      rcases listed with ⟨_, given, _⟩ | listed
      · cases absent.symm.trans given
      · cases extra with
        | none =>
          obtain ⟨_, given, _⟩ := listed
          cases held.symm.trans given
        | some sizes => exact absurd nonnegative (listed.not_nonnegative held)

/-- Nothing is known about the inputs of a node, and nothing about its only output. -/
def openContext (signature : Signature) (node : Node) : Context where
  node
  signature
  outputs := [{}]

theorem exists_fill_ends (settles : signature.SettlesEarly node outcome) :
    ∃ final, Ends fill.program (openContext signature node) outcome final := by
  have first : FirstAgrees (openContext signature node) {} :=
    ⟨rfl, fun _ _ _ declared => nomatch declared⟩
  cases settles with
  | given present nonnegative => exact ⟨_, fill_ends_of_given first present nonnegative rfl⟩
  | @contents flag absent set nonzero =>
    have flagged : ((openContext signature node).filled {} .unknown).attribute? "input_as_shape" =
        (some flag).map .int := set
    exact ⟨_, (fill_ends_iff_of_absent first absent).mpr
      (ends_fillFromInput_of_contents flagged nonzero)⟩

/-- Over a negative size a fill fails whatever is known, unless it settles the shape early. -/
theorem fillFails_iff (listed : signature.FillsNegative node) :
    signature.FillFails node ↔ ∀ outcome, ¬signature.SettlesEarly node outcome := by
  constructor
  · intro fails outcome settles
    obtain ⟨final, ends⟩ := exists_fill_ends settles
    exact exists_fails_iff.mp (fails _ rfl rfl) outcome final ends
  · rintro unsettled context rfl rfl
    exact exists_fails_iff.mpr fun outcome final ends =>
      unsettled outcome (fill_settlesEarly ends listed)

end InferenceFunction

/-- What a fill of a schema makes of a node over a negative size. -/
structure NegativeSizesTold (schema : Schema) (node : Node) : Prop where
  /-- Over a negative size in `shape` it fails. -/
  given : schema.toSignature.ListsNegative node "shape" → schema.toSignature.FillFails node
  /-- Over one in `extra_shape` it fails unless it settles the shape before it comes to that. -/
  fails_iff : schema.toSignature.FillFails node ↔
    ∀ outcome, ¬schema.toSignature.SettlesEarly node outcome
  /-- No report has an outcome at the node that was not settled so early. -/
  reported : schema.inference = some .fill →
    ∀ (registry : FrozenRegistry) (options : AnalysisOptions) (graph : Graph) (report : PassReport),
      (ShapeInference.run options registry graph).result = .ok report →
      ∀ (place : Nat) (entry : NodeReport) (outcome : InferenceOutcome),
        graph.nodes[place]? = some node → Covers registry graph node schema →
        report.nodes[place]? = some entry → entry.state = Analysis.outcomeState outcome →
        schema.toSignature.SettlesEarly node outcome

variable {registry : FrozenRegistry} {options : AnalysisOptions} {graph seen after : Graph}
  {index : Nat} {schema : Schema} {entry : NodeReport}

namespace Analysis

theorem outcomeState_injective : Function.Injective outcomeState := by
  intro left right same
  cases left <;> cases right <;> first | rfl | cases same

theorem settlesEarly_of_analyzeNode (covers : Covers registry seen node schema)
    (declared : schema.inference = some .fill)
    (listed : schema.toSignature.FillsNegative node)
    (reported : (analyzeNode registry options .infer seen index node).report.state =
      outcomeState outcome) : schema.toSignature.SettlesEarly node outcome := by
  have course := analyzeNode_course registry options .infer seen index node
  generalize analyzeNode registry options .infer seen index node = analysis at course reported
  cases course with
  | @inferred _ _ _ ended passed present done =>
    obtain rfl : schema = _ :=
      Except.ok.inj ((resolveSchema_eq_ok_iff.mpr covers).symm.trans passed.resolved)
    cases declared.symm.trans present
    obtain rfl : ended = outcome := outcomeState_injective reported
    exact InferenceFunction.fill_settlesEarly ⟨done, rfl⟩ listed
  | _ => cases outcome <;> simp [nodeReport, outcomeState] at reported

end Analysis

theorem ShapeInference.StepsOver.settlesEarly
    (step : StepsOver registry options index node seen after entry)
    (covers : Covers registry seen node schema) (declared : schema.inference = some .fill)
    (listed : schema.toSignature.FillsNegative node)
    (reported : entry.state = Analysis.outcomeState outcome) :
    schema.toSignature.SettlesEarly node outcome := by
  rw [step.entry] at reported
  exact Analysis.settlesEarly_of_analyzeNode covers declared listed reported

/-- A fill fails over a negative size in `shape` always, and over one in `extra_shape` unless it
settles the shape before. -/
theorem fill_negativeSizes (schema : Schema) (node : Node)
    (listed : schema.toSignature.FillsNegative node) : NegativeSizesTold schema node where
  given negative := (InferenceFunction.fillFails_iff listed).mpr negative.not_settlesEarly
  fails_iff := InferenceFunction.fillFails_iff listed
  reported declared registry options graph report done place entry outcome here covers found
      state := by
    obtain ⟨_, ended⟩ := ShapeInference.inferNodes_of_run done
    have step := (ShapeInference.inferNodes_steps 0 ended).2 place node entry here found
    have imports := ShapeInference.opsetImports_inferNodes registry options 0
      (graph.nodes.take place) graph
    exact step.settlesEarly ((Covers.congr_imports imports).mpr covers) declared listed state

/-- A fill of whatever attributes. -/
def fillSchema : Schema where
  id := .normalized "" "GivenTensorFill" 1
  inference := some .fill

/-- A node that fills what `x` names. -/
def fillNode (output : String) (attributes : List (String × AttributeValue)) : Node where
  opType := "GivenTensorFill"
  inputs := ["x"]
  outputs := [output]
  attributes := .ofList attributes

/-- A negative size in `shape` is read although the contents are to be the shape, and one in
`extra_shape` is read as nothing comes before it. -/
theorem fill_negativeSizes_read :
    fillSchema.toSignature.FillFails
        (fillNode "y" [("shape", .ints [2, -1]), ("input_as_shape", .int 1)]) ∧
      fillSchema.toSignature.FillFails (fillNode "y" [("extra_shape", .ints [2, -1])]) := by
  have negative : ∃ size ∈ ([2, -1] : List Int), size < 0 := ⟨-1, by decide, by decide⟩
  constructor
  · have listed : fillSchema.toSignature.ListsNegative
        (fillNode "y" [("shape", .ints [2, -1]), ("input_as_shape", .int 1)]) "shape" :=
      ⟨_, rfl, negative⟩
    exact (fill_negativeSizes fillSchema _ (.inl listed)).given listed
  · have listed : fillSchema.toSignature.ListsNegative
        (fillNode "y" [("extra_shape", .ints [2, -1])]) "extra_shape" := ⟨_, rfl, negative⟩
    refine (fill_negativeSizes fillSchema _ (.inr listed)).fails_iff.mpr ?_
    rintro _ (⟨present, _⟩ | ⟨_, set, _⟩)
    · cases present
    · cases set

/-- One fill is given a shape, and the other leaves it to the contents of its input. -/
def overlookingFills : Graph :=
  let start := (GraphOf.empty.importOpset "" 1).addInput
    ⟨"x", { elementType := some .float32, shape := .ranked [.size 3] }⟩
  let given := start.1.addNode
    (fillNode "y" [("shape", .ints [2]), ("extra_shape", .ints [-1])])
  (given.1.addNode
    (fillNode "z" [("input_as_shape", .int 1), ("extra_shape", .ints [2, -1])])).1

/-- Both fills list a negative size, and neither of them fails. -/
theorem negativeSizes_overlooked :
    (∀ node ∈ overlookingFills.nodes, ∀ signature : Signature,
        signature.ListsNegative node "extra_shape") ∧
      (ShapeInference.run {} .experimental overlookingFills).result.map
          (fun report => report.nodes.map NodeReport.state) =
        .ok [.shapeInferred, .inferenceSkipped] := by
  constructor
  · have nodes : overlookingFills.nodes =
        [fillNode "y" [("shape", .ints [2]), ("extra_shape", .ints [-1])],
          fillNode "z" [("input_as_shape", .int 1), ("extra_shape", .ints [2, -1])]] := rfl
    simp only [nodes, List.mem_cons, List.not_mem_nil, or_false, forall_eq_or_imp, forall_eq]
    exact ⟨fun _ => ⟨_, rfl, -1, by decide, by decide⟩,
      fun _ => ⟨_, rfl, -1, by decide, by decide⟩⟩
  · cbv

end ShapeFlow
