import ShapeFlow.Proofs.Analysis.Coherence
import ShapeFlow.Proofs.Analysis.Confinement
import ShapeFlow.Proofs.Analysis.Constraint
import ShapeFlow.Proofs.Catalogue
import ShapeFlow.Proofs.Inference.Fails

/-!
When inference fails at an experimental operator. A node that passes its checks fails for its shapes
alone: sizes are negative, or what is known of the output does not merge with what follows from the
input and the attributes. Everything else that could go wrong is ruled out by the checks.
-/

namespace ShapeFlow

open GraphOf Constraint Inference

/-- The dimensions that are known of the first input of a node. -/
def firstDimensions? (known : String → TensorType) (node : Node) : Option (List Dimension) :=
  (firstOperand? node.inputs).bind fun input => (known input).shape.dimensions?

/-- The failures of inference at a node, given what is known by name. -/
inductive Refused (known : String → TensorType) (node : Node) : InferenceFailure → Prop where
  /-- The shape of the input does not merge with that of the output. -/
  | passedOn {output : String} {dimensions : List Dimension} {clash : ShapeClash}
      (named : node.opType ∈ ["ThresholdedRelu", "ScaledTanh", "Scale"])
      (last : firstOperand? node.outputs = some output)
      (ranked : firstDimensions? known node = some dimensions)
      (clashes : (known output).shape.merge (.ranked dimensions) = .error clash) :
      Refused known node (.shapeClash 0 clash)
  /-- The sizes of the `shape` attribute are refused. -/
  | given {output : String} {sizes : List Int} {failure : InferenceFailure}
      (named : node.opType = "GivenTensorFill")
      (last : firstOperand? node.outputs = some output)
      (held : node.attributes.get? "shape" = some (.ints sizes))
      (refused : SizesRefused (known output).shape (some []) sizes failure) :
      Refused known node failure
  /-- The sizes of `extra_shape` are refused behind the dimensions of the input. -/
  | extended {output : String} {failure : InferenceFailure}
      (named : node.opType = "GivenTensorFill")
      (last : firstOperand? node.outputs = some output)
      (absent : node.attributes.get? "shape" = none)
      (unset : node.attributes.get? "input_as_shape" = none ∨
        node.attributes.get? "input_as_shape" = some (.int 0))
      (refused : SizesRefused (known output).shape (firstDimensions? known node)
        (extraSizes node) failure) : Refused known node failure

theorem Refused.shapes {known : String → TensorType} {node : Node} {failure : InferenceFailure}
    (refused : Refused known node failure) :
    (∃ size, failure = .negativeSize size) ∨ ∃ clash, failure = .shapeClash 0 clash := by
  cases refused with
  | passedOn => exact .inr ⟨_, rfl⟩
  | given _ _ _ refused => cases refused <;> simp
  | extended _ _ _ _ refused => cases refused <;> simp

namespace Inference.Joined

variable {before after : Context} {output : Nat} {asked current : TensorType}

theorem elementType_cases (join : Joined output before after asked)
    (staged : before.outputs[output]? = some current)
    (agrees : ∀ type declared, asked.elementType = some type →
      current.elementType = some declared → declared = type) :
    ∃ updated, after.outputs[output]? = some updated ∧ ∀ type, updated.elementType = some type →
      current.elementType = some type ∨ asked.elementType = some type := by
  obtain ⟨updated, present, joins⟩ := join.joined current staged
  refine ⟨updated, present, fun type known => ?_⟩
  obtain ⟨above, aboveAsked⟩ := (joins updated).mp le_rfl
  -- What either side says of the element type is an upper bound that says nothing else.
  let upper : TensorType :=
    { elementType := current.elementType.or asked.elementType, shape := updated.shape }
  have below : updated ≤ upper := by
    refine (joins upper).mpr ⟨⟨fun found same => by simp [upper, same], above.shape⟩,
      ⟨fun found same => ?_, aboveAsked.shape⟩⟩
    cases declared : current.elementType with
    | none => simp [upper, declared, same]
    | some other => simp [upper, declared, agrees found other same declared]
  exact Option.or_eq_some_iff.mp (below.elementType type known) |>.imp id And.right

theorem outputs_eq_singleton (join : Joined 0 before after asked)
    (only : before.outputs = [current]) : ∃ updated, after.outputs = [updated] := by
  obtain ⟨updated, present, _⟩ := join.joined current (by rw [only]; rfl)
  refine ⟨updated, List.ext_getElem? fun place => ?_⟩
  cases place with
  | zero => exact present
  | succ place => simpa [only] using join.others (place + 1) (Nat.succ_ne_zero place)

end Inference.Joined

namespace Analysis

variable {registry : FrozenRegistry} {options : AnalysisOptions} {seen : Graph} {index : Nat}
  {node : Node} {schema : Schema} {bindings : TypeBindings} {typeVariable output : String}
  {failure : InferenceFailure} {shape : Shape} {reached : Context}

theorem outputs_nodeContext (bindings : TypeBindings) (only : node.outputs = [output])
    (named : output ≠ "") :
    (nodeContext schema bindings seen node).outputs = [seen.typeOf output] := by
  simp [nodeContext, outputTypes, only, named]

theorem inputDimensions?_nodeContext (schema : Schema) (bindings : TypeBindings) (seen : Graph)
    (node : Node) :
    (nodeContext schema bindings seen node).inputDimensions? =
      firstDimensions? seen.typeOf node := by
  rw [Context.inputDimensions?, Context.inputShape?, input?_nodeContext schema bindings rfl,
    firstDimensions?]
  cases firstOperand? node.inputs with
  | none => rfl
  | some name =>
    have kept (shape : Shape) : ((some shape).filter Shape.isRanked).bind Shape.dimensions? =
        shape.dimensions? := by cases shape <;> rfl
    exact kept (seen.typeOf name).shape

namespace Constrained

variable (passed : Constrained registry seen node schema bindings)

include passed

theorem arity_eq : Check.arity schema.toSignature node = [] :=
  List.map_eq_nil_iff.mp (List.append_eq_nil_iff.mp passed.conforms).1

theorem attributes_eq : Check.attributes schema.toSignature node.attributes = [] :=
  List.map_eq_nil_iff.mp (List.append_eq_nil_iff.mp passed.conforms).2

theorem output_eq (unary : schema.toSignature.Unary typeVariable) :
    ∃ output, node.outputs = [output] ∧ output ≠ "" := by
  obtain ⟨slot, only, single, _⟩ := unary.output
  have quiet := (List.append_eq_nil_iff.mp passed.arity_eq).2
  rw [only] at quiet
  exact Check.operand_of_single single quiet

theorem types_eq (unary : schema.toSignature.Unary typeVariable) (only : node.outputs = [output])
    (named : output ≠ "") :
    (∀ type, (nodeContext schema bindings seen node).inputType? 0 = some type →
      schema.allows typeVariable type = true ∧ bindings.get? typeVariable = some type) ∧
      ∀ type, (seen.typeOf output).elementType = some type →
        schema.allows typeVariable type = true ∧ bindings.get? typeVariable = some type := by
  obtain ⟨inputsFit, outputsFit⟩ := Check.resolve_fits passed.bound
  constructor
  · intro type known
    refine unary.of_input inputsFit ?_
    obtain ⟨found, present, same⟩ := Option.bind_eq_some_iff.mp known
    have listed : (inputTypes seen node)[0]? = some (some found) :=
      Option.join_eq_some_iff.mp present
    rw [List.getElem?_map, listed, Option.map_some, Option.bind_some, same]
  · have staged : (outputTypes seen node).map TensorType.elementType =
        [(seen.typeOf output).elementType] := by simp [outputTypes, only, named]
    rw [staged] at outputsFit
    exact unary.fits_output_iff.mp outputsFit

theorem firstAgrees (unary : schema.toSignature.Unary typeVariable)
    (only : node.outputs = [output]) (named : output ≠ "") :
    FirstAgrees (nodeContext schema bindings seen node) (seen.typeOf output) where
  staged := by rw [outputs_nodeContext bindings only named]; rfl
  agrees type declared known same := by
    obtain ⟨inputs, outputs⟩ := passed.types_eq unary only named
    exact Option.some.inj ((outputs declared same).2.symm.trans (inputs type known).2)

/-- What a shared function stages violates no constraint. -/
theorem staged_accepted (unary : schema.toSignature.Unary typeVariable)
    (only : node.outputs = [output]) (named : output ≠ "")
    (join : Joined 0 (nodeContext schema bindings seen node) reached
      { elementType := (nodeContext schema bindings seen node).inputType? 0, shape }) :
    (Check.outputTypes schema.toSignature bindings
      (reached.outputs.map TensorType.elementType)).violation = none := by
  obtain ⟨inputs, outputs⟩ := passed.types_eq unary only named
  have first := passed.firstAgrees unary only named
  obtain ⟨updated, present, known⟩ := join.elementType_cases first.staged first.agrees
  obtain ⟨same, alone⟩ := join.outputs_eq_singleton (outputs_nodeContext bindings only named)
  obtain rfl : same = updated := by simpa [alone] using present
  rw [alone]
  refine Check.outputTypes_of_fits (fun _ _ bound => bound) (unary.fits_output_iff.mpr ?_)
  intro type found
  rcases known type found with declared | asked
  · exact outputs type declared
  · exact inputs type asked

theorem held_int {name : String}
    (declared : ∃ spec ∈ schema.attributes, spec.name = name ∧ spec.kind = .int) :
    ∃ number : Option Int, node.attributes.get? name = number.map .int := by
  obtain ⟨spec, listed, rfl, kind⟩ := declared
  cases held : node.attributes.get? spec.name with
  | none => exact ⟨none, rfl⟩
  | some value =>
    have same := Check.kind_eq_of_attributes passed.attributes_eq listed held
    obtain ⟨number, rfl⟩ := AttributeValue.exists_int_of_kind (same.trans kind)
    exact ⟨some number, rfl⟩

theorem held_ints {name : String}
    (declared : ∃ spec ∈ schema.attributes, spec.name = name ∧ spec.kind = .ints) :
    ∃ numbers : Option (List Int), node.attributes.get? name = numbers.map .ints := by
  obtain ⟨spec, listed, rfl, kind⟩ := declared
  cases held : node.attributes.get? spec.name with
  | none => exact ⟨none, rfl⟩
  | some value =>
    have same := Check.kind_eq_of_attributes passed.attributes_eq listed held
    obtain ⟨numbers, rfl⟩ := AttributeValue.exists_ints_of_kind (same.trans kind)
    exact ⟨some numbers, rfl⟩

/-- A pass-through fails for the failures by which its node is refused. -/
theorem passThrough_fails_iff (unary : schema.toSignature.Unary typeVariable)
    (named : node.opType ∈ ["ThresholdedRelu", "ScaledTanh", "Scale"]) :
    Fails InferenceFunction.passThrough.program (nodeContext schema bindings seen node) failure ↔
      Refused seen.typeOf node failure := by
  obtain ⟨output, only, present⟩ := passed.output_eq unary
  have last : firstOperand? node.outputs = some output :=
    firstOperand?_eq_some_iff.mpr ⟨by rw [only]; rfl, present⟩
  rw [InferenceFunction.passThrough_fails_iff (passed.firstAgrees unary only present),
    inputDimensions?_nodeContext]
  constructor
  · rintro ⟨dimensions, clash, ranked, clashes, rfl⟩
    exact .passedOn named last ranked clashes
  · intro refused
    cases refused with
    | passedOn _ lastAgain ranked clashes =>
      obtain rfl : output = _ := Option.some.inj (last.symm.trans lastAgain)
      exact ⟨_, _, ranked, clashes, rfl⟩
    | given fills => simp [fills] at named
    | extended fills => simp [fills] at named

theorem fill_fails_iff (unary : schema.toSignature.Unary typeVariable)
    (named : node.opType = "GivenTensorFill")
    (declared : schema.attributes = Catalogue.givenTensorFill.attributes) :
    Fails InferenceFunction.fill.program (nodeContext schema bindings seen node) failure ↔
      Refused seen.typeOf node failure := by
  obtain ⟨output, only, present⟩ := passed.output_eq unary
  have last : firstOperand? node.outputs = some output :=
    firstOperand?_eq_some_iff.mpr ⟨by rw [only]; rfl, present⟩
  have undefaulted : ∀ spec ∈ schema.attributes, spec.default? = none := by
    simp [declared, Catalogue.givenTensorFill, AttributeSpec.default?]
  have attributes := attribute?_nodeContext bindings seen node undefaulted
  obtain ⟨given, shaped⟩ : ∃ given : Option (List Int),
      node.attributes.get? "shape" = given.map .ints :=
    passed.held_ints (by simp [declared, Catalogue.givenTensorFill])
  obtain ⟨flag, flagged⟩ : ∃ flag : Option Int,
      node.attributes.get? "input_as_shape" = flag.map .int :=
    passed.held_int (by simp [declared, Catalogue.givenTensorFill])
  obtain ⟨extra, further⟩ : ∃ extra : Option (List Int),
      node.attributes.get? "extra_shape" = extra.map .ints :=
    passed.held_ints (by simp [declared, Catalogue.givenTensorFill])
  have sizes : extraSizes node = extra.getD [] := by
    rw [extraSizes, further]
    cases extra <;> rfl
  -- The checks leave only integers in the attribute, so it is unset when it is absent or zero.
  have zero_iff : flag.getD 0 = 0 ↔ node.attributes.get? "input_as_shape" = none ∨
      node.attributes.get? "input_as_shape" = some (.int 0) := by
    rw [flagged]
    cases flag <;> simp
  have absent_iff : given = none ↔ node.attributes.get? "shape" = none := by simp [shaped]
  rw [InferenceFunction.fill_fails_iff (passed.firstAgrees unary only present)
    ((attributes _).trans shaped) ((attributes _).trans flagged) ((attributes _).trans further),
    inputDimensions?_nodeContext, zero_iff, absent_iff, ← sizes]
  constructor
  · rintro (⟨sizes, rfl, refused⟩ | ⟨absent, unset, refused⟩)
    · exact .given named last shaped refused
    · exact .extended named last absent unset refused
  · intro refused
    cases refused with
    | passedOn passes => simp [named] at passes
    | given _ lastAgain held refused =>
      obtain rfl : output = _ := Option.some.inj (last.symm.trans lastAgain)
      rw [shaped] at held
      cases given with
      | none => cases held
      | some sizes =>
        cases held
        exact .inl ⟨_, rfl, refused⟩
    | extended _ lastAgain absent unset refused =>
      obtain rfl : output = _ := Option.some.inj (last.symm.trans lastAgain)
      exact .inr ⟨absent, unset, refused⟩

end Constrained

theorem Constrained.not_refused
    (passed : Constrained .experimental seen node schema bindings)
    (absent : schema.inference = none) : ¬Refused seen.typeOf node failure := by
  obtain ⟨version, found⟩ := lookup_of_resolveSchema passed.resolved
  intro refused
  rcases FrozenRegistry.experimental_cases found with
    ⟨_, present⟩ | ⟨_, present, _⟩ | ⟨named, _⟩
  · simp [absent] at present
  · simp [absent] at present
  · cases refused with
    | passedOn passes =>
      simp only [List.mem_cons, List.not_mem_nil, or_false] at named passes
      rcases named with same | same | same <;> simp [same] at passes
    | given fills => simp [fills] at named
    | extended fills => simp [fills] at named

/-- The inference function of an experimental operator fails for the failures by which its node is
refused. -/
theorem Constrained.fails_iff_refused {function : InferenceFunction}
    (passed : Constrained .experimental seen node schema bindings)
    (declared : schema.inference = some function) :
    Fails function.program (nodeContext schema bindings seen node) failure ↔
      Refused seen.typeOf node failure := by
  obtain ⟨version, found⟩ := lookup_of_resolveSchema passed.resolved
  have unary := FrozenRegistry.experimental_unary found (by simp [declared])
  rcases FrozenRegistry.experimental_cases found with
    ⟨named, present⟩ | ⟨named, present, _⟩ | ⟨_, absent⟩
  · obtain rfl : function = .passThrough := Option.some.inj (declared.symm.trans present)
    exact passed.passThrough_fails_iff unary named
  · obtain rfl : function = .fill := Option.some.inj (declared.symm.trans present)
    rw [named] at found
    exact passed.fill_fails_iff unary named (FrozenRegistry.experimental_fill_attributes found)
  · simp [declared] at absent

theorem Constrained.stagedViolation_eq_none {function : InferenceFunction}
    {outcome : InferenceOutcome} (passed : Constrained .experimental seen node schema bindings)
    (declared : schema.inference = some function)
    (ended : (nodeRun function schema bindings seen node).result = .ok outcome) :
    stagedViolation schema bindings (nodeRun function schema bindings seen node) = none := by
  obtain ⟨version, found⟩ := lookup_of_resolveSchema passed.resolved
  have unary := FrozenRegistry.experimental_unary found (by simp [declared])
  obtain ⟨output, only, present⟩ := passed.output_eq unary
  rcases FrozenRegistry.experimental_shared.of_lookup found declared with rfl | rfl
  · exact passed.staged_accepted unary only present
      (InferenceFunction.passThrough_joined ⟨ended, rfl⟩)
  · obtain ⟨_, _, join⟩ := InferenceFunction.fill_joined ⟨ended, rfl⟩
    exact passed.staged_accepted unary only present join

end Analysis

/-- A node fails in its inference exactly when it passes its checks and is refused, and then it
reports one diagnostic, with the reason for which it is refused. -/
structure FailsAsRefused (seen : Graph) (index : Nat) (node : Node) (report : NodeReport) :
    Prop where
  failed_iff : report.state = .inferenceFailed ↔
    (∃ schema bindings, Analysis.Constrained .experimental seen node schema bindings) ∧
      ∃ failure, Refused seen.typeOf node failure
  reason : report.state = .inferenceFailed → ∃ failure, Refused seen.typeOf node failure ∧
    report.diagnostics = [⟨NodeRef.ofNode index node, report.op, .inference failure⟩] ∧
    ((∃ size, failure = .negativeSize size) ∨ ∃ clash, failure = .shapeClash 0 clash)

theorem Analysis.analyzeNode_failsAsRefused (options : AnalysisOptions) (seen : Graph)
    (index : Nat) (node : Node) :
    FailsAsRefused seen index node
      (analyzeNode .experimental options .infer seen index node).report := by
  have course := analyzeNode_course .experimental options .infer seen index node
  generalize analyzeNode .experimental options .infer seen index node = analysis at course
  -- A node that stops before its inference has not passed its checks, and one that gets past its
  -- inference is not refused. In both cases neither side of the equivalence holds.
  have before {report : NodeReport} (early : report.state ≠ .inferenceFailed)
      (unpassed : ∀ schema bindings, ¬Constrained .experimental seen node schema bindings) :
      FailsAsRefused seen index node report := by
    refine ⟨iff_of_false early ?_, fun failed => absurd failed early⟩
    rintro ⟨⟨schema, bindings, passed⟩, _⟩
    exact unpassed schema bindings passed
  have after {report : NodeReport} (fine : report.state ≠ .inferenceFailed)
      (unrefused : ∀ failure, ¬Refused seen.typeOf node failure) :
      FailsAsRefused seen index node report := by
    refine ⟨iff_of_false fine ?_, fun failed => absurd failed fine⟩
    rintro ⟨_, failure, refused⟩
    exact unrefused failure refused
  cases course with
  | unresolved missing =>
    refine before (by simp [nodeReport]) fun schema bindings passed => ?_
    rw [passed.resolved] at missing
    cases missing
  | unfit resolved found =>
    refine before (by simp [nodeReport]) fun schema bindings passed => ?_
    obtain rfl := Except.ok.inj (resolved.symm.trans passed.resolved)
    rw [passed.conforms] at found
    cases found
  | violated resolved conforms violates =>
    refine before (by simp [nodeReport]) fun schema bindings passed => ?_
    obtain rfl := Except.ok.inj (resolved.symm.trans passed.resolved)
    rw [passed.bound] at violates
    cases violates
  | uninferred passed absent =>
    exact after (by simp [nodeReport]) fun failure => passed.not_refused absent
  | failed passed declared ended =>
    have refused := (passed.fails_iff_refused declared).mp ended
    exact ⟨iff_of_true rfl ⟨⟨_, _, passed⟩, _, refused⟩,
      fun _ => ⟨_, refused, rfl, refused.shapes⟩⟩
  | miswritten passed declared ended violates =>
    rw [passed.stagedViolation_eq_none declared ended] at violates
    cases violates
  | inferred passed declared ended =>
    rename_i outcome _
    refine after (by cases outcome <;> simp [nodeReport, outcomeState]) fun failure refused => ?_
    have fails := (passed.fails_iff_refused declared).mpr refused
    rw [Fails, ← nodeRun, ended] at fails
    cases fails

namespace ShapeInference

variable {options : AnalysisOptions} {graph : Graph}

/-- In a run against the experimental operators every node fails as it is refused, seen in the graph
that the nodes before it leave. The report lists what was found of each node, and a run that stops
returns what was found of the last one. -/
theorem run_failsAsRefused (built : Built graph) (options : AnalysisOptions) :
    let made := analyzed options .experimental graph
    let ran := run options .experimental graph
    (∀ (i : Nat) (analysis : NodeAnalysis), made[i]? = some analysis →
      ∃ node, graph.nodes[i]? = some node ∧
        FailsAsRefused (inferNodes .experimental options 0 (graph.nodes.take i) graph).graph i node
          analysis.report) ∧
      (∀ report, ran.result = .ok report →
        report.nodes = made.map NodeAnalysis.report ∧ made.length = graph.nodes.length) ∧
      ∀ diagnostic, ran.result = .error (.node diagnostic) →
        ∃ last, made.getLast? = some last ∧ last.report.diagnostics.head? = some diagnostic := by
  intro made ran
  have indexed := built.indexed
  cases valid : graph.validate with
  | error problem =>
    have none : made = [] := by simp only [made, analyzed, valid]
    have stopped : ran.result = .error (.graph problem) := by simp only [ran, run, valid]
    rw [none, stopped]
    simp
  | ok _ =>
    have traced : made = analyses .experimental options 0 graph.nodes graph := by
      simp only [made, analyzed, valid]
    have result : ran.result = (inferNodes .experimental options 0 graph.nodes graph).result.map
        (⟨"shape_inference", ·⟩) := by simp only [ran, run, valid]
    rw [traced, result]
    refine ⟨fun i analysis listed => ?_, fun report done => ?_, fun diagnostic stopped => ?_⟩
    · obtain ⟨node, here, rfl⟩ := analyzed_at indexed listed
      rw [Nat.zero_add]
      exact ⟨node, here, Analysis.analyzeNode_failsAsRefused options _ i node⟩
    · obtain ⟨entries, ended, rfl⟩ := exists_of_map_eq_ok done
      obtain ⟨same, counted⟩ := reports_eq ended
      exact ⟨same, by rw [← counted, same, List.length_map]⟩
    · cases ended : (inferNodes .experimental options 0 graph.nodes graph).result with
      | ok entries => simp [ended, Except.map] at stopped
      | error problem =>
        simp only [ended, Except.map, Except.error.injEq] at stopped
        subst stopped
        obtain ⟨_, last, found, final, first, same⟩ := stopped_at indexed ended
        cases same
        exact ⟨last, final, first⟩

/-- The further size makes the rank of the fill two, and its output is declared with rank one. -/
def longFill : Graph :=
  let start := (GraphOf.empty.importOpset "" 1).addInput
    ⟨"x", { elementType := some .float32, shape := .ranked [.symbol "n"] }⟩
  let declared := start.1.addTensor ⟨"y", { shape := .ranked [.size 2] }⟩
  let filled := declared.1.addNode
    { opType := "GivenTensorFill", inputs := ["x"], outputs := ["y"],
      attributes := .ofList [("extra_shape", .ints [3])] }
  (filled.1.addNode { opType := "Scale", inputs := ["x"], outputs := ["z"] }).1

/-- The fill reports the reason for which it is refused, and the node behind it is inferred. -/
theorem run_failsAsRefused_longFill :
    (analyzed {} .experimental longFill).map (fun made => made.report.state) =
      [.inferenceFailed, .shapeInferred] ∧
    ∃ (node : Node) (analysis : NodeAnalysis) (failure : InferenceFailure),
      longFill.nodes[0]? = some node ∧
      (analyzed {} .experimental longFill)[0]? = some analysis ∧
      Refused longFill.typeOf node failure ∧
      analysis.report.diagnostics =
        [⟨NodeRef.ofNode 0 node, analysis.report.op, .inference failure⟩] := by
  have built : Built longFill :=
    .addNode (.addNode (.addTensor (.addInput (.importOpset .empty _ _) _) _) _) _
  have states : (analyzed {} .experimental longFill).map (fun made => made.report.state) =
      [.inferenceFailed, .shapeInferred] := by cbv
  obtain ⟨traced, _, _⟩ := run_failsAsRefused built {}
  have first := congrArg (·[0]?) states
  simp only [List.getElem?_map, List.getElem?_cons_zero, Option.map_eq_some_iff] at first
  obtain ⟨analysis, listed, state⟩ := first
  obtain ⟨node, here, fails⟩ := traced 0 analysis listed
  rw [List.take_zero, inferNodes] at fails
  obtain ⟨failure, refused, reported, _⟩ := fails.reason state
  exact ⟨states, node, analysis, failure, here, listed, refused, reported⟩

end ShapeInference

end ShapeFlow
