import Mathlib
import ShapeFlow.Proofs.Analysis.Constraint
import ShapeFlow.Proofs.Analysis.Settled
import ShapeFlow.Proofs.Catalogue

/-!
Inference computes a least solution. A clean run over a valid graph that produces each name once
ends with the least types that say what was declared and that respect every node.
-/

namespace ShapeFlow

open GraphOf Constraint

/-- An assignment says what a graph declares and respects all of its nodes. -/
structure Solution (graph : Graph) (assigned : String → TensorType) : Prop where
  declared : ∀ name, graph.typeOf name ≤ assigned name
  satisfied : ∀ node ∈ graph.nodes, Satisfied assigned node

namespace ShapeInference

variable {options : AnalysisOptions} {graph declared final seen : Graph} {index place : Nat}
  {node : Node} {name : String} {analysis : NodeAnalysis} {schema : Schema}
  {bindings : TypeBindings}

private theorem typeOf_le_iff {registry : FrozenRegistry} {reached : Context} {asked : TensorType}
    (settled : Settled registry options declared final index node analysis)
    (outputs : Analysis.outputTypes seen node = Analysis.outputTypes declared node)
    (join : Inference.Joined 0 (Analysis.nodeContext schema bindings seen node) reached asked)
    (staged : analysis.staged = some reached.outputs) (output : node.outputs[place]? = some name)
    (named : name ≠ "") (upper : TensorType) :
    final.typeOf name ≤ upper ↔ declared.typeOf name ≤ upper ∧ (place = 0 → asked ≤ upper) := by
  have before : (Analysis.nodeContext schema bindings seen node).outputs[place]? =
      some (declared.typeOf name) := by
    rw [Analysis.nodeContext, outputs, Analysis.outputTypes, List.getElem?_map, output]
    simp [named]
  by_cases first : place = 0
  · subst first
    obtain ⟨updated, stagedHere, joins⟩ := join.joined _ before
    rw [settled.committed _ staged 0 name updated output named stagedHere, joins]
    simp
  · have stagedHere := (join.others place first).trans before
    rw [settled.committed _ staged place name _ output named stagedHere]
    simp [first]

/-- The outputs of a node say what was declared, the first one says what the node asks of it, and
nothing more is known about them. -/
structure LeastOutputs (declared final : Graph) (node : Node) (asked : TensorType) : Prop where
  asks : Asked final.typeOf node asked
  outputs : ∀ (place : Nat) (name : String), node.outputs[place]? = some name → name ≠ "" →
    ∀ upper, final.typeOf name ≤ upper ↔
      declared.typeOf name ≤ upper ∧ (place = 0 → asked ≤ upper)

theorem Settled.leastOutputs
    (settled : Settled .experimental options declared final index node analysis)
    (strict : options.missingSchema = .error) (clean : analysis.report.diagnostics = []) :
    ∃ asked, LeastOutputs declared final node asked := by
  obtain ⟨seen, _, inputs, outputs, analyzed⟩ := settled.seen
  rw [analyzed] at clean
  obtain ⟨schema, resolved, ended⟩ := Analysis.analyzeNode_clean strict clean
  obtain ⟨version, found⟩ := Analysis.lookup_of_resolveSchema resolved
  rw [← analyzed] at ended
  rcases ended with ⟨absent, none⟩ | ⟨function, bindings, outcome, reached, declares, ends, staged⟩
  · rcases FrozenRegistry.experimental_cases found with ⟨_, present⟩ | ⟨_, present, _⟩ | ⟨named, _⟩
    · simp [absent] at present
    · simp [absent] at present
    · refine ⟨{}, asked_nothing named, ?_⟩
      intro place name output present upper
      have listed := NodeOf.mem_presentOutputs.mpr ⟨List.mem_of_getElem? output, present⟩
      rw [settled.withheld none name listed]
      exact (and_iff_left fun _ => TensorType.unknown_le upper).symm
  · have input := Analysis.input?_nodeContext schema bindings inputs
    rcases FrozenRegistry.experimental_cases found with
      ⟨named, present⟩ | ⟨named, present, undefaulted⟩ | ⟨_, present⟩
    · obtain rfl : function = .passThrough := Option.some.inj (declares.symm.trans present)
      have join := InferenceFunction.passThrough_joined ends
      refine ⟨_, asked_passThrough named input, ?_⟩
      intro place name output present upper
      exact typeOf_le_iff settled outputs join staged output present upper
    · obtain rfl : function = .fill := Option.some.inj (declares.symm.trans present)
      obtain ⟨shape, chosen, join⟩ := InferenceFunction.fill_joined ends
      have attributes := Analysis.attribute?_nodeContext bindings seen node undefaulted
      refine ⟨_, asked_fill attributes input named chosen, ?_⟩
      intro place name output present upper
      exact typeOf_le_iff settled outputs join staged output present upper
    · simp [declares] at present

section Settlement

variable {registry : FrozenRegistry} {entries : List NodeReport} {assigned : String → TensorType}
  {available : List String}

private theorem Settlement.solution
    (settlement : Settlement registry options declared final entries)
    (least : ∀ node ∈ declared.nodes, ∃ asked, LeastOutputs declared final node asked) :
    Solution declared final.typeOf := by
  constructor
  · intro name
    by_cases made : name ∈ produced declared.nodes
    · obtain ⟨node, listed, present⟩ := mem_produced.mp made
      obtain ⟨member, named⟩ := NodeOf.mem_presentOutputs.mp present
      obtain ⟨place, output⟩ := List.mem_iff_getElem?.mp member
      obtain ⟨_, outputs⟩ := least node listed
      exact ((outputs.outputs place name output named _).mp le_rfl).1
    · rw [settlement.outside name made]
  · intro node listed
    obtain ⟨_, outputs⟩ := least node listed
    refine outputs.asks.enough fun output first => ?_
    obtain ⟨here, named⟩ := firstOperand?_eq_some_iff.mp first
    exact ((outputs.outputs 0 output here named _).mp le_rfl).2 rfl

/-- Going through the nodes in order, no solution says less about a name than the run does. -/
private theorem Settlement.typeOf_le
    (settlement : Settlement registry options declared final entries)
    (least : ∀ node ∈ declared.nodes, ∃ asked, LeastOutputs declared final node asked)
    (ordered : checkOrder available declared.nodes = .ok ())
    (fresh : ∀ name ∈ produced declared.nodes, name ∉ available)
    (solution : Solution declared assigned) (name : String) :
    final.typeOf name ≤ assigned name := by
  have outside : ∀ name, name ∉ produced declared.nodes → final.typeOf name ≤ assigned name := by
    intro name absent
    rw [settlement.outside name absent]
    exact solution.declared name
  have reached : ∀ node ∈ declared.nodes,
      (∀ input ∈ node.inputs, input ≠ "" → final.typeOf input ≤ assigned input) ∧
        ∀ output ∈ node.outputs, final.typeOf output ≤ assigned output := by
    refine checkOrder_induction ordered ?_ ?_
    · intro name ready
      exact outside name fun made => fresh name made ready
    · intro node listed inputs output member
      by_cases absent : output = ""
      · subst absent
        exact outside "" (empty_not_produced declared.nodes)
      · obtain ⟨place, here⟩ := List.mem_iff_getElem?.mp member
        obtain ⟨asked, outputs⟩ := least node listed
        refine (outputs.outputs place output here absent _).mpr ⟨solution.declared output, ?_⟩
        rintro rfl
        refine outputs.asks.forced assigned (solution.satisfied node listed) ?_ output
          (firstOperand?_eq_some_iff.mpr ⟨here, absent⟩)
        intro input first
        obtain ⟨read, named⟩ := firstOperand?_eq_some_iff.mp first
        exact inputs input (List.mem_of_getElem? read) named
  by_cases made : name ∈ produced declared.nodes
  · obtain ⟨node, listed, present⟩ := mem_produced.mp made
    exact (reached node listed).2 name (NodeOf.mem_presentOutputs.mp present).1
  · exact outside name made

end Settlement

/-- What a run without diagnostics leaves is the least solution of what was declared and of what the
nodes ask. -/
theorem inferShapes_least (built : Built graph) (single : graph.SingleAssignment)
    {report : PassReport} (done : (inferShapes .experimental graph).result = .ok report)
    (clean : report.diagnostics = []) :
    IsLeast {assigned | Solution graph assigned} (inferShapes .experimental graph).graph.typeOf := by
  have collect : ({} : AnalysisOptions).errorPolicy = .collectAll := rfl
  have strict : ({} : AnalysisOptions).missingSchema = .error := rfl
  have valid : graph.validate = .ok () := by
    cases checked : graph.validate with
    | ok _ => rfl
    | error problem => simp [inferShapes, run, checked] at done
  obtain ⟨_, ordered⟩ := validate_eq_ok_iff.mp valid
  obtain ⟨found, ended, settlement⟩ :=
    run_settlement built.indexed collect .experimental valid single
  have same : found = report := Except.ok.inj (ended.symm.trans done)
  subst same
  have least : ∀ node ∈ graph.nodes, ∃ asked,
      LeastOutputs graph (inferShapes .experimental graph).graph node asked := by
    intro node member
    obtain ⟨i, listed⟩ := List.mem_iff_getElem?.mp member
    obtain ⟨analysis, entry, settled⟩ := settlement.settled i node listed
    have quiet : analysis.report.diagnostics = [] :=
      List.flatMap_eq_nil_iff.mp clean _ (List.mem_of_getElem? entry)
    exact settled.leastOutputs strict quiet
  constructor
  · exact settlement.solution least
  · intro assigned solution name
    exact settlement.typeOf_le least ordered single.fresh solution name

/-- A fill that extends the shape of its input, and a scaling whose output is declared in part. -/
def extendedFill : Graph :=
  let start := (GraphOf.empty.importOpset "" 1).addInput
    ⟨"x", { elementType := some .float32, shape := .ranked [.symbol "n", .size 3] }⟩
  let declared := start.1.addTensor ⟨"b", { shape := .ranked [.size 5, .unknown, .unknown] }⟩
  let filled := declared.1.addNode
    { opType := "GivenTensorFill", inputs := ["x"], outputs := ["a"],
      attributes := .ofList [("extra_shape", .ints [2])] }
  (filled.1.addNode { opType := "Scale", inputs := ["a"], outputs := ["b"] }).1

/-- The size declared of the last output does not reach back to the tensors before it. -/
theorem inferShapes_least_extendedFill :
    IsLeast {assigned | Solution extendedFill assigned}
      (inferShapes .experimental extendedFill).graph.typeOf ∧
    (inferShapes .experimental extendedFill).graph.typeOf "a" =
      { elementType := some .float32, shape := .ranked [.symbol "n", .size 3, .size 2] } ∧
    (inferShapes .experimental extendedFill).graph.typeOf "b" =
      { elementType := some .float32, shape := .ranked [.size 5, .size 3, .size 2] } := by
  have built : Built extendedFill :=
    .addNode (.addNode (.addTensor (.addInput (.importOpset .empty _ _) _) _) _) _
  have single : extendedFill.SingleAssignment := ⟨by decide, by decide⟩
  have ran : (let run := inferShapes .experimental extendedFill
      (run.result.map PassReport.diagnostics, run.graph.typeOf "a", run.graph.typeOf "b")) =
      (.ok [],
        { elementType := some .float32, shape := .ranked [.symbol "n", .size 3, .size 2] },
        { elementType := some .float32, shape := .ranked [.size 5, .size 3, .size 2] }) := by cbv
  obtain ⟨quiet, known⟩ := Prod.ext_iff.mp ran
  refine ⟨?_, congrArg Prod.fst known, congrArg Prod.snd known⟩
  cases done : (inferShapes .experimental extendedFill).result with
  | error problem => simp [done, Except.map] at quiet
  | ok report =>
    have clean : report.diagnostics = [] := by simpa [done, Except.map] using quiet
    exact inferShapes_least built single done clean

end ShapeInference

end ShapeFlow
