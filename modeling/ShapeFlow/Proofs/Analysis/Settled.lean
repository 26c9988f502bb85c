import ShapeFlow.Proofs.Analysis.Run

/-!
What a collecting run settles. On a valid graph in which every name is produced once, nothing that
a node reads is written after the node was analyzed. So each report is the analysis of the node with
the final types of its inputs and the declared types of its outputs, and two runs that are given the
same declarations agree wherever they share a node and all that it depends on.
-/

namespace ShapeFlow.ShapeInference

open GraphOf

variable {registry : FrozenRegistry} {options : AnalysisOptions} {index : Nat}
  {graph declared final : Graph} {nodes : List Node} {node : Node} {name : String}
  {available : List String}

/-- The analysis of a node agrees with the final types of its inputs and with the declared types of
its outputs, and its outputs end as it staged them or else as they were declared. -/
structure Settled (registry : FrozenRegistry) (options : AnalysisOptions) (declared final : Graph)
    (index : Nat) (node : Node) (analysis : NodeAnalysis) : Prop where
  seen : ∃ seen : Graph, seen.opsetVersionFor node = declared.opsetVersionFor node ∧
    Analysis.inputTypes seen node = Analysis.inputTypes final node ∧
    Analysis.outputTypes seen node = Analysis.outputTypes declared node ∧
    analysis = Analysis.analyzeNode registry options .infer seen index node
  committed : ∀ types ∈ analysis.staged, ∀ (place : Nat) (name : String) (type : TensorType),
    node.outputs[place]? = some name → name ≠ "" → types[place]? = some type →
      final.typeOf name = type
  withheld : analysis.staged = none → ∀ name ∈ node.presentOutputs,
    final.typeOf name = declared.typeOf name

/-- Everything that a collecting run over a graph settles. -/
structure Settlement (registry : FrozenRegistry) (options : AnalysisOptions)
    (declared final : Graph) (entries : List NodeReport) : Prop where
  indexed : final.Indexed
  reported : entries.length = declared.nodes.length
  settled : ∀ (i : Nat) (node : Node), declared.nodes[i]? = some node →
    ∃ analysis, entries[i]? = some analysis.report ∧
      Settled registry options declared final i node analysis
  outside : ∀ name, name ∉ produced declared.nodes → final.typeOf name = declared.typeOf name
  described : ∀ name, final.tensors.contains name = true ↔
    name ∈ produced declared.nodes ∨ declared.tensors.contains name = true

private theorem written_subset (node : Node) (staged : Option (List TensorType)) :
    written node staged ⊆ {name | name ∈ node.presentOutputs} := by
  cases staged with
  | none => exact fun _ impossible => False.elim impossible
  | some types => exact fun _ member => member

theorem writtenBy_subset (nodes : List Node) (analyses : List NodeAnalysis) :
    writtenBy nodes analyses ⊆ {name | name ∈ produced nodes} := by
  rintro name ⟨i, node, analysis, listed, _, member⟩
  exact mem_produced.mpr ⟨node, List.mem_of_getElem? listed, written_subset _ _ member⟩

theorem inferNodes_collects (indexed : graph.Indexed) (collect : options.errorPolicy = .collectAll)
    (registry : FrozenRegistry) (index : Nat) (nodes : List Node) :
    (inferNodes registry options index nodes graph).result =
      .ok ((analyses registry options index nodes graph).map NodeAnalysis.report) := by
  cases ended : (inferNodes registry options index nodes graph).result with
  | ok reports => rw [(reports_eq ended).1]
  | error problem =>
    have policy := (stopped_at indexed ended).1
    rw [collect] at policy
    cases policy

theorem typeOf_inferNodes (indexed : graph.Indexed) (registry : FrozenRegistry)
    (options : AnalysisOptions) (index : Nat) (outside : name ∉ produced nodes) :
    (inferNodes registry options index nodes graph).graph.typeOf name = graph.typeOf name := by
  obtain ⟨valid, frame⟩ := inferNodes_frame indexed registry options index nodes
  exact (frame.mono (writtenBy_subset _ _)).typeOf_eq valid indexed outside

private theorem settled_here {analysis : NodeAnalysis} (indexed : graph.Indexed)
    (found : analysis = Analysis.analyzeNode registry options .infer graph index node)
    (distinct : node.presentOutputs.Nodup)
    (reads : ∀ input ∈ node.inputs, input ≠ "" → final.typeOf input = graph.typeOf input)
    (kept : ∀ name ∈ node.presentOutputs,
      final.typeOf name = (advance graph node analysis.staged).typeOf name) :
    Settled registry options graph final index node analysis := by
  refine ⟨⟨graph, rfl, ?_, rfl, found⟩, ?_, ?_⟩
  · exact Analysis.inputTypes_congr fun input read named => (reads input read named).symm
  · intro types staged place name type output named stagedHere
    have present : name ∈ node.presentOutputs :=
      NodeOf.mem_presentOutputs.mpr ⟨List.mem_of_getElem? output, named⟩
    have sized : types.length = node.outputs.length := Analysis.length_staged (found ▸ staged)
    rw [kept name present, staged]
    exact typeOf_advance indexed sized distinct named output stagedHere
  · intro staged name present
    rw [kept name present, staged, typeOf_advance_none]

private theorem Settled.from_start {middle : Graph} {analysis : NodeAnalysis}
    (settled : Settled registry options middle final index node analysis)
    (version : middle.opsetVersionFor node = graph.opsetVersionFor node)
    (untouched : ∀ name ∈ node.presentOutputs, middle.typeOf name = graph.typeOf name) :
    Settled registry options graph final index node analysis := by
  obtain ⟨⟨seen, versionSeen, inputs, outputs, same⟩, committed, withheld⟩ := settled
  refine ⟨⟨seen, versionSeen.trans version, inputs, outputs.trans ?_, same⟩, committed, ?_⟩
  · exact Analysis.outputTypes_congr fun name output named =>
      untouched name (NodeOf.mem_presentOutputs.mpr ⟨output, named⟩)
  · intro none name present
    exact (withheld none name present).trans (untouched name present)

/-- Each node of an ordered list that a pass analyzes is settled, since nothing that it reads is
written at its own step or later, and nothing that it produces is written at another step. -/
theorem inferNodes_settled (indexed : graph.Indexed) (registry : FrozenRegistry)
    (options : AnalysisOptions) (index : Nat) (ordered : checkOrder available nodes = .ok ())
    (distinct : (produced nodes).Nodup) (fresh : ∀ name ∈ produced nodes, name ∉ available) :
    ∀ (i : Nat) (node : Node) (analysis : NodeAnalysis), nodes[i]? = some node →
      (analyses registry options index nodes graph)[i]? = some analysis →
        Settled registry options graph (inferNodes registry options index nodes graph).graph
          (index + i) node analysis := by
  induction nodes generalizing index graph available with
  | nil => simp
  | cons head rest ih =>
    obtain ⟨reads, later⟩ := checkOrder_cons_iff.mp ordered
    rw [produced_cons] at distinct
    have freshRest := fresh_after distinct fresh
    rw [produced_cons] at fresh
    obtain ⟨distinctHead, distinctRest, apart⟩ := List.nodup_append.mp distinct
    obtain ⟨analysis, found, valid, step, course⟩ :=
      pass_cons indexed registry options index head rest
    have afterHead : ∀ name, name ∉ head.presentOutputs →
        (advance graph head analysis.staged).typeOf name = graph.typeOf name :=
      fun name absent => (step.mono (written_subset _ _)).typeOf_eq valid indexed absent
    have settledHead {final : Graph} (atEnd : ∀ name, name ∉ produced rest →
        final.typeOf name = (advance graph head analysis.staged).typeOf name) :
        Settled registry options graph final index head analysis := by
      refine settled_here indexed found distinctHead ?_ ?_
      · intro input read named
        have outside := fun made => fresh input made (reads input read named)
        rw [atEnd input fun made => outside (List.mem_append_right _ made),
          afterHead input fun made => outside (List.mem_append_left _ made)]
      · intro name present
        exact atEnd name fun made => apart name present name made rfl
    intro i node reached listed analyzed
    rcases course with ⟨_, _, _, ran, traced⟩ | ⟨_, ran, traced⟩
    · rw [traced] at analyzed
      cases i with
      | succ i => simp at analyzed
      | zero =>
        cases listed
        cases analyzed
        rw [ran]
        exact settledHead fun _ _ => rfl
    · rw [traced] at analyzed
      rw [ran]
      cases i with
      | zero =>
        cases listed
        cases analyzed
        exact settledHead fun name absent =>
          typeOf_inferNodes valid registry options (index + 1) absent
      | succ i =>
        have inRest : rest[i]? = some node := listed
        have settled := ih valid (index + 1) later distinctRest freshRest i node reached inRest
          analyzed
        have place : index + 1 + i = index + (i + 1) := by omega
        rw [place] at settled
        refine settled.from_start (step.opsetVersionFor_eq node) fun name present => ?_
        have made := mem_produced.mpr ⟨node, List.mem_of_getElem? inRest, present⟩
        exact afterHead name fun first => apart name first name made rfl

/-- A collecting run over a valid graph that produces each name once settles every node. -/
theorem run_settlement (indexed : graph.Indexed) (collect : options.errorPolicy = .collectAll)
    (registry : FrozenRegistry) (valid : graph.validate = .ok ())
    (single : graph.SingleAssignment) :
    ∃ report, (run options registry graph).result = .ok report ∧
      Settlement registry options graph (run options registry graph).graph report.nodes := by
  have collected := inferNodes_collects indexed collect registry 0 graph.nodes
  obtain ⟨_, ordered⟩ := validate_eq_ok_iff.mp valid
  let entries := (analyses registry options 0 graph.nodes graph).map NodeAnalysis.report
  refine ⟨⟨"shape_inference", entries⟩, ?_, ?_⟩
  · simp only [run, valid, collected, Except.map, entries]
  · simp only [run, valid]
    have counted := (reports_eq collected).2
    refine ⟨(inferNodes_frame indexed registry options 0 graph.nodes).1, counted, ?_, ?_, ?_⟩
    · intro i node listed
      have bound : i < (analyses registry options 0 graph.nodes graph).length := by
        rw [← List.length_map NodeAnalysis.report, counted]
        exact (List.getElem?_eq_some_iff.mp listed).1
      have analyzed := List.getElem?_eq_getElem bound
      have settled := inferNodes_settled indexed registry options 0 ordered single.distinct
        single.fresh i node _ listed analyzed
      exact ⟨_, by rw [List.getElem?_map, analyzed]; rfl, Nat.zero_add i ▸ settled⟩
    · exact fun name absent => typeOf_inferNodes indexed registry options 0 absent
    · intro name
      rw [List.length_map] at counted
      rw [contains_inferNodes indexed registry options 0 graph.nodes, counted, List.take_length]

/-- A node that is given the same is found to be the same, at whatever place. -/
theorem Settled.eq_renumber {first second firstFinal secondFinal : Graph} {i j : Nat}
    {found other : NodeAnalysis} (left : Settled registry options first firstFinal i node found)
    (right : Settled registry options second secondFinal j node other)
    (sameImports : first.opsetImports = second.opsetImports)
    (sameDeclared : first.typeOf = second.typeOf)
    (sameInputs : ∀ input ∈ node.inputs, input ≠ "" →
      firstFinal.typeOf input = secondFinal.typeOf input) :
    other = { found with report := found.report.renumber j } := by
  obtain ⟨seen, version, inputs, outputs, rfl⟩ := left.seen
  obtain ⟨view, versionView, inputsView, outputsView, rfl⟩ := right.seen
  have agree : Analysis.Agree view seen node :=
    { opsetVersion := by
        rw [versionView, version, opsetVersionFor, opsetVersionFor, sameImports]
      inputs := by
        rw [inputsView, inputs]
        exact (Analysis.inputTypes_congr sameInputs).symm
      outputs := by
        rw [outputsView, outputs]
        exact Analysis.outputTypes_congr fun name _ _ => congrFun sameDeclared.symm name }
  rw [Analysis.analyzeNode_congr agree]
  exact Analysis.analyzeNode_renumber registry options .infer seen node i j

theorem Settled.outputs_eq {first second firstFinal secondFinal : Graph} {i j : Nat}
    {found other : NodeAnalysis} (left : Settled registry options first firstFinal i node found)
    (right : Settled registry options second secondFinal j node other)
    (sameImports : first.opsetImports = second.opsetImports)
    (sameDeclared : first.typeOf = second.typeOf)
    (sameInputs : ∀ input ∈ node.inputs, input ≠ "" →
      firstFinal.typeOf input = secondFinal.typeOf input) :
    ∀ name ∈ node.presentOutputs, firstFinal.typeOf name = secondFinal.typeOf name := by
  intro name present
  have same := left.eq_renumber right sameImports sameDeclared sameInputs
  cases staged : found.staged with
  | none =>
    have stagedOther : other.staged = none := by rw [same, ← staged]
    rw [left.withheld staged name present, right.withheld stagedOther name present, sameDeclared]
  | some types =>
    have stagedOther : other.staged = some types := by rw [same, ← staged]
    obtain ⟨listed, named⟩ := NodeOf.mem_presentOutputs.mp present
    obtain ⟨place, output⟩ := List.mem_iff_getElem?.mp listed
    obtain ⟨_, _, _, _, analyzed⟩ := left.seen
    have sized : types.length = node.outputs.length := Analysis.length_staged (analyzed ▸ staged)
    have bound : place < types.length := sized ▸ (List.getElem?_eq_some_iff.mp output).1
    have stagedHere := List.getElem?_eq_getElem bound
    rw [left.committed types staged place name _ output named stagedHere,
      right.committed types stagedOther place name _ output named stagedHere]

end ShapeFlow.ShapeInference
