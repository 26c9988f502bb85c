import ShapeFlow.Analysis.Pipeline
import ShapeFlow.Catalogue
import ShapeFlow.Proofs.Analysis.Checker
import ShapeFlow.Proofs.Analysis.Coherence
import ShapeFlow.Proofs.Analysis.Confinement
import ShapeFlow.Proofs.Analysis.Provided
import ShapeFlow.Proofs.Graph.Nodes

/-!
Stopping at the first diagnostic. A pass that fails fast does what the pass does that collects all
diagnostics, up to the first node with one. It stops there with the first diagnostic of that node,
and leaves the graph as if the later nodes were not listed.
-/

namespace ShapeFlow

open GraphOf

variable {registry : FrozenRegistry} {missing : MissingSchemaPolicy} {graph : Graph}
  {node : Node} {nodes others : List Node} {index place : Nat} {diagnostic : Diagnostic}
  {entry : NodeReport} {entries : List NodeReport}

/-- The first entry with diagnostics stands at a place, and a diagnostic is the first of it. -/
structure FirstProblem (entries : List NodeReport) (place : Nat) (diagnostic : Diagnostic) :
    Prop where
  found : ∃ entry, entries[place]? = some entry ∧ entry.diagnostics.head? = some diagnostic
  quiet : ∀ (earlier : Nat) (entry : NodeReport), earlier < place →
    entries[earlier]? = some entry → entry.diagnostics = []

namespace FirstProblem

theorem not_nil : ¬FirstProblem [] place diagnostic := by
  rintro ⟨⟨_, impossible, _⟩, _⟩
  cases impossible

theorem cons_zero_iff :
    FirstProblem (entry :: entries) 0 diagnostic ↔ entry.diagnostics.head? = some diagnostic := by
  constructor
  · rintro ⟨⟨_, listed, first⟩, _⟩
    cases listed
    exact first
  · intro first
    exact ⟨⟨entry, rfl, first⟩, fun _ _ impossible => absurd impossible (Nat.not_lt_zero _)⟩

theorem cons_succ_iff :
    FirstProblem (entry :: entries) (place + 1) diagnostic ↔
      entry.diagnostics = [] ∧ FirstProblem entries place diagnostic := by
  constructor
  · rintro ⟨found, quiet⟩
    refine ⟨quiet 0 entry (Nat.succ_pos place) rfl, found, fun earlier other before listed => ?_⟩
    exact quiet (earlier + 1) other (Nat.succ_lt_succ before) listed
  · rintro ⟨silent, found, quiet⟩
    refine ⟨found, fun earlier other before listed => ?_⟩
    cases earlier with
    | zero => exact Option.some.inj listed ▸ silent
    | succ earlier => exact quiet earlier other (Nat.lt_of_succ_lt_succ before) listed

theorem exists_of_diagnostics (present : entries.flatMap NodeReport.diagnostics ≠ []) :
    ∃ place diagnostic, FirstProblem entries place diagnostic ∧
      (entries.flatMap NodeReport.diagnostics).head? = some diagnostic := by
  induction entries with
  | nil => exact absurd rfl present
  | cons entry rest ih =>
    cases listed : entry.diagnostics with
    | cons diagnostic _ =>
      exact ⟨0, diagnostic, cons_zero_iff.mpr (by rw [listed]; rfl), by simp [listed]⟩
    | nil =>
      have later : rest.flatMap NodeReport.diagnostics ≠ [] := by simpa [listed] using present
      obtain ⟨place, diagnostic, first, head⟩ := ih later
      exact ⟨place + 1, diagnostic, cons_succ_iff.mpr ⟨listed, first⟩, by simpa [listed] using head⟩

end FirstProblem

theorem Analysis.commit_withNodes (graph : Graph) (others : List Node)
    (pairs : List (String × TensorType)) :
    commit (graph.withNodes others) pairs =
      ((commit graph pairs).1.withNodes others, (commit graph pairs).2) := by
  induction pairs generalizing graph with
  | nil => rfl
  | cons pair rest ih =>
    obtain ⟨name, type⟩ := pair
    by_cases absent : name = ""
    · simp only [commit, absent, if_true, ih]
    · simp only [commit, absent, if_false, ensureTensor_withNodes, setType_withNodes]
      cases (graph.ensureTensor name).1.setType (graph.ensureTensor name).2 type with
      | error problem => rfl
      | ok written => exact ih written

namespace ShapeInference

theorem ensureOutputs_withNodes (graph : Graph) (others : List Node) (node : Node) :
    ensureOutputs (graph.withNodes others) node = (ensureOutputs graph node).withNodes others := by
  unfold ensureOutputs
  generalize node.outputs.filter (· != "") = names
  induction names generalizing graph with
  | nil => rfl
  | cons name rest ih => rw [List.foldl_cons, ensureTensor_withNodes, ih, List.foldl_cons]

theorem commitStaged_withNodes (graph : Graph) (others : List Node) (node : Node)
    (staged : Option (List TensorType)) :
    Analysis.commitStaged (graph.withNodes others) node staged =
      ((Analysis.commitStaged graph node staged).1.withNodes others,
        (Analysis.commitStaged graph node staged).2) := by
  cases staged with
  | none => rfl
  | some types => exact Analysis.commit_withNodes graph others (node.outputs.zip types)

/-- A pass over nodes does not look at the nodes that the graph lists. -/
theorem inferNodes_withNodes (registry : FrozenRegistry) (options : AnalysisOptions) (index : Nat)
    (nodes : List Node) (graph : Graph) (others : List Node) :
    inferNodes registry options index nodes (graph.withNodes others) =
      { inferNodes registry options index nodes graph with
        graph := (inferNodes registry options index nodes graph).graph.withNodes others } := by
  induction nodes generalizing index graph with
  | nil => rfl
  | cons node rest ih =>
    have same (prepared : Graph) :
        Analysis.analyzeNode registry options .infer (prepared.withNodes others) index node =
          Analysis.analyzeNode registry options .infer prepared index node :=
      Analysis.analyzeNode_congr ⟨rfl, rfl, rfl⟩
    simp only [inferNodes, ensureOutputs_withNodes, same, commitStaged_withNodes]
    generalize Analysis.analyzeNode registry options .infer (ensureOutputs graph node) index node =
      analysis
    generalize Analysis.commitStaged (ensureOutputs graph node) node analysis.staged = committed
    obtain ⟨written, ended⟩ := committed
    cases ended with
    | error problem => rfl
    | ok _ =>
      cases Analysis.enforce options analysis.report with
      | error problem => rfl
      | ok _ => simp only [ih]

theorem nodes_inferNodes (registry : FrozenRegistry) (options : AnalysisOptions) (index : Nat)
    (nodes : List Node) (graph : Graph) :
    (inferNodes registry options index nodes graph).graph.nodes = graph.nodes :=
  congrArg (·.graph.nodes) (inferNodes_withNodes registry options index nodes graph graph.nodes)

/-- A run over later nodes, with the node before them that has been analyzed. -/
def preceded (analysis : NodeAnalysis) (later : GraphRun (List NodeReport)) :
    GraphRun (List NodeReport) where
  graph := later.graph
  notes := analysis.notes ++ later.notes
  result := later.result.map (analysis.report :: ·)

/-- The first step of the pass, in both modes, with the analyses of the pass that collects. -/
inductive FirstStep (registry : FrozenRegistry) (missing : MissingSchemaPolicy) (graph : Graph)
    (index : Nat) (node : Node) (analysis : NodeAnalysis) : Prop where
  /-- The types of the node cannot be written, and the pass ends in both modes. -/
  | refused (after : Graph) (problem : GraphError) (quiet : analysis.report.diagnostics = [])
      (ends : ∀ policy rest, inferNodes registry ⟨policy, missing⟩ index (node :: rest) graph =
        { graph := after, notes := analysis.notes, result := .error (.graph problem) })
      (traced : ∀ rest,
        analyses registry ⟨.collectAll, missing⟩ index (node :: rest) graph = [analysis])
  /-- A pass that collects goes on. A pass that fails fast goes on exactly when the node has no
  diagnostic. -/
  | written (after : Graph)
      (collects : ∀ rest, inferNodes registry ⟨.collectAll, missing⟩ index (node :: rest) graph =
        preceded analysis
          (inferNodes registry ⟨.collectAll, missing⟩ (index + 1) rest after))
      (traced : ∀ rest, analyses registry ⟨.collectAll, missing⟩ index (node :: rest) graph =
        analysis :: analyses registry ⟨.collectAll, missing⟩ (index + 1) rest after)
      (goesOn : analysis.report.diagnostics = [] → ∀ rest,
        inferNodes registry ⟨.failFast, missing⟩ index (node :: rest) graph =
          preceded analysis (inferNodes registry ⟨.failFast, missing⟩ (index + 1) rest after))
      (stops : ∀ diagnostic, analysis.report.diagnostics.head? = some diagnostic → ∀ rest,
        inferNodes registry ⟨.failFast, missing⟩ index (node :: rest) graph =
          { graph := after, notes := analysis.notes, result := .error (.node diagnostic) })

theorem exists_firstStep (registry : FrozenRegistry) (missing : MissingSchemaPolicy)
    (graph : Graph) (index : Nat) (node : Node) :
    ∃ analysis, FirstStep registry missing graph index node analysis := by
  let analysis := Analysis.analyzeNode registry ⟨.collectAll, missing⟩ .infer
    (ensureOutputs graph node) index node
  -- The analysis of a node does not look at the mode.
  have same (policy : ErrorPolicy) : Analysis.analyzeNode registry ⟨policy, missing⟩ .infer
      (ensureOutputs graph node) index node = analysis := rfl
  refine ⟨analysis, ?_⟩
  cases committed : Analysis.commitStaged (ensureOutputs graph node) node analysis.staged with
  | mk after ended =>
    cases ended with
    | error problem =>
      refine .refused after problem ?_ (fun policy rest => ?_) fun rest => ?_
      · cases staged : analysis.staged with
        | none => simp [staged, Analysis.commitStaged] at committed
        | some types => exact Analysis.diagnostics_of_staged staged
      · simp only [inferNodes, same, committed]
      · simp only [analyses, same, committed]
    | ok _ =>
      refine .written after (fun rest => ?_) (fun rest => ?_) (fun quiet rest => ?_)
        fun diagnostic first rest => ?_
      · simp only [inferNodes, same, committed, Analysis.enforce, preceded]
      · simp only [analyses, same, committed, Analysis.enforce]
      · simp only [inferNodes, same, committed, Analysis.enforce, quiet, preceded]
      · obtain ⟨others, listed⟩ := List.head?_eq_some_iff.mp first
        simp only [inferNodes, same, committed, Analysis.enforce, listed]

/-- A pass without diagnostics does not depend on whether it is to fail fast. -/
theorem inferNodes_quiet (registry : FrozenRegistry) (missing : MissingSchemaPolicy) (index : Nat)
    (quiet : ∀ analysis ∈ analyses registry ⟨.collectAll, missing⟩ index nodes graph,
      analysis.report.diagnostics = []) :
    inferNodes registry ⟨.failFast, missing⟩ index nodes graph =
      inferNodes registry ⟨.collectAll, missing⟩ index nodes graph := by
  induction nodes generalizing index graph with
  | nil => rfl
  | cons node rest ih =>
    obtain ⟨analysis, step⟩ := exists_firstStep registry missing graph index node
    cases step with
    | refused after problem _ ends => rw [ends, ends]
    | written after collects traced goesOn =>
      rw [traced, List.forall_mem_cons] at quiet
      rw [goesOn quiet.1, collects, ih (index + 1) quiet.2]

/-- A pass that is to fail fast stops at the first node with a diagnostic, and leaves the graph as
a pass over the nodes up to this one does. -/
theorem inferNodes_stops (registry : FrozenRegistry) (missing : MissingSchemaPolicy) (index : Nat)
    (first : FirstProblem ((analyses registry ⟨.collectAll, missing⟩ index nodes graph).map
      NodeAnalysis.report) place diagnostic) :
    let reached := inferNodes registry ⟨.collectAll, missing⟩ index (nodes.take (place + 1)) graph
    inferNodes registry ⟨.failFast, missing⟩ index nodes graph =
      { graph := reached.graph, notes := reached.notes, result := .error (.node diagnostic) } := by
  induction nodes generalizing index graph place with
  | nil => exact absurd first FirstProblem.not_nil
  | cons node rest ih =>
    obtain ⟨analysis, step⟩ := exists_firstStep registry missing graph index node
    cases step with
    | refused after problem quiet _ traced =>
      rw [traced, List.map_singleton] at first
      cases place with
      | zero =>
        have listed := FirstProblem.cons_zero_iff.mp first
        simp [quiet] at listed
      | succ place => exact absurd (FirstProblem.cons_succ_iff.mp first).2 FirstProblem.not_nil
    | written after collects traced goesOn stops =>
      rw [traced, List.map_cons] at first
      simp only [List.take_succ_cons, collects]
      cases place with
      | zero =>
        rw [stops diagnostic (FirstProblem.cons_zero_iff.mp first)]
        simp [preceded, inferNodes]
      | succ place =>
        obtain ⟨silent, firstLater⟩ := FirstProblem.cons_succ_iff.mp first
        rw [goesOn silent, ih (index + 1) firstLater]
        simp only [preceded, Except.map]

end ShapeInference

namespace Validation

/-- The first step of the check, in both modes. -/
structure FirstStep (registry : FrozenRegistry) (missing : MissingSchemaPolicy) (graph : Graph)
    (index : Nat) (node : Node) (report : NodeReport) : Prop where
  collects : ∀ rest, checkNodes registry ⟨.collectAll, missing⟩ graph index (node :: rest) =
    (checkNodes registry ⟨.collectAll, missing⟩ graph (index + 1) rest).map (report :: ·)
  goesOn : report.diagnostics = [] → ∀ rest,
    checkNodes registry ⟨.failFast, missing⟩ graph index (node :: rest) =
      (checkNodes registry ⟨.failFast, missing⟩ graph (index + 1) rest).map (report :: ·)
  stops : ∀ diagnostic, report.diagnostics.head? = some diagnostic → ∀ rest,
    checkNodes registry ⟨.failFast, missing⟩ graph index (node :: rest) =
      .error (.node diagnostic)

theorem exists_firstStep (registry : FrozenRegistry) (missing : MissingSchemaPolicy)
    (graph : Graph) (index : Nat) (node : Node) :
    ∃ report, FirstStep registry missing graph index node report := by
  let report :=
    (Analysis.analyzeNode registry ⟨.collectAll, missing⟩ .validate graph index node).report
  have same : (Analysis.analyzeNode registry ⟨.failFast, missing⟩ .validate graph index
    node).report = report := rfl
  refine ⟨report, fun rest => rfl, fun quiet rest => ?_, fun diagnostic first rest => ?_⟩
  · simp only [checkNodes, same, Analysis.enforce, quiet]
  · obtain ⟨others, listed⟩ := List.head?_eq_some_iff.mp first
    simp only [checkNodes, same, Analysis.enforce, listed]

theorem checkNodes_quiet (registry : FrozenRegistry) (missing : MissingSchemaPolicy)
    (graph : Graph) (index : Nat)
    (done : checkNodes registry ⟨.collectAll, missing⟩ graph index nodes = .ok entries)
    (quiet : ∀ entry ∈ entries, entry.diagnostics = []) :
    checkNodes registry ⟨.failFast, missing⟩ graph index nodes = .ok entries := by
  induction nodes generalizing index entries with
  | nil => exact done
  | cons node rest ih =>
    obtain ⟨report, step⟩ := exists_firstStep registry missing graph index node
    rw [step.collects] at done
    obtain ⟨later, ended, rfl⟩ := exists_of_map_eq_ok done
    rw [List.forall_mem_cons] at quiet
    rw [step.goesOn quiet.1, ih (index + 1) ended quiet.2, Except.map]

theorem checkNodes_stops (registry : FrozenRegistry) (missing : MissingSchemaPolicy)
    (graph : Graph) (index : Nat)
    (done : checkNodes registry ⟨.collectAll, missing⟩ graph index nodes = .ok entries)
    (first : FirstProblem entries place diagnostic) :
    checkNodes registry ⟨.failFast, missing⟩ graph index nodes = .error (.node diagnostic) := by
  induction nodes generalizing index entries place with
  | nil =>
    cases done
    exact absurd first FirstProblem.not_nil
  | cons node rest ih =>
    obtain ⟨report, step⟩ := exists_firstStep registry missing graph index node
    rw [step.collects] at done
    obtain ⟨later, ended, rfl⟩ := exists_of_map_eq_ok done
    cases place with
    | zero => exact step.stops diagnostic (FirstProblem.cons_zero_iff.mp first) rest
    | succ place =>
      obtain ⟨silent, firstLater⟩ := FirstProblem.cons_succ_iff.mp first
      rw [step.goesOn silent, ih (index + 1) ended firstLater, Except.map]

end Validation

/-- How a pass that fails fast stands to the same pass when it collects all diagnostics. -/
structure StopsAtFirst (pass : ErrorPolicy → Graph → GraphRun PassReport) (graph : Graph) :
    Prop where
  /-- An invalid graph is refused in both modes, and left as it is. -/
  invalid : ∀ problem, graph.validate = .error problem → ∀ policy,
    pass policy graph = { graph, result := .error (.graph problem) }
  /-- A pass that collects reports on every valid graph. -/
  collects : graph.validate = .ok () → ∃ report, (pass .collectAll graph).result = .ok report
  /-- Without diagnostics the modes do not differ. -/
  clean : ∀ report, (pass .collectAll graph).result = .ok report → report.diagnostics = [] →
    pass .failFast graph = pass .collectAll graph
  /-- Otherwise the pass stops at the first node with a diagnostic, and returns the first of all
  diagnostics. It leaves the graph as it would if it collected and no later node were listed. -/
  stops : ∀ report, (pass .collectAll graph).result = .ok report → report.diagnostics ≠ [] →
    ∃ place diagnostic, FirstProblem report.nodes place diagnostic ∧
      report.diagnostics.head? = some diagnostic ∧
      let reached := pass .collectAll (graph.withNodes (graph.nodes.take (place + 1)))
      pass .failFast graph =
        { graph := reached.graph.withNodes graph.nodes
          notes := reached.notes
          result := .error (.node diagnostic) }

/-- What a pass does when it fails fast, given the entries that it makes when it collects. -/
structure FailsFast (pass : ErrorPolicy → Graph → GraphRun PassReport) (graph : Graph)
    (entries : List NodeReport) : Prop where
  quiet : (∀ entry ∈ entries, entry.diagnostics = []) →
    pass .failFast graph = pass .collectAll graph
  stops : ∀ place diagnostic, FirstProblem entries place diagnostic →
    let reached := pass .collectAll (graph.withNodes (graph.nodes.take (place + 1)))
    pass .failFast graph =
      { graph := reached.graph.withNodes graph.nodes
        notes := reached.notes
        result := .error (.node diagnostic) }

/-- A pass that reports all its entries fails fast at the first problem of its report. -/
theorem FailsFast.stopsAtFirst {pass : AnalysisOptions → Pass}
    (fast : FailsFast (fun policy => (pass ⟨policy, missing⟩).run registry) graph entries)
    (judges : Judges pass registry graph)
    (reported : ∀ report, ((pass ⟨.collectAll, missing⟩).run registry graph).result = .ok report →
      report.nodes = entries) :
    StopsAtFirst (fun policy => (pass ⟨policy, missing⟩).run registry) graph where
  invalid problem invalid policy := judges.refuses problem invalid ⟨policy, missing⟩
  collects := (judges.accepts missing).mpr
  clean report done clean := by
    rw [PassReport.diagnostics, reported report done] at clean
    exact fast.quiet (List.flatMap_eq_nil_iff.mp clean)
  stops report done present := by
    obtain ⟨place, diagnostic, first, head⟩ := FirstProblem.exists_of_diagnostics present
    have firstEntry := reported report done ▸ first
    exact ⟨place, diagnostic, first, head, fast.stops place diagnostic firstEntry⟩

namespace ShapeInference

theorem run_failsFast (registry : FrozenRegistry) (missing : MissingSchemaPolicy) (graph : Graph) :
    FailsFast (fun policy => (Pass.shapeInference ⟨policy, missing⟩).run registry) graph
      ((analyzed ⟨.collectAll, missing⟩ registry graph).map NodeAnalysis.report) := by
  cases valid : graph.validate with
  | error problem =>
    simp only [analyzed, valid, List.map_nil]
    exact ⟨fun _ => by simp only [Pass.shapeInference, run, valid],
      fun _ _ first => absurd first FirstProblem.not_nil⟩
  | ok _ =>
    simp only [analyzed, valid]
    constructor
    case quiet =>
      intro quiet
      rw [List.forall_mem_map] at quiet
      simp only [Pass.shapeInference, run_of_valid valid, inferNodes_quiet registry missing 0 quiet]
    case stops =>
      intro place diagnostic first
      let part := graph.nodes.take (place + 1)
      let stopped := inferNodes registry ⟨.collectAll, missing⟩ 0 part graph
      have kept : stopped.graph.nodes = graph.nodes := nodes_inferNodes registry _ 0 part graph
      have reached : run ⟨.collectAll, missing⟩ registry (graph.withNodes part) =
          { graph := stopped.graph.withNodes part
            notes := stopped.notes
            result := stopped.result.map (⟨"shape_inference", ·⟩) } := by
        rw [run_of_valid (validate_take valid (place + 1))]
        exact congrArg (fun ran : GraphRun (List NodeReport) => GraphRun.mk ran.graph ran.notes
          (ran.result.map (PassReport.mk "shape_inference" ·)))
            (inferNodes_withNodes registry ⟨.collectAll, missing⟩ 0 part graph part)
      have halted : run ⟨.failFast, missing⟩ registry graph =
          { graph := stopped.graph
            notes := stopped.notes
            result := .error (.node diagnostic) } := by
        rw [run_of_valid valid, inferNodes_stops registry missing 0 first]
        rfl
      simp only [Pass.shapeInference, halted, part, reached, withNodes_withNodes kept]

theorem nodes_eq_of_run {options : AnalysisOptions} {report : PassReport}
    (done : (run options registry graph).result = .ok report) :
    report.nodes = (analyzed options registry graph).map NodeAnalysis.report := by
  obtain ⟨valid, ended⟩ := inferNodes_of_run done
  simp only [analyzed, valid]
  exact (reports_eq ended).1

theorem run_stopsAtFirst (indexed : graph.Indexed) (registry : FrozenRegistry)
    (missing : MissingSchemaPolicy) :
    StopsAtFirst (fun policy => (Pass.shapeInference ⟨policy, missing⟩).run registry) graph :=
  (run_failsFast registry missing graph).stopsAtFirst (run_judges indexed registry)
    fun _ => nodes_eq_of_run

end ShapeInference

namespace Validation

/-- The entries that a check makes if it collects. An invalid graph is not checked. -/
def checked (missing : MissingSchemaPolicy) (registry : FrozenRegistry) (graph : Graph) :
    List NodeReport :=
  match graph.validate with
  | .error _ => []
  | .ok () => graph.nodes.mapIdx fun i node =>
    (Analysis.analyzeNode registry ⟨.collectAll, missing⟩ .validate graph i node).report

theorem nodes_eq_of_check {report : PassReport}
    (done : check ⟨.collectAll, missing⟩ registry graph = .ok report) :
    report.nodes = checked missing registry graph := by
  obtain ⟨valid, _⟩ := checkNodes_of_check done
  rw [check_collects rfl registry valid, Except.ok.injEq] at done
  simp only [checked, valid, ← done]

theorem check_failsFast (registry : FrozenRegistry) (missing : MissingSchemaPolicy)
    (graph : Graph) :
    FailsFast (fun policy => (Pass.validation ⟨policy, missing⟩).run registry) graph
      (checked missing registry graph) := by
  cases valid : graph.validate with
  | error problem =>
    simp only [checked, valid]
    exact ⟨fun _ => by simp only [Pass.validation, check, valid],
      fun _ _ first => absurd first FirstProblem.not_nil⟩
  | ok _ =>
    have collect : (AnalysisOptions.mk .collectAll missing).errorPolicy = .collectAll := rfl
    obtain ⟨_, ended⟩ := checkNodes_of_check (check_collects collect registry valid)
    simp only [checked, valid]
    constructor
    case quiet =>
      intro quiet
      have passed := checkNodes_quiet registry missing graph 0 ended quiet
      simp only [Pass.validation, check_of_valid valid, passed, ended]
    case stops =>
      intro place diagnostic first
      have halted := checkNodes_stops registry missing graph 0 ended first
      simp only [Pass.validation, check_of_valid valid, halted, Except.map]
      rfl

theorem check_stopsAtFirst (registry : FrozenRegistry) (missing : MissingSchemaPolicy)
    (graph : Graph) :
    StopsAtFirst (fun policy => (Pass.validation ⟨policy, missing⟩).run registry) graph :=
  (check_failsFast registry missing graph).stopsAtFirst (check_judges registry graph)
    fun _ => nodes_eq_of_check

end Validation

/-- Both passes agree with themselves in the two modes, up to the first diagnostic. -/
theorem failFast_stopsAtFirst (built : Built graph) (registry : FrozenRegistry)
    (missing : MissingSchemaPolicy) :
    StopsAtFirst (fun policy => (Pass.shapeInference ⟨policy, missing⟩).run registry) graph ∧
      StopsAtFirst (fun policy => (Pass.validation ⟨policy, missing⟩).run registry) graph :=
  ⟨ShapeInference.run_stopsAtFirst built.indexed registry missing,
    Validation.check_stopsAtFirst registry missing graph⟩

/-- The second node has operands of two element types, and a node without problems follows it. -/
def clashThenScale : Graph :=
  let start := (GraphOf.empty.importOpset "" 1).addInput ⟨"x", { elementType := some .float32 }⟩
  let gates := start.1.addInput ⟨"gates", { elementType := some .float64 }⟩
  let first := gates.1.addNode
    { opType := "ThresholdedRelu", inputs := ["x"], outputs := ["hidden"] }
  let second := first.1.addNode
    { opType := "GRUUnit", inputs := ["hidden", "gates", "gates", "gates"], outputs := ["next"] }
  (second.1.addNode { opType := "Scale", inputs := ["x"], outputs := ["late"] }).1

/-- A run that fails fast describes the output of the second node, whose problem it returns, and
not the output of the third. -/
theorem failFast_stopsAtFirst_clashThenScale :
    ∃ diagnostic, (ShapeInference.run ⟨.failFast, .error⟩ .experimental clashThenScale).result =
        .error (.node diagnostic) ∧
      let final := (ShapeInference.run ⟨.failFast, .error⟩ .experimental clashThenScale).graph
      final.tensors.contains "next" = true ∧ final.tensors.contains "late" = false := by
  have built : Built clashThenScale :=
    .addNode (.addNode (.addNode (.addInput (.addInput (.importOpset .empty _ _) _) _) _) _) _
  obtain ⟨inference, _⟩ := failFast_stopsAtFirst built .experimental .error
  obtain ⟨report, done⟩ := inference.collects (by decide)
  have counted : (ShapeInference.run ⟨.collectAll, .error⟩ .experimental clashThenScale).result.map
      (fun report => (report.nodes.map fun entry => entry.diagnostics.length, report.isClean)) =
        .ok ([0, 1, 0], false) := by cbv
  have described : (let part := clashThenScale.withNodes (clashThenScale.nodes.take 2)
      let reached := (ShapeInference.run ⟨.collectAll, .error⟩ .experimental part).graph
      (reached.tensors.contains "next", reached.tensors.contains "late")) = (true, false) := by
    cbv
  have counts : report.nodes.map (fun entry => entry.diagnostics.length) = [0, 1, 0] ∧
      report.isClean = false := by
    change (ShapeInference.run ⟨.collectAll, .error⟩ .experimental clashThenScale).result =
      _ at done
    simpa only [done, Except.map, Except.ok.injEq, Prod.mk.injEq] using counted
  have present : report.diagnostics ≠ [] := by
    simpa [PassReport.isClean] using counts.2
  obtain ⟨place, diagnostic, ⟨⟨entry, listed, first⟩, _⟩, _, stopped⟩ :=
    inference.stops report done present
  have second : place = 1 := by
    have here := congrArg (·[place]?) counts.1
    rw [List.getElem?_map, listed] at here
    obtain ⟨others, nonempty⟩ := List.head?_eq_some_iff.mp first
    obtain _ | _ | _ | place := place
    · simp [nonempty] at here
    · rfl
    · simp [nonempty] at here
    · simp at here
  subst second
  obtain ⟨written, unwritten⟩ := Prod.ext_iff.mp described
  have reached := congrArg (fun ran : GraphRun PassReport => ran.graph.tensors) stopped
  have contained (name : String) := congrArg (NameMap.contains · name) reached
  exact ⟨diagnostic, congrArg GraphRun.result stopped,
    (contained "next").trans written, (contained "late").trans unwritten⟩

end ShapeFlow
