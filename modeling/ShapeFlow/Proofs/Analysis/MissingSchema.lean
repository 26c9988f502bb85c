import ShapeFlow.Proofs.Analysis.FailFast

/-!
Nodes without a schema. Whether such nodes are problems shows in their entries and nowhere else:
nothing is written for them in either case, so every other node is analyzed in the same graph. A
pass that puts up with them and fails fast stops at the first node that has a schema and a
diagnostic.
-/

namespace ShapeFlow

open GraphOf

variable {registry : FrozenRegistry} {graph : Graph} {node : Node} {nodes : List Node}
  {index place : Nat} {policy : ErrorPolicy} {depth : Depth} {entry : NodeReport}
  {entries : List NodeReport} {diagnostic : Diagnostic}

/-- The entry that a node gets when the lack of a schema is no problem. -/
def NodeReport.tolerated (report : NodeReport) : NodeReport :=
  if report.state = .unresolved then { report with diagnostics := [] } else report

def NodeAnalysis.tolerated (analysis : NodeAnalysis) : NodeAnalysis :=
  { analysis with report := analysis.report.tolerated }

def PassReport.tolerated (report : PassReport) : PassReport :=
  { report with nodes := report.nodes.map NodeReport.tolerated }

/-- The first entry is of a pass for which the lack of a schema is a problem, and the second is
that of the same node in a pass for which it is none. -/
structure NodeReport.Tolerates (strict tolerant : NodeReport) : Prop where
  node : tolerant.node = strict.node
  op : tolerant.op = strict.op
  state : tolerant.state = strict.state
  resolved : strict.state ≠ .unresolved → tolerant.diagnostics = strict.diagnostics
  unresolved : strict.state = .unresolved →
    tolerant.diagnostics = [] ∧ ∃ diagnostic, strict.diagnostics = [diagnostic]

/-- The first entry of a node with a schema that has diagnostics stands at a place, and a diagnostic
is the first of it. -/
structure FirstResolvedProblem (entries : List NodeReport) (place : Nat) (diagnostic : Diagnostic) :
    Prop where
  found : ∃ entry, entries[place]? = some entry ∧ entry.state ≠ .unresolved ∧
    entry.diagnostics.head? = some diagnostic
  earlier : ∀ (before : Nat) (entry : NodeReport), before < place →
    entries[before]? = some entry → entry.state = .unresolved ∨ entry.diagnostics = []

/-- How a pass that puts up with the lack of a schema stands to the same pass if that is a problem
for it, given the entries that the latter makes. -/
structure OnlyReports (pass : AnalysisOptions → Graph → GraphRun PassReport) (graph : Graph)
    (entries : List NodeReport) : Prop where
  written : (pass ⟨.collectAll, .skip⟩ graph).graph = (pass ⟨.collectAll, .error⟩ graph).graph
  notes : (pass ⟨.collectAll, .skip⟩ graph).notes = (pass ⟨.collectAll, .error⟩ graph).notes
  /-- Both report, or both end with the same error. -/
  outcome : (pass ⟨.collectAll, .skip⟩ graph).result.map (fun _ => ()) =
    (pass ⟨.collectAll, .error⟩ graph).result.map fun _ => ()
  /-- The reports differ in the entries of the nodes without a schema, and there in the diagnostics
  alone. -/
  reports : ∀ strict tolerant, (pass ⟨.collectAll, .error⟩ graph).result = .ok strict →
    (pass ⟨.collectAll, .skip⟩ graph).result = .ok tolerant →
      strict.nodes = entries ∧ tolerant.pass = strict.pass ∧
        List.Forall₂ NodeReport.Tolerates strict.nodes tolerant.nodes
  /-- If it fails fast, it aborts for the first problem of a node with a schema and for nothing
  else. -/
  aborts : ∀ diagnostic, (pass ⟨.failFast, .skip⟩ graph).result = .error (.node diagnostic) ↔
    ∃ place, FirstResolvedProblem entries place diagnostic
  /-- It aborts at the node that has this problem. -/
  stops : ∀ place diagnostic, FirstResolvedProblem entries place diagnostic →
    let reached := pass ⟨.collectAll, .skip⟩ (graph.withNodes (graph.nodes.take (place + 1)))
    pass ⟨.failFast, .skip⟩ graph =
      { graph := reached.graph.withNodes graph.nodes
        notes := reached.notes
        result := .error (.node diagnostic) }
  completes : (∀ place diagnostic, ¬FirstResolvedProblem entries place diagnostic) →
    pass ⟨.failFast, .skip⟩ graph = pass ⟨.collectAll, .skip⟩ graph

theorem NodeReport.diagnostics_tolerated_eq_nil_iff :
    entry.tolerated.diagnostics = [] ↔ entry.state = .unresolved ∨ entry.diagnostics = [] := by
  unfold tolerated
  split
  · rename_i unresolved
    simp [unresolved]
  · rename_i resolved
    simp [resolved]

theorem NodeReport.head?_tolerated_iff :
    entry.tolerated.diagnostics.head? = some diagnostic ↔
      entry.state ≠ .unresolved ∧ entry.diagnostics.head? = some diagnostic := by
  unfold tolerated
  split
  · rename_i unresolved
    simp [unresolved]
  · rename_i resolved
    simp [resolved]

theorem firstProblem_tolerated_iff :
    FirstProblem (entries.map NodeReport.tolerated) place diagnostic ↔
      FirstResolvedProblem entries place diagnostic := by
  have listed (place : Nat) {holds : NodeReport → Prop} :
      (∃ entry, (entries.map NodeReport.tolerated)[place]? = some entry ∧ holds entry) ↔
        ∃ entry, entries[place]? = some entry ∧ holds entry.tolerated := by
    simp
  constructor
  · rintro ⟨found, quiet⟩
    obtain ⟨entry, present, first⟩ := (listed place).mp found
    refine ⟨⟨entry, present, NodeReport.head?_tolerated_iff.mp first⟩, ?_⟩
    intro before entry earlier present
    have silent := quiet before entry.tolerated earlier (by rw [List.getElem?_map, present]; rfl)
    exact NodeReport.diagnostics_tolerated_eq_nil_iff.mp silent
  · rintro ⟨⟨entry, present, first⟩, earlier⟩
    refine ⟨(listed place).mpr ⟨entry, present, NodeReport.head?_tolerated_iff.mpr first⟩, ?_⟩
    intro before other previous present
    rw [List.getElem?_map, Option.map_eq_some_iff] at present
    obtain ⟨entry, present, rfl⟩ := present
    exact NodeReport.diagnostics_tolerated_eq_nil_iff.mpr (earlier before entry previous present)

/-- A pass that writes the same with either policy, and drops the diagnostics of the nodes without
a schema, differs in its reports only. -/
theorem onlyReports_of_tolerated {pass : AnalysisOptions → Graph → GraphRun PassReport}
    (same : pass ⟨.collectAll, .skip⟩ graph = { pass ⟨.collectAll, .error⟩ graph with
      result := (pass ⟨.collectAll, .error⟩ graph).result.map PassReport.tolerated })
    (reported : ∀ report, (pass ⟨.collectAll, .error⟩ graph).result = .ok report →
      report.nodes = entries)
    (tolerates : ∀ entry ∈ entries, entry.Tolerates entry.tolerated)
    (fast : FailsFast (fun policy => pass ⟨policy, .skip⟩) graph
      (entries.map NodeReport.tolerated))
    (structural : ∀ diagnostic,
      (pass ⟨.collectAll, .skip⟩ graph).result ≠ .error (.node diagnostic)) :
    OnlyReports pass graph entries := by
  have stops (place : Nat) (diagnostic : Diagnostic)
      (first : FirstResolvedProblem entries place diagnostic) :=
    fast.stops place diagnostic (firstProblem_tolerated_iff.mpr first)
  have completes (none : ∀ place diagnostic, ¬FirstResolvedProblem entries place diagnostic) :
      pass ⟨.failFast, .skip⟩ graph = pass ⟨.collectAll, .skip⟩ graph := by
    refine fast.quiet (List.flatMap_eq_nil_iff.mp ?_)
    by_contra present
    obtain ⟨place, diagnostic, first, _⟩ := FirstProblem.exists_of_diagnostics present
    exact none place diagnostic (firstProblem_tolerated_iff.mp first)
  constructor
  case written => rw [same]
  case notes => rw [same]
  case outcome =>
    rw [same]
    cases (pass ⟨.collectAll, .error⟩ graph).result <;> rfl
  case reports =>
    intro strict tolerant done doneSkip
    rw [same, done] at doneSkip
    cases doneSkip
    have listed := reported strict done
    refine ⟨listed, rfl, List.forall₂_map_right_iff.mpr (List.forall₂_same.mpr ?_)⟩
    rwa [listed]
  case aborts =>
    intro diagnostic
    constructor
    · intro stopped
      by_cases found : ∃ place other, FirstResolvedProblem entries place other
      · obtain ⟨place, other, first⟩ := found
        have ended := congrArg GraphRun.result (stops place other first)
        rw [stopped] at ended
        cases ended
        exact ⟨place, first⟩
      · have none : ∀ place other, ¬FirstResolvedProblem entries place other :=
          fun place other first => found ⟨place, other, first⟩
        rw [completes none] at stopped
        exact absurd stopped (structural diagnostic)
    · rintro ⟨place, first⟩
      exact congrArg GraphRun.result (stops place diagnostic first)
  case stops => exact stops
  case completes => exact completes

namespace Analysis

/-- The policy shows in the entry of a node alone. -/
theorem analyzeNode_skip (registry : FrozenRegistry) (policy : ErrorPolicy) (depth : Depth)
    (graph : Graph) (index : Nat) (node : Node) :
    analyzeNode registry ⟨policy, .skip⟩ depth graph index node =
      (analyzeNode registry ⟨policy, .error⟩ depth graph index node).tolerated := by
  cases resolved : resolveSchema registry graph node with
  | error problem =>
    simp [analyzeNode, resolved, NodeAnalysis.tolerated, NodeReport.tolerated, nodeReport]
  | ok schema =>
    have further : (analyzeNode registry ⟨policy, .error⟩ depth graph index node).report.state ≠
        .unresolved := by
      intro unresolved
      have coherent := coherent_analyzeNode registry ⟨policy, .error⟩ depth graph index node
      have covered := (coherent.resolved schema.id).mpr
        ⟨schema, resolveSchema_eq_ok_iff.mp resolved, rfl⟩
      rw [coherent.unresolved.mpr unresolved] at covered
      cases covered
    rw [NodeAnalysis.tolerated, NodeReport.tolerated, if_neg further]
    simp only [analyzeNode, resolved]

theorem tolerates_analyzeNode (registry : FrozenRegistry) (policy : ErrorPolicy) (depth : Depth)
    (graph : Graph) (index : Nat) (node : Node) :
    let report := (analyzeNode registry ⟨policy, .error⟩ depth graph index node).report
    report.Tolerates report.tolerated := by
  intro report
  have coherent : report.Coherent registry .error graph index node :=
    coherent_analyzeNode registry ⟨policy, .error⟩ depth graph index node
  by_cases unresolved : report.state = .unresolved
  · rw [NodeReport.tolerated, if_pos unresolved]
    exact ⟨rfl, rfl, rfl, absurd unresolved,
      fun _ => ⟨rfl, coherent.diagnostics_of_unresolved unresolved⟩⟩
  · rw [NodeReport.tolerated, if_neg unresolved]
    exact ⟨rfl, rfl, rfl, fun _ => rfl, fun impossible => absurd impossible unresolved⟩

end Analysis

namespace ShapeInference

theorem analyses_skip (registry : FrozenRegistry) (index : Nat) (nodes : List Node)
    (graph : Graph) :
    analyses registry ⟨.collectAll, .skip⟩ index nodes graph =
      (analyses registry ⟨.collectAll, .error⟩ index nodes graph).map NodeAnalysis.tolerated := by
  induction nodes generalizing index graph with
  | nil => rfl
  | cons node rest ih =>
    simp only [analyses, Analysis.analyzeNode_skip, Analysis.enforce, NodeAnalysis.tolerated]
    split
    · rfl
    · rw [List.map_cons, ih]
      rfl

/-- A pass that collects writes the same with either policy, and ends the same. -/
theorem inferNodes_skip (registry : FrozenRegistry) (index : Nat) (nodes : List Node)
    (graph : Graph) :
    inferNodes registry ⟨.collectAll, .skip⟩ index nodes graph =
      { inferNodes registry ⟨.collectAll, .error⟩ index nodes graph with
        result := (inferNodes registry ⟨.collectAll, .error⟩ index nodes graph).result.map
          (List.map NodeReport.tolerated) } := by
  induction nodes generalizing index graph with
  | nil => rfl
  | cons node rest ih =>
    simp only [inferNodes, Analysis.analyzeNode_skip, Analysis.enforce, NodeAnalysis.tolerated]
    split
    · rfl
    · simp only [ih]
      cases (inferNodes registry ⟨.collectAll, .error⟩ (index + 1) rest _).result <;> rfl

/-- A pass that collects has no other complaint than that types cannot be written. -/
theorem inferNodes_collecting_error {options : AnalysisOptions} {problem : PassError}
    (collect : options.errorPolicy = .collectAll)
    (failed : (inferNodes registry options index nodes graph).result = .error problem) :
    ∃ invalid, problem = .graph invalid := by
  induction nodes generalizing index graph with
  | nil => cases failed
  | cons node rest ih =>
    simp only [inferNodes, Analysis.enforce, collect] at failed
    split at failed
    · cases failed
      exact ⟨_, rfl⟩
    · exact ih (eq_error_of_map failed)

theorem forall_mem_analyses {options : AnalysisOptions} {holds : NodeAnalysis → Prop}
    (each : ∀ (graph : Graph) (index : Nat) (node : Node),
      holds (Analysis.analyzeNode registry options .infer graph index node)) :
    ∀ analysis ∈ analyses registry options index nodes graph, holds analysis := by
  induction nodes generalizing index graph with
  | nil => simp [analyses]
  | cons node rest ih =>
    have first := each (ensureOutputs graph node) index node
    rw [analyses]
    split
    · simpa using first
    · split
      · simpa using first
      · exact List.forall_mem_cons.mpr ⟨first, ih⟩

theorem run_onlyReports (registry : FrozenRegistry) (graph : Graph) :
    OnlyReports (fun options => (Pass.shapeInference options).run registry) graph
      ((analyzed ⟨.collectAll, .error⟩ registry graph).map NodeAnalysis.report) := by
  have fast := run_failsFast registry .skip graph
  have collect : (AnalysisOptions.mk .collectAll .skip).errorPolicy = .collectAll := rfl
  refine onlyReports_of_tolerated ?same (fun _ => nodes_eq_of_run) ?tolerates ?fast ?structural
  case same =>
    simp only [Pass.shapeInference]
    cases valid : graph.validate with
    | error problem => simp only [run, valid, Except.map]
    | ok _ =>
      rw [run_of_valid valid, run_of_valid valid, inferNodes_skip]
      cases (inferNodes registry ⟨.collectAll, .error⟩ 0 graph.nodes graph).result <;> rfl
  case tolerates =>
    cases valid : graph.validate with
    | error problem => simp [analyzed, valid]
    | ok _ =>
      simp only [analyzed, valid, List.forall_mem_map]
      exact forall_mem_analyses (Analysis.tolerates_analyzeNode registry .collectAll .infer)
  case fast =>
    have entries : (analyzed ⟨.collectAll, .skip⟩ registry graph).map NodeAnalysis.report =
        ((analyzed ⟨.collectAll, .error⟩ registry graph).map NodeAnalysis.report).map
          NodeReport.tolerated := by
      cases valid : graph.validate with
      | error problem => simp only [analyzed, valid, List.map_nil]
      | ok _ =>
        simp only [analyzed, valid, analyses_skip, List.map_map]
        rfl
    rwa [entries] at fast
  case structural =>
    intro diagnostic stopped
    simp only [Pass.shapeInference] at stopped
    cases valid : graph.validate with
    | error problem => simp [run, valid] at stopped
    | ok _ =>
      rw [run_of_valid valid] at stopped
      obtain ⟨_, impossible⟩ := inferNodes_collecting_error collect (eq_error_of_map stopped)
      cases impossible

end ShapeInference

namespace Validation

theorem check_onlyReports (registry : FrozenRegistry) (graph : Graph) :
    OnlyReports (fun options => (Pass.validation options).run registry) graph
      (checked .error registry graph) := by
  have fast := check_failsFast registry .skip graph
  have collect : (AnalysisOptions.mk .collectAll .skip).errorPolicy = .collectAll := rfl
  have entries : checked .skip registry graph =
      (checked .error registry graph).map NodeReport.tolerated := by
    cases valid : graph.validate with
    | error problem => simp only [checked, valid, List.map_nil]
    | ok _ =>
      simp only [checked, valid, List.mapIdx_eq_zipIdx_map, List.map_map, Analysis.analyzeNode_skip]
      rfl
  refine onlyReports_of_tolerated ?same (fun _ => nodes_eq_of_check) ?tolerates ?fast ?structural
  case same =>
    simp only [Pass.validation]
    cases valid : graph.validate with
    | error problem => simp only [check, valid, Except.map]
    | ok _ =>
      simp only [checked, valid] at entries
      rw [check_collects collect registry valid, check_collects rfl registry valid, entries]
      rfl
  case tolerates =>
    cases valid : graph.validate with
    | error problem => simp [checked, valid]
    | ok _ =>
      simp only [checked, valid]
      intro entry member
      obtain ⟨i, bound, rfl⟩ := List.mem_mapIdx.mp member
      exact Analysis.tolerates_analyzeNode registry .collectAll .validate graph i _
  case fast => rwa [entries] at fast
  case structural =>
    intro diagnostic stopped
    simp only [Pass.validation] at stopped
    cases valid : graph.validate with
    | error problem => simp [check, valid] at stopped
    | ok _ =>
      rw [check_collects collect registry valid] at stopped
      cases stopped

end Validation

/-- On whatever graph, whether nodes without a schema are problems changes nothing in what either
pass writes or how it ends, and shows in their entries alone. -/
theorem missingSchema_onlyReports (registry : FrozenRegistry) (graph : Graph) :
    OnlyReports (fun options => (Pass.shapeInference options).run registry) graph
        ((ShapeInference.analyzed ⟨.collectAll, .error⟩ registry graph).map NodeAnalysis.report) ∧
      OnlyReports (fun options => (Pass.validation options).run registry) graph
        (Validation.checked .error registry graph) :=
  ⟨ShapeInference.run_onlyReports registry graph, Validation.check_onlyReports registry graph⟩

end ShapeFlow
