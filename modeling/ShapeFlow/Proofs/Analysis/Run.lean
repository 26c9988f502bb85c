import ShapeFlow.Proofs.Analysis.Step

/-!
Runs of the shape inference pass. A run is traced by the analyses that it makes, which are known
also when the pass stops early. What the run writes is what those analyses staged.
-/

namespace ShapeFlow.ShapeInference

open GraphOf

variable {registry : FrozenRegistry} {options : AnalysisOptions} {index : Nat} {graph : Graph}
  {nodes : List Node} {node : Node} {name : String} {analysis : NodeAnalysis}

/-- The analyses that a pass over nodes makes, up to the one at which it stops. -/
def analyses (registry : FrozenRegistry) (options : AnalysisOptions) :
    Nat → List Node → Graph → List NodeAnalysis
  | _, [], _ => []
  | index, node :: rest, graph =>
    let prepared := ensureOutputs graph node
    let analysis := Analysis.analyzeNode registry options .infer prepared index node
    match Analysis.commitStaged prepared node analysis.staged with
    | (_, .error _) => [analysis]
    | (committed, .ok ()) =>
      match Analysis.enforce options analysis.report with
      | .error _ => [analysis]
      | .ok () => analysis :: analyses registry options (index + 1) rest committed

/-- A pass over a node and the nodes after it either stops at the node, because it has a
diagnostic, or goes on from the graph that the node leaves behind. -/
theorem pass_cons (indexed : graph.Indexed) (registry : FrozenRegistry)
    (options : AnalysisOptions) (index : Nat) (node : Node) (rest : List Node) :
    ∃ analysis, analysis = Analysis.analyzeNode registry options .infer graph index node ∧
      (advance graph node analysis.staged).Indexed ∧
      Frame graph (advance graph node analysis.staged) (written node analysis.staged) ∧
      ((∃ diagnostic, options.errorPolicy = .failFast ∧
          analysis.report.diagnostics.head? = some diagnostic ∧
          inferNodes registry options index (node :: rest) graph =
            { graph := advance graph node analysis.staged
              notes := analysis.notes
              result := .error (.node diagnostic) } ∧
          analyses registry options index (node :: rest) graph = [analysis]) ∨
        ((options.errorPolicy = .failFast → analysis.report.diagnostics = []) ∧
          (let later := inferNodes registry options (index + 1) rest
            (advance graph node analysis.staged)
          inferNodes registry options index (node :: rest) graph =
            { graph := later.graph
              notes := analysis.notes ++ later.notes
              result := later.result.map (analysis.report :: ·) }) ∧
          analyses registry options index (node :: rest) graph =
            analysis :: analyses registry options (index + 1) rest
              (advance graph node analysis.staged))) := by
  have same : Analysis.analyzeNode registry options .infer (ensureOutputs graph node) index node =
      Analysis.analyzeNode registry options .infer graph index node :=
    Analysis.analyzeNode_congr (agree_ensureOutputs graph node node)
  have sized : ∀ types ∈ (Analysis.analyzeNode registry options .infer graph index node).staged,
      types.length = node.outputs.length := fun _ done => Analysis.length_staged done
  obtain ⟨committed, valid, frame⟩ := advance_ok indexed sized
  refine ⟨_, rfl, valid, frame, ?_⟩
  rw [inferNodes, analyses]
  simp only [same, committed]
  generalize Analysis.analyzeNode registry options .infer graph index node = analysis
  cases listed : analysis.report.diagnostics with
  | nil =>
    right
    cases options.errorPolicy <;> simp [Analysis.enforce, listed]
  | cons diagnostic others =>
    cases policy : options.errorPolicy <;> simp [Analysis.enforce, listed, policy]

/-- The names that a run writes: the present outputs of the nodes with staged types. -/
def writtenBy (nodes : List Node) (analyses : List NodeAnalysis) : Set String :=
  {name | ∃ (i : Nat) (node : Node) (analysis : NodeAnalysis), nodes[i]? = some node ∧
    analyses[i]? = some analysis ∧ name ∈ written node analysis.staged}

private theorem written_subset_head (node : Node) (analysis : NodeAnalysis) (rest : List Node)
    (others : List NodeAnalysis) :
    written node analysis.staged ⊆ writtenBy (node :: rest) (analysis :: others) :=
  fun _ member => ⟨0, node, analysis, rfl, rfl, member⟩

private theorem writtenBy_subset_tail (node : Node) (analysis : NodeAnalysis) (rest : List Node)
    (others : List NodeAnalysis) :
    writtenBy rest others ⊆ writtenBy (node :: rest) (analysis :: others) := by
  rintro name ⟨i, other, found, listed, analyzed, member⟩
  exact ⟨i + 1, other, found, listed, analyzed, member⟩

/-- A pass over nodes keeps the table in order and writes what its analyses staged. -/
theorem inferNodes_frame (indexed : graph.Indexed) (registry : FrozenRegistry)
    (options : AnalysisOptions) (index : Nat) (nodes : List Node) :
    (inferNodes registry options index nodes graph).graph.Indexed ∧
      Frame graph (inferNodes registry options index nodes graph).graph
        (writtenBy nodes (analyses registry options index nodes graph)) := by
  induction nodes generalizing index graph with
  | nil => exact ⟨indexed, Frame.refl graph _⟩
  | cons node rest ih =>
    obtain ⟨analysis, _, valid, step, stops | goes⟩ :=
      pass_cons indexed registry options index node rest
    · obtain ⟨_, _, _, ran, traced⟩ := stops
      rw [ran, traced]
      exact ⟨valid, step.mono (written_subset_head ..)⟩
    · obtain ⟨_, ran, traced⟩ := goes
      obtain ⟨final, later⟩ := ih valid (index + 1)
      rw [ran, traced]
      refine ⟨final, (step.trans later).mono (Set.union_subset ?_ ?_)⟩
      · exact written_subset_head ..
      · exact writtenBy_subset_tail ..

/-- A pass that goes through reports every analysis, and it made one for each node. -/
theorem reports_eq {reports : List NodeReport}
    (done : (inferNodes registry options index nodes graph).result = .ok reports) :
    reports = (analyses registry options index nodes graph).map NodeAnalysis.report ∧
      reports.length = nodes.length := by
  induction nodes generalizing index graph reports with
  | nil =>
    cases done
    exact ⟨rfl, rfl⟩
  | cons node rest ih =>
    let analysis :=
      Analysis.analyzeNode registry options .infer (ensureOutputs graph node) index node
    cases committed : Analysis.commitStaged (ensureOutputs graph node) node analysis.staged with
    | mk after ended =>
      cases ended with
      | error problem => simp [inferNodes, analysis, committed] at done
      | ok _ =>
        cases passed : Analysis.enforce options analysis.report with
        | error problem => simp [inferNodes, analysis, committed, passed] at done
        | ok _ =>
          simp only [inferNodes, analyses, analysis, committed, passed] at done ⊢
          obtain ⟨later, went, rfl⟩ := exists_of_map_eq_ok done
          obtain ⟨same, counted⟩ := ih went
          exact ⟨by rw [same, List.map_cons], by rw [List.length_cons, counted, List.length_cons]⟩

/-- Only a pass that is to fail fast stops, and then it returns the first diagnostic of the node
that it analyzed last. -/
theorem stopped_at (indexed : graph.Indexed) {problem : PassError}
    (stopped : (inferNodes registry options index nodes graph).result = .error problem) :
    options.errorPolicy = .failFast ∧ ∃ last diagnostic,
      (analyses registry options index nodes graph).getLast? = some last ∧
        last.report.diagnostics.head? = some diagnostic ∧ problem = .node diagnostic := by
  induction nodes generalizing index graph with
  | nil => cases stopped
  | cons node rest ih =>
    obtain ⟨analysis, _, valid, _, stops | goes⟩ :=
      pass_cons indexed registry options index node rest
    · obtain ⟨diagnostic, policy, first, ran, traced⟩ := stops
      rw [ran] at stopped
      cases stopped
      exact ⟨policy, analysis, diagnostic, by rw [traced]; rfl, first, rfl⟩
    · obtain ⟨_, ran, traced⟩ := goes
      rw [ran] at stopped
      obtain ⟨policy, last, diagnostic, final, first, same⟩ :=
        ih valid (eq_error_of_map stopped)
      refine ⟨policy, last, diagnostic, ?_, first, same⟩
      rw [traced, List.getLast?_cons, final]
      rfl

/-- Each analysis is that of the node at its place, in the graph that the nodes before it leave. -/
theorem analyzed_at (indexed : graph.Indexed) {i : Nat}
    (analyzed : (analyses registry options index nodes graph)[i]? = some analysis) :
    ∃ node, nodes[i]? = some node ∧
      analysis = Analysis.analyzeNode registry options .infer
        (inferNodes registry options index (nodes.take i) graph).graph (index + i) node := by
  induction nodes generalizing i index graph with
  | nil => simp [analyses] at analyzed
  | cons head rest ih =>
    obtain ⟨first, found, valid, _, whole⟩ := pass_cons indexed registry options index head rest
    cases i with
    | zero =>
      refine ⟨head, rfl, ?_⟩
      rcases whole with ⟨_, _, _, _, traced⟩ | ⟨_, _, traced⟩
      · rw [traced] at analyzed
        exact (Option.some.inj analyzed).symm.trans found
      · rw [traced] at analyzed
        exact (Option.some.inj analyzed).symm.trans found
    | succ i =>
      rcases whole with ⟨_, _, _, _, traced⟩ | ⟨quiet, _, traced⟩
      · rw [traced] at analyzed
        simp at analyzed
      · rw [traced] at analyzed
        obtain ⟨node, listed, same⟩ := ih valid analyzed
        obtain ⟨again, foundAgain, _, _, part⟩ :=
          pass_cons indexed registry options index head (rest.take i)
        rw [← found] at foundAgain
        subst again
        refine ⟨node, listed, ?_⟩
        rcases part with ⟨diagnostic, policy, stopped, _⟩ | ⟨_, ran, _⟩
        · rw [quiet policy] at stopped
          cases stopped
        · rw [same, List.take_succ_cons, ran, Nat.add_assoc, Nat.add_comm 1]

theorem contains_inferNodes (indexed : graph.Indexed) (registry : FrozenRegistry)
    (options : AnalysisOptions) (index : Nat) (nodes : List Node) :
    (inferNodes registry options index nodes graph).graph.tensors.contains name = true ↔
      name ∈ produced (nodes.take (analyses registry options index nodes graph).length) ∨
        graph.tensors.contains name = true := by
  induction nodes generalizing index graph with
  | nil => simp [inferNodes, analyses]
  | cons head rest ih =>
    obtain ⟨analysis, found, valid, _, stops | goes⟩ :=
      pass_cons indexed registry options index head rest
    · obtain ⟨_, _, _, ran, traced⟩ := stops
      have sized : ∀ types ∈ analysis.staged, types.length = head.outputs.length :=
        fun _ done => Analysis.length_staged (found ▸ done)
      rw [ran, traced, contains_advance indexed sized]
      simp
    · obtain ⟨_, ran, traced⟩ := goes
      have sized : ∀ types ∈ analysis.staged, types.length = head.outputs.length :=
        fun _ done => Analysis.length_staged (found ▸ done)
      rw [ran, traced, ih valid, contains_advance indexed sized, List.length_cons,
        List.take_succ_cons, produced_cons, List.mem_append]
      tauto

private theorem not_written (others : List NodeAnalysis)
    (alone : ∀ (j : Nat) (other : Node), nodes[j]? = some other → name ∉ other.presentOutputs) :
    name ∉ writtenBy nodes others := by
  rintro ⟨j, other, analysis, listed, _, member⟩
  refine alone j other listed ?_
  cases staged : analysis.staged with
  | none =>
    rw [staged] at member
    exact False.elim member
  | some types =>
    rw [staged] at member
    exact member

/-- What a node staged for an output is known about it in the end, if nothing else writes it. -/
theorem typeOf_committed (indexed : graph.Indexed) {i place : Nat} {types : List TensorType}
    {type : TensorType} (listed : nodes[i]? = some node)
    (analyzed : (analyses registry options index nodes graph)[i]? = some analysis)
    (staged : analysis.staged = some types) (distinct : node.presentOutputs.Nodup)
    (alone : ∀ (j : Nat) (other : Node), j ≠ i → nodes[j]? = some other →
      name ∉ other.presentOutputs)
    (named : name ≠ "") (output : node.outputs[place]? = some name)
    (stagedHere : types[place]? = some type) :
    (inferNodes registry options index nodes graph).graph.typeOf name = type := by
  induction nodes generalizing i index graph with
  | nil => simp at listed
  | cons head rest ih =>
    obtain ⟨first, found, valid, _, stops | goes⟩ :=
      pass_cons indexed registry options index head rest
    · obtain ⟨_, _, _, ran, traced⟩ := stops
      rw [traced] at analyzed
      cases i with
      | succ i => simp at analyzed
      | zero =>
        cases listed
        cases analyzed
        rw [ran, staged]
        have sized := Analysis.length_staged (found ▸ staged)
        exact typeOf_advance indexed sized distinct named output stagedHere
    · obtain ⟨_, ran, traced⟩ := goes
      rw [traced] at analyzed
      rw [ran]
      cases i with
      | succ i =>
        exact ih valid listed analyzed fun j other different present =>
          alone (j + 1) other (by simpa using different) present
      | zero =>
        cases listed
        cases analyzed
        obtain ⟨final, frame⟩ := inferNodes_frame valid registry options (index + 1) rest
        have outside := not_written (analyses registry options (index + 1) rest
          (advance graph node analysis.staged)) fun j other present =>
            alone (j + 1) other (Nat.succ_ne_zero j) present
        rw [frame.typeOf_eq final valid outside, staged]
        have sized := Analysis.length_staged (found ▸ staged)
        exact typeOf_advance indexed sized distinct named output stagedHere

end ShapeFlow.ShapeInference
