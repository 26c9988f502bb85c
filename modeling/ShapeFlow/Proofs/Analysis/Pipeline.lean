import ShapeFlow.Analysis.Pipeline
import ShapeFlow.Catalogue
import ShapeFlow.Proofs.Except

/-!
Uses of a pipeline. Passes are added and runs are made in any order. A run sorts the passes in
place, and because the sort is stable the passes of a stage stay in the order in which they were
added, whatever runs there were. A run does what its passes do one after the other, up to the
first error.
-/

namespace ShapeFlow

namespace Pass

variable {passes added : List Pass} {stage : Stage} {pass : Pass}

theorem precedes_trans (first second third : Pass) (before : first.stage.precedes second.stage)
    (after : second.stage.precedes third.stage) : first.stage.precedes third.stage := by
  revert before after
  cases first.stage <;> cases second.stage <;> cases third.stage <;> decide

theorem precedes_total (left right : Pass) :
    left.stage.precedes right.stage || right.stage.precedes left.stage := by
  cases left.stage <;> cases right.stage <;> rfl

/-- The passes of a stage, in the order in which they are listed. -/
def ofStage (stage : Stage) (passes : List Pass) : List Pass :=
  passes.filter (·.stage = stage)

/-- All passes of the validation stage, and then all of the inference stage. -/
def inOrder (passes : List Pass) : List Pass :=
  ofStage .validation passes ++ ofStage .inference passes

theorem mem_ofStage_iff : pass ∈ ofStage stage passes ↔ pass ∈ passes ∧ pass.stage = stage := by
  simp [ofStage]

theorem ofStage_append :
    ofStage stage (passes ++ added) = ofStage stage passes ++ ofStage stage added :=
  List.filter_append ..

theorem ofStage_ofStage : ofStage stage (ofStage stage passes) = ofStage stage passes := by
  simp [ofStage]

theorem inOrder_congr (same : ∀ stage, ofStage stage passes = ofStage stage added) :
    inOrder passes = inOrder added := by
  rw [inOrder, inOrder, same, same]

theorem pairwise_ofStage (stage : Stage) (passes : List Pass) :
    (ofStage stage passes).Pairwise fun left right => left.stage.precedes right.stage := by
  refine List.pairwise_of_forall_mem_list fun left listed right also => ?_
  rw [(mem_ofStage_iff.mp listed).2, (mem_ofStage_iff.mp also).2]
  cases stage <;> rfl

/-- Once an inference pass is listed, only inference passes follow in a sorted list. -/
theorem inOrder_of_pairwise
    (sorted : passes.Pairwise fun left right => left.stage.precedes right.stage) :
    inOrder passes = passes := by
  induction passes with
  | nil => rfl
  | cons pass rest ih =>
    obtain ⟨leads, sorted⟩ := List.pairwise_cons.mp sorted
    cases staged : pass.stage with
    | validation =>
      have rejoined := ih sorted
      simpa [inOrder, ofStage, staged] using rejoined
    | inference =>
      have later : ∀ other ∈ rest, other.stage = .inference := by
        intro other listed
        have follows := leads other listed
        rw [staged] at follows
        cases otherStage : other.stage with
        | inference => rfl
        | validation => simp [otherStage, Stage.precedes] at follows
      have none : ofStage .validation rest = [] := by
        refine List.filter_eq_nil_iff.mpr fun other listed => ?_
        simp [later other listed]
      have all : ofStage .inference rest = rest :=
        List.filter_eq_self.mpr fun other listed => by simp [later other listed]
      simp only [ofStage] at none all
      simp [inOrder, ofStage, staged, none, all]

end Pass

namespace Pipeline

open Pass

variable {registry : FrozenRegistry} {pass : Pass} {graph : Graph}

/-- The sort keeps the passes of a stage in place among themselves. -/
theorem ofStage_arranged (stage : Stage) (pipeline : Pipeline) :
    ofStage stage pipeline.arranged.passes = ofStage stage pipeline.passes := by
  have kept : (ofStage stage pipeline.passes).Sublist pipeline.arranged.passes :=
    List.sublist_mergeSort precedes_trans precedes_total
      (pairwise_ofStage stage pipeline.passes) List.filter_sublist
  have among : (ofStage stage (ofStage stage pipeline.passes)).Sublist
      (ofStage stage pipeline.arranged.passes) := kept.filter _
  rw [ofStage_ofStage] at among
  have same : (ofStage stage pipeline.arranged.passes).Perm (ofStage stage pipeline.passes) :=
    (List.mergeSort_perm ..).filter _
  exact (among.eq_of_length same.length_eq.symm).symm

theorem arranged_passes (pipeline : Pipeline) :
    pipeline.arranged.passes = inOrder pipeline.passes := by
  have sorted := List.pairwise_mergeSort precedes_trans precedes_total pipeline.passes
  calc pipeline.arranged.passes
      = inOrder pipeline.arranged.passes := (inOrder_of_pairwise sorted).symm
    _ = inOrder pipeline.passes := inOrder_congr fun stage => ofStage_arranged stage pipeline

/-- A call on a pipeline. -/
inductive Call where
  | add (pass : Pass)
  | run (registry : FrozenRegistry) (graph : Graph)

/-- The pass that a call adds. -/
def Call.added? : Call → Option Pass
  | .add pass => some pass
  | .run _ _ => none

/-- The passes that calls add, in order. -/
def added (calls : List Call) : List Pass :=
  calls.filterMap Call.added?

/-- The pipeline after a call, with the answer to a run. -/
def call (pipeline : Pipeline) : Call → Pipeline × Option (GraphRun (List PassReport))
  | .add pass => (pipeline.add pass, none)
  | .run registry graph =>
    let (arranged, ended) := pipeline.run registry graph
    (arranged, some ended)

/-- Calls one after the other on the same pipeline, with one answer for each call. -/
def callAll (pipeline : Pipeline) :
    List Call → Pipeline × List (Option (GraphRun (List PassReport)))
  | [] => (pipeline, [])
  | first :: rest =>
    let (changed, answer) := pipeline.call first
    let later := changed.callAll rest
    (later.1, answer :: later.2)

/-- A call adds its pass at the end of the stage, and a run moves no pass within its stage. -/
theorem ofStage_call (pipeline : Pipeline) (call : Call) (stage : Stage) :
    ofStage stage (pipeline.call call).1.passes =
      ofStage stage (pipeline.passes ++ added [call]) := by
  cases call with
  | add pass => rfl
  | run registry graph =>
    rw [added, List.filterMap_cons_none rfl, List.filterMap_nil, List.append_nil]
    exact ofStage_arranged stage pipeline

/-- The passes of a stage stand in the order in which they were added, over all runs. -/
theorem ofStage_callAll (pipeline : Pipeline) (calls : List Call) (stage : Stage) :
    ofStage stage (pipeline.callAll calls).1.passes =
      ofStage stage (pipeline.passes ++ added calls) := by
  induction calls generalizing pipeline with
  | nil => simp [callAll, added]
  | cons first rest ih =>
    have listed : added (first :: rest) = added [first] ++ added rest :=
      List.filterMap_append (l := [first])
    rw [listed, ← List.append_assoc, ofStage_append, ← ofStage_call, ← ofStage_append]
    exact ih _

theorem getElem?_callAll (pipeline : Pipeline) (calls : List Call) (place : Nat) :
    (pipeline.callAll calls).2[place]? =
      calls[place]?.map fun reached =>
        ((pipeline.callAll (calls.take place)).1.call reached).2 := by
  induction calls generalizing pipeline place with
  | nil => rfl
  | cons first rest ih =>
    cases place with
    | zero => rfl
    | succ place => exact ih (pipeline.call first).1 place

/-- What the graph is after runs of passes, each on the graph that the one before it left. -/
def leftBy (graph : Graph) : List (GraphRun PassReport) → Graph
  | [] => graph
  | first :: rest => leftBy first.graph rest

/-- How a run over passes goes. -/
structure Executes (registry : FrozenRegistry) (passes : List Pass) (graph : Graph)
    (done : List (GraphRun PassReport)) (ended : GraphRun (List PassReport)) : Prop where
  /-- The passes run in the order of the list, each on the graph that the one before it left. -/
  fed : ∀ (place : Nat) (visit : GraphRun PassReport), done[place]? = some visit →
    ∃ pass, passes[place]? = some pass ∧ visit = pass.run registry (leftBy graph (done.take place))
  /-- The run leaves the graph of the last pass that ran. -/
  left : ended.graph = leftBy graph done
  noted : ended.notes = done.flatMap (·.notes)
  /-- A run succeeds exactly when all passes ran and succeeded, and it returns the report of
  each. -/
  reported : ∀ reports, ended.result = .ok reports ↔
    done.length = passes.length ∧ done.map (·.result) = reports.map .ok
  /-- A run fails exactly when the last pass that ran failed, after passes that succeeded, and it
  returns the error of that pass. -/
  stopped : ∀ problem, ended.result = .error problem ↔ ∃ before last,
    done = before ++ [last] ∧ last.result = .error problem ∧
      ∀ visit ∈ before, ∃ report, visit.result = .ok report
  /-- A run that fails does not depend on the passes that it did not reach. -/
  unreached : ∀ problem, ended.result = .error problem → ∀ others,
    runPasses registry (passes.take done.length ++ others) graph = ended

theorem executes_nil (registry : FrozenRegistry) (graph : Graph) :
    Executes registry [] graph [] (runPasses registry [] graph) := by
  constructor
  case fed => exact fun _ _ impossible => nomatch impossible
  case left => rfl
  case noted => rfl
  case reported =>
    intro reports
    cases reports <;> simp [runPasses]
  case stopped => simp [runPasses]
  case unreached => exact fun _ impossible => nomatch impossible

theorem runPasses_cons_of_error {problem : PassError}
    (failed : (pass.run registry graph).result = .error problem) (rest : List Pass) :
    runPasses registry (pass :: rest) graph =
      { graph := (pass.run registry graph).graph
        notes := (pass.run registry graph).notes
        result := .error problem } := by
  simp only [runPasses, failed]

theorem runPasses_cons_of_ok {report : PassReport}
    (passed : (pass.run registry graph).result = .ok report) (rest : List Pass) :
    runPasses registry (pass :: rest) graph =
      let later := runPasses registry rest (pass.run registry graph).graph
      { graph := later.graph
        notes := (pass.run registry graph).notes ++ later.notes
        result := later.result.map (report :: ·) } := by
  simp only [runPasses, passed]

theorem executes_cons_of_error {problem : PassError}
    (failed : (pass.run registry graph).result = .error problem) (rest : List Pass) :
    Executes registry (pass :: rest) graph [pass.run registry graph]
      (runPasses registry (pass :: rest) graph) := by
  rw [runPasses_cons_of_error failed]
  constructor
  case fed =>
    intro place visit reached
    cases place with
    | zero => exact ⟨pass, rfl, (Option.some.inj reached).symm⟩
    | succ place => cases reached
  case left => rfl
  case noted => simp
  case reported =>
    intro reports
    refine ⟨(nomatch ·), fun complete => ?_⟩
    have each := complete.2
    cases reports <;> simp [failed] at each
  case stopped =>
    intro other
    constructor
    · intro same
      cases same
      exact ⟨[], _, rfl, failed, fun _ impossible => nomatch impossible⟩
    · rintro ⟨before, last, only, error, _⟩
      have same : pass.run registry graph = last := by simpa using congrArg List.getLast? only
      cases failed.symm.trans (same ▸ error)
      rfl
  case unreached => exact fun _ _ others => runPasses_cons_of_error failed others

theorem executes_cons_of_ok {report : PassReport} {rest : List Pass}
    {done : List (GraphRun PassReport)} (passed : (pass.run registry graph).result = .ok report)
    (later : Executes registry rest (pass.run registry graph).graph done
      (runPasses registry rest (pass.run registry graph).graph)) :
    Executes registry (pass :: rest) graph (pass.run registry graph :: done)
      (runPasses registry (pass :: rest) graph) := by
  rw [runPasses_cons_of_ok passed]
  constructor
  case fed =>
    intro place visit reached
    cases place with
    | zero => exact ⟨pass, rfl, (Option.some.inj reached).symm⟩
    | succ place => exact later.fed place visit reached
  case left => exact later.left
  case noted => simp only [List.flatMap_cons, later.noted]
  case reported =>
    intro reports
    constructor
    · intro ended
      obtain ⟨others, succeeded, rfl⟩ := exists_of_map_eq_ok ended
      obtain ⟨complete, each⟩ := (later.reported others).mp succeeded
      exact ⟨congrArg (· + 1) complete, by rw [List.map_cons, List.map_cons, passed, each]⟩
    · rintro ⟨complete, each⟩
      cases reports with
      | nil => cases each
      | cons first others =>
        obtain ⟨same, eachLater⟩ := List.cons.inj each
        cases passed.symm.trans same
        have succeeded := (later.reported others).mpr ⟨Nat.succ.inj complete, eachLater⟩
        simp only [succeeded, Except.map]
  case stopped =>
    intro problem
    constructor
    · intro ended
      obtain ⟨before, last, rfl, failed, earlier⟩ :=
        (later.stopped problem).mp (eq_error_of_map ended)
      refine ⟨_ :: before, last, rfl, failed, ?_⟩
      exact List.forall_mem_cons.mpr ⟨⟨report, passed⟩, earlier⟩
    · rintro ⟨before, last, listed, failed, earlier⟩
      cases before with
      | nil =>
        cases (List.cons.inj listed).1
        cases passed.symm.trans failed
      | cons first before =>
        have among := (List.cons.inj listed).2
        simp only [(later.stopped problem).mpr
          ⟨before, last, among, failed, (List.forall_mem_cons.mp earlier).2⟩, Except.map]
  case unreached =>
    intro problem ended others
    have same := later.unreached problem (eq_error_of_map ended) others
    rw [List.length_cons, List.take_succ_cons, List.cons_append, runPasses_cons_of_ok passed, same]

theorem exists_executes (registry : FrozenRegistry) (passes : List Pass) (graph : Graph) :
    ∃ done, Executes registry passes graph done (runPasses registry passes graph) := by
  induction passes generalizing graph with
  | nil => exact ⟨[], executes_nil registry graph⟩
  | cons pass rest ih =>
    cases ended : (pass.run registry graph).result with
    | error problem => exact ⟨_, executes_cons_of_error ended rest⟩
    | ok report =>
      obtain ⟨done, later⟩ := ih (pass.run registry graph).graph
      exact ⟨_, executes_cons_of_ok ended later⟩

/-- Passes that write nothing keep every later pass from running when one of them fails. -/
theorem graph_runPasses_of_error {checks : List Pass}
    (kept : ∀ pass ∈ checks, (pass.run registry graph).graph = graph)
    (failing : ∃ pass ∈ checks, ∃ problem, (pass.run registry graph).result = .error problem)
    (later : List Pass) :
    (runPasses registry (checks ++ later) graph).graph = graph ∧
      ∃ problem, (runPasses registry (checks ++ later) graph).result = .error problem := by
  induction checks with
  | nil =>
    obtain ⟨_, impossible, _⟩ := failing
    cases impossible
  | cons pass rest ih =>
    obtain ⟨unwritten, kept⟩ := List.forall_mem_cons.mp kept
    rw [List.cons_append]
    cases ended : (pass.run registry graph).result with
    | error problem =>
      rw [runPasses_cons_of_error ended]
      exact ⟨unwritten, problem, rfl⟩
    | ok report =>
      have failing : ∃ pass ∈ rest, ∃ problem,
          (pass.run registry graph).result = .error problem := by
        obtain ⟨failed, listed, problem, error⟩ := failing
        rcases List.mem_cons.mp listed with rfl | listed
        · rw [ended] at error
          cases error
        · exact ⟨failed, listed, problem, error⟩
      obtain ⟨unchanged, problem, error⟩ := ih kept failing
      rw [runPasses_cons_of_ok ended]
      simp only [unwritten, unchanged, error]
      exact ⟨trivial, problem, rfl⟩

/-- What a run does with the passes that a pipeline was given, in the order in which it was given
them. -/
structure RunsInOrder (registry : FrozenRegistry) (given : List Pass) (graph : Graph)
    (ended : GraphRun (List PassReport)) : Prop where
  /-- The validation passes run first, and the passes of a stage in the order in which they were
  given. -/
  executes : ∃ done, Executes registry (inOrder given) graph done ended
  /-- Checks guard the graph. When one of them fails, the run fails and the graph is as before. -/
  guarded : (∀ pass ∈ ofStage .validation given, ∃ options, pass = .validation options) →
    (∃ pass ∈ ofStage .validation given, ∃ problem,
      (pass.run registry graph).result = .error problem) →
    ended.graph = graph ∧ ∃ problem, ended.result = .error problem

/-- Every run in a use of a pipeline runs all passes that were added before it, in order. -/
theorem callAll_runsInOrder (pipeline : Pipeline) {calls : List Call} {place : Nat}
    (called : calls[place]? = some (.run registry graph)) :
    ∃ ended, (pipeline.callAll calls).2[place]? = some (some ended) ∧
      RunsInOrder registry (pipeline.passes ++ added (calls.take place)) graph ended := by
  have sorted : (pipeline.callAll (calls.take place)).1.arranged.passes =
      inOrder (pipeline.passes ++ added (calls.take place)) :=
    (arranged_passes _).trans (inOrder_congr (ofStage_callAll pipeline (calls.take place)))
  refine ⟨runPasses registry (inOrder (pipeline.passes ++ added (calls.take place))) graph,
    ?_, exists_executes registry _ graph, fun checks failing => ?_⟩
  · rw [getElem?_callAll, called, ← sorted]
    rfl
  · refine graph_runPasses_of_error (fun pass listed => ?_) failing _
    obtain ⟨options, rfl⟩ := checks pass listed
    rfl

/-- A node that reads a tensor that nothing provides. -/
def unfedRelu : Graph where
  nodes := [{ opType := "Relu", inputs := ["x"], outputs := ["y"] }]

/-- The check is added when inference has already run. -/
def lateCheck : List Call :=
  [.add (.shapeInference {}), .run .experimental .empty, .add (.validation {}),
    .run .experimental unfedRelu]

/-- The late check stops the second run before inference. -/
theorem callAll_runsInOrder_lateCheck :
    ∃ ended, (empty.callAll lateCheck).2[3]? = some (some ended) ∧
      (∃ done, Executes .experimental [.validation {}, .shapeInference {}] unfedRelu done ended) ∧
      ended.graph = unfedRelu ∧ ∃ problem, ended.result = .error problem := by
  have called : lateCheck[3]? = some (.run .experimental unfedRelu) := rfl
  obtain ⟨ended, answered, inOrder⟩ := callAll_runsInOrder empty called
  refine ⟨ended, answered, inOrder.executes, inOrder.guarded ?_ ?_⟩
  · intro pass listed
    exact ⟨{}, List.mem_singleton.mp listed⟩
  · exact ⟨.validation {}, List.mem_singleton.mpr rfl,
      .graph (.unavailableInput "" "Relu" "x"), rfl⟩

end Pipeline

end ShapeFlow
