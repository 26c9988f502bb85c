import ShapeFlow.Analysis.ShapeInference

/-!
What a run cannot break. A run reaches the graph by describing tensors and by overwriting what is
known about them, so whatever these two uphold is upheld by every run, on whatever graph and however
the run ends.
-/

namespace ShapeFlow

/-- A property of graphs that describing a tensor and overwriting one uphold. -/
structure Upheld (holds : Graph → Prop) : Prop where
  ensureTensor : ∀ {graph : Graph} (name : String), holds graph →
    holds (graph.ensureTensor name).1
  setType : ∀ {graph written : Graph} {id : Nat} {type : TensorType}, holds graph →
    graph.setType id type = .ok written → holds written

namespace Upheld

variable {holds : Graph → Prop} {graph : Graph}

theorem commit (upheld : Upheld holds) (start : holds graph) (pairs : List (String × TensorType)) :
    holds (Analysis.commit graph pairs).1 := by
  induction pairs generalizing graph with
  | nil => exact start
  | cons pair rest ih =>
    obtain ⟨name, type⟩ := pair
    have described := upheld.ensureTensor name start
    by_cases absent : name = ""
    · simp only [Analysis.commit, absent, if_true]
      exact ih start
    · simp only [Analysis.commit, absent, if_false]
      split
      · rename_i written accepted
        exact ih (upheld.setType described accepted)
      · exact described

theorem commitStaged (upheld : Upheld holds) (start : holds graph) (node : Node)
    (staged : Option (List TensorType)) : holds (Analysis.commitStaged graph node staged).1 := by
  cases staged with
  | none => exact start
  | some types => exact upheld.commit start (node.outputs.zip types)

theorem ensureOutputs (upheld : Upheld holds) (start : holds graph) (node : Node) :
    holds (ShapeInference.ensureOutputs graph node) := by
  unfold ShapeInference.ensureOutputs
  generalize node.outputs.filter (· != "") = names
  induction names generalizing graph with
  | nil => exact start
  | cons name rest ih => exact ih (upheld.ensureTensor name start)

theorem inferNodes (upheld : Upheld holds) (start : holds graph) (registry : FrozenRegistry)
    (options : AnalysisOptions) (index : Nat) (nodes : List Node) :
    holds (ShapeInference.inferNodes registry options index nodes graph).graph := by
  induction nodes generalizing index graph with
  | nil => exact start
  | cons node rest ih =>
    have left := upheld.commitStaged (upheld.ensureOutputs start node) node
      (Analysis.analyzeNode registry options .infer (ShapeInference.ensureOutputs graph node) index
        node).staged
    rw [ShapeInference.inferNodes]
    split
    · rename_i committed problem ended
      rwa [ended] at left
    · rename_i committed ended
      rw [ended] at left
      split
      · exact left
      · exact ih left (index + 1)

/-- A run upholds what its writes uphold, also where it stops. -/
theorem run (upheld : Upheld holds) (start : holds graph) (options : AnalysisOptions)
    (registry : FrozenRegistry) : holds (ShapeInference.run options registry graph).graph := by
  unfold ShapeInference.run
  split
  · exact start
  · exact upheld.inferNodes start registry options 0 graph.nodes

end Upheld

end ShapeFlow
