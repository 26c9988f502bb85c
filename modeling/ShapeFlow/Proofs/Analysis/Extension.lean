import ShapeFlow.Proofs.Analysis.Coherence
import ShapeFlow.Proofs.Registry.Inventory

/-!
Registering one more operator version. It moves exactly the lookups that reach it and no later
version, so the passes do not change on graphs that ask for none of these.
-/

namespace ShapeFlow

namespace Registry

variable {registry extended : Registry} {added schema : Schema} {domain name : String}
  {version : Int}

/-- A schema moves a lookup: it is a version of the operator that the opset version reaches, and no
version after it that the opset version reaches is accepted yet. -/
structure Moves (registry : Registry) (added : Schema) (domain name : String) (version : Int) :
    Prop where
  operator : added.IsVersionOf domain name
  reached : added.id.sinceVersion ≤ version
  latest : ∀ other ∈ registry.schemas, other.IsVersionOf domain name →
    ¬(added.id.sinceVersion < other.id.sinceVersion ∧ other.id.sinceVersion ≤ version)

theorem mem_extended (accepted : registry.register added = .ok extended) :
    schema ∈ extended.schemas ↔ schema ∈ registry.schemas ∨ schema = added := by
  rw [schemas_of_register accepted, List.mem_append, List.mem_singleton]

theorem not_mem_of_register (accepted : registry.register added = .ok extended) :
    added ∉ registry.schemas := by
  intro listed
  have taken : added.id ∈ registry.ids := List.mem_map.mpr ⟨added, listed, rfl⟩
  rw [(register_eq_duplicate_iff registry added).mpr taken] at accepted
  cases accepted

/-- If a schema moves no lookup that reaches it, a later version does better there. -/
theorem exists_later (idle : ¬Moves registry added domain name version)
    (operator : added.IsVersionOf domain name) (reached : added.id.sinceVersion ≤ version) :
    ∃ other ∈ registry.schemas, other.IsVersionOf domain name ∧
      added.id.sinceVersion < other.id.sinceVersion ∧ other.id.sinceVersion ≤ version := by
  by_contra none
  apply idle
  refine ⟨operator, reached, fun other listed same later => ?_⟩
  exact none ⟨other, listed, same, later⟩

theorem lookup_of_moves (accepted : registry.register added = .ok extended)
    (moves : Moves registry added domain name version) :
    extended.lookup domain name version = .ok added := by
  rw [lookup_eq_ok_iff]
  refine ⟨(mem_extended accepted).mpr (.inr rfl), moves.operator, moves.reached, ?_⟩
  intro other listed same within
  rcases (mem_extended accepted).mp listed with before | rfl
  · have earlier := moves.latest other before same
    omega
  · exact Int.le_refl _

theorem inEffect_extended (accepted : registry.register added = .ok extended)
    (idle : ¬Moves registry added domain name version)
    (effective : InEffect (· ∈ registry.schemas) domain name version schema) :
    InEffect (· ∈ extended.schemas) domain name version schema where
  listed := (mem_extended accepted).mpr (.inl effective.listed)
  operator := effective.operator
  reached := effective.reached
  greatest := by
    intro other listed same within
    rcases (mem_extended accepted).mp listed with before | rfl
    · exact effective.greatest other before same within
    · obtain ⟨later, before, operator, above, reached⟩ := exists_later idle same within
      have bounded := effective.greatest later before operator reached
      omega

theorem lookup_of_not_moves (accepted : registry.register added = .ok extended)
    (idle : ¬Moves registry added domain name version) :
    extended.lookup domain name version = registry.lookup domain name version := by
  cases ended : registry.lookup domain name version with
  | ok schema =>
    rw [lookup_eq_ok_iff] at ended ⊢
    exact inEffect_extended accepted idle ended
  | error problem =>
    rw [lookup_eq_error_iff] at ended ⊢
    refine ⟨ended.1, fun other listed same => ?_⟩
    rcases (mem_extended accepted).mp listed with before | rfl
    · exact ended.2 other before same
    · by_contra reached
      obtain ⟨later, before, operator, _, within⟩ :=
        exists_later idle same (Int.not_lt.mp reached)
      exact absurd within (Int.not_le.mpr (ended.2 later before operator))

/-- Exactly the lookups that are moved change. -/
theorem lookup_ne_iff (accepted : registry.register added = .ok extended) :
    extended.lookup domain name version ≠ registry.lookup domain name version ↔
      Moves registry added domain name version := by
  constructor
  · intro differ
    by_contra idle
    exact differ (lookup_of_not_moves accepted idle)
  · intro moves same
    rw [lookup_of_moves accepted moves] at same
    exact not_mem_of_register accepted (lookup_eq_ok_iff.mp same.symm).listed

end Registry

variable {left right : FrozenRegistry} {options : AnalysisOptions} {depth : Depth}
  {graph : Graph} {node : Node} {nodes : List Node} {index : Nat}

namespace Analysis

/-- Two registries resolve a node alike. -/
def ResolveAlike (left right : FrozenRegistry) (graph : Graph) (node : Node) : Prop :=
  resolveSchema left graph node = resolveSchema right graph node

theorem resolveAlike_of_lookup
    (same : ∀ version, graph.opsetVersionFor node = some version →
      left.lookup node.domain node.opType version = right.lookup node.domain node.opType version) :
    ResolveAlike left right graph node := by
  rw [ResolveAlike, resolveSchema, resolveSchema]
  cases found : graph.opsetVersionFor node with
  | none => rfl
  | some version => simp only [same version found]

theorem ResolveAlike.of_imports {other : Graph} (alike : ResolveAlike left right graph node)
    (imports : other.opsetImports = graph.opsetImports) : ResolveAlike left right other node := by
  have version : other.opsetVersionFor node = graph.opsetVersionFor node := by
    rw [GraphOf.opsetVersionFor, GraphOf.opsetVersionFor, imports]
  rw [ResolveAlike, resolveSchema_congr version, resolveSchema_congr version]
  exact alike

/-- A registry is asked for the schema of a node and for nothing else. -/
theorem ResolveAlike.analyzeNode_eq (alike : ResolveAlike left right graph node)
    (options : AnalysisOptions) (depth : Depth) (index : Nat) :
    analyzeNode left options depth graph index node =
      analyzeNode right options depth graph index node := by
  have same : resolveSchema left graph node = resolveSchema right graph node := alike
  rw [analyzeNode, same, analyzeNode]

end Analysis

namespace ShapeInference

open Analysis

/-- Committing does not touch the imports, so a pass goes on resolving alike. -/
theorem inferNodes_resolveAlike (options : AnalysisOptions) (index : Nat)
    (alike : ∀ node ∈ nodes, ResolveAlike left right graph node) :
    inferNodes left options index nodes graph = inferNodes right options index nodes graph := by
  induction nodes generalizing index graph with
  | nil => rfl
  | cons node rest ih =>
    obtain ⟨here, later⟩ := List.forall_mem_cons.mp alike
    have prepared := here.of_imports (opsetImports_ensureOutputs graph node)
    rw [inferNodes, inferNodes, prepared.analyzeNode_eq]
    generalize analyzeNode right options .infer (ensureOutputs graph node) index node = analysis
    have imports := (opsetImports_commitStaged (ensureOutputs graph node) node
      analysis.staged).trans (opsetImports_ensureOutputs graph node)
    generalize commitStaged (ensureOutputs graph node) node analysis.staged = ended at imports
    have same := ih (index + 1) fun other listed => (later other listed).of_imports imports
    obtain ⟨committed, result⟩ := ended
    cases result with
    | error problem => rfl
    | ok _ => simp only [same]

theorem run_resolveAlike (options : AnalysisOptions)
    (alike : ∀ node ∈ graph.nodes, ResolveAlike left right graph node) :
    run options left graph = run options right graph := by
  rw [run, run, inferNodes_resolveAlike options 0 alike]

end ShapeInference

namespace Validation

open Analysis

theorem checkNodes_resolveAlike (options : AnalysisOptions) (index : Nat)
    (alike : ∀ node ∈ nodes, ResolveAlike left right graph node) :
    checkNodes left options graph index nodes = checkNodes right options graph index nodes := by
  induction nodes generalizing index with
  | nil => rfl
  | cons node rest ih =>
    obtain ⟨here, later⟩ := List.forall_mem_cons.mp alike
    rw [checkNodes, checkNodes, here.analyzeNode_eq, ih (index + 1) later]

theorem check_resolveAlike (options : AnalysisOptions)
    (alike : ∀ node ∈ graph.nodes, ResolveAlike left right graph node) :
    check options left graph = check options right graph := by
  rw [check, check, checkNodes_resolveAlike options 0 alike]

end Validation

open Registry in
/-- One more operator version changes exactly the lookups that reach it and no later version, and
these find it. On a graph that asks for none of these, both passes end as they did before. -/
theorem register_moves {registry extended : Registry} {added : Schema}
    (accepted : registry.register added = .ok extended) :
    (∀ (domain name : String) (version : Int),
      (extended.lookup domain name version ≠ registry.lookup domain name version ↔
          Moves registry added domain name version) ∧
        (Moves registry added domain name version →
          extended.lookup domain name version = .ok added)) ∧
      ∀ (graph : Graph) (options : AnalysisOptions),
        (∀ node ∈ graph.nodes, ∀ version, graph.opsetVersionFor node = some version →
          ¬Moves registry added node.domain node.opType version) →
        ShapeInference.run options extended.freeze graph =
            ShapeInference.run options registry.freeze graph ∧
          Validation.check options extended.freeze graph =
            Validation.check options registry.freeze graph := by
  refine ⟨fun domain name version => ⟨lookup_ne_iff accepted, lookup_of_moves accepted⟩, ?_⟩
  intro graph options idle
  have alike : ∀ node ∈ graph.nodes,
      Analysis.ResolveAlike extended.freeze registry.freeze graph node := by
    intro node listed
    apply Analysis.resolveAlike_of_lookup
    intro version found
    exact lookup_of_not_moves accepted (idle node listed version found)
  exact ⟨ShapeInference.run_resolveAlike options alike,
    Validation.check_resolveAlike options alike⟩

/-- One version of an operator. -/
def sevenOnly : Registry := { schemas := [earlierRelu] }

/-- A node of the operator, at an opset version between two of its versions. -/
def reluAtTwelve : Graph :=
  ((GraphOf.empty.importOpset "ai.onnx" 12).addNode
    { opType := "Relu", inputs := [], outputs := ["y"] }).1

/-- A later version is found from its own number on, and does not matter to a graph below it. -/
theorem register_moves_thirteen :
    ∃ extended, sevenOnly.register laterRelu = .ok extended ∧
      extended.lookup "ai.onnx" "Relu" 13 = .ok laterRelu ∧
      ShapeInference.run {} extended.freeze reluAtTwelve =
        ShapeInference.run {} sevenOnly.freeze reluAtTwelve := by
  have free : laterRelu.id ∉ sevenOnly.ids := by decide
  cases accepted : sevenOnly.register laterRelu with
  | error problem => simp [Registry.register, free] at accepted
  | ok extended =>
    obtain ⟨lookups, passes⟩ := register_moves accepted
    have moves : Registry.Moves sevenOnly laterRelu "ai.onnx" "Relu" 13 := by
      refine ⟨⟨by decide, by decide⟩, by decide, ?_⟩
      simp [sevenOnly, earlierRelu, laterRelu]
    have idle : ∀ node ∈ reluAtTwelve.nodes, ∀ version,
        reluAtTwelve.opsetVersionFor node = some version →
          ¬Registry.Moves sevenOnly laterRelu node.domain node.opType version := by
      intro node listed version found moves
      obtain rfl := List.mem_singleton.mp listed
      cases found
      exact absurd moves.reached (by decide)
    exact ⟨extended, rfl, (lookups "ai.onnx" "Relu" 13).2 moves, (passes reluAtTwelve {} idle).1⟩

end ShapeFlow
