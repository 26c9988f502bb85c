import Mathlib.Data.List.Forall2
import ShapeFlow.Proofs.Analysis.Spelling
import ShapeFlow.Proofs.Registry.Inventory

/-!
Programs over a registry and a graph, and the two spellings of the default domain. A program
declares operators, looks them up, builds a graph and analyzes it. Wherever it names the default
domain, the other spelling would do: only the node references of diagnostics, which quote the nodes,
and the nodes themselves would show it.
-/

namespace ShapeFlow

/-- Lists a tensor that callers receive. -/
def GraphOf.listOutput (graph : Graph) (name : String) : Graph :=
  { graph with outputs := graph.outputs ++ [name] }

/-- A registry and a graph. -/
structure Workspace where
  registry : Registry := .empty
  graph : Graph := .empty

/-- A step of a program. -/
inductive Command where
  | declare (declaration : Declaration)
  | lookUp (domain name : String) (version : Int)
  | contains (domain name : String)
  | importOpset (domain : String) (version : Int)
  | opsetVersionFor (node : Node)
  | addNode (node : Node)
  | insertNode (place : Nat) (node : Node)
  | addTensor (info : TensorInfo)
  | addInput (info : TensorInfo)
  | addInitializer (info : TensorInfo)
  | listOutput (name : String)
  | infer (options : AnalysisOptions)
  | check (options : AnalysisOptions)

/-- The answer to a step. -/
inductive Answer where
  | done
  | declared (result : Except RegistrationError Unit)
  | found (result : Except OperatorNotFound Schema)
  | contained (known : Bool)
  | version (version : Option Int)
  | place (place : Nat)
  | inferred (notes : List String) (result : Except PassError PassReport)
  | checked (result : Except PassError PassReport)

namespace Workspace

/-- Carries out a step. The passes read the registry as it stands. -/
def perform (workspace : Workspace) : Command → Workspace × Answer
  | .declare declaration =>
    let attempt := workspace.registry.attemptDeclaration declaration
    ({ workspace with registry := attempt.1 }, .declared attempt.2)
  | .lookUp domain name version =>
    (workspace, .found (workspace.registry.lookup domain name version))
  | .contains domain name => (workspace, .contained (workspace.registry.contains domain name))
  | .importOpset domain version =>
    ({ workspace with graph := workspace.graph.importOpset domain version }, .done)
  | .opsetVersionFor node => (workspace, .version (workspace.graph.opsetVersionFor node))
  | .addNode node =>
    let added := workspace.graph.addNode node
    ({ workspace with graph := added.1 }, .place added.2)
  | .insertNode place node =>
    ({ workspace with graph := workspace.graph.insertNode place node }, .done)
  | .addTensor info =>
    let added := workspace.graph.addTensor info
    ({ workspace with graph := added.1 }, .place added.2)
  | .addInput info =>
    let added := workspace.graph.addInput info
    ({ workspace with graph := added.1 }, .place added.2)
  | .addInitializer info =>
    let added := workspace.graph.addInitializer info
    ({ workspace with graph := added.1 }, .place added.2)
  | .listOutput name =>
    ({ workspace with graph := workspace.graph.listOutput name }, .done)
  | .infer options =>
    let run := ShapeInference.run options workspace.registry.freeze workspace.graph
    ({ workspace with graph := run.graph }, .inferred run.notes run.result)
  | .check options =>
    (workspace, .checked (Validation.check options workspace.registry.freeze workspace.graph))

/-- Carries out a program, with the answer to each step. -/
def performAll (workspace : Workspace) : List Command → Workspace × List Answer
  | [] => (workspace, [])
  | command :: rest =>
    let first := workspace.perform command
    let later := first.1.performAll rest
    (later.1, first.2 :: later.2)

/-- The workspace with the nodes of its graph in the normalized spelling, as far as the scope
goes. -/
def spelled (scope : SpellingScope) (workspace : Workspace) : Workspace :=
  { workspace with graph := workspace.graph.spelled scope }

/-- Two workspaces that differ at most in how nodes spell their domains, as far as the scope
goes. -/
structure Alike (scope : SpellingScope) (first second : Workspace) : Prop where
  registry : second.registry = first.registry
  tensors : second.graph.tensors = first.graph.tensors
  tensorInfo : second.graph.tensorInfo = first.graph.tensorInfo
  inputs : second.graph.inputs = first.graph.inputs
  outputs : second.graph.outputs = first.graph.outputs
  initializers : second.graph.initializers = first.graph.initializers
  opsetImports : second.graph.opsetImports = first.graph.opsetImports
  nodes : second.graph.nodes.map (NodeOf.spelled scope) =
    first.graph.nodes.map (NodeOf.spelled scope)

theorem alike_of_spelled_eq {scope : SpellingScope} {first second : Workspace}
    (same : second.spelled scope = first.spelled scope) : Alike scope first second := by
  have graphs := congrArg (·.graph) same
  exact {
    registry := congrArg (·.registry) same
    tensors := congrArg (·.tensors) graphs
    tensorInfo := congrArg (·.tensorInfo) graphs
    inputs := congrArg (·.inputs) graphs
    outputs := congrArg (·.outputs) graphs
    initializers := congrArg (·.initializers) graphs
    opsetImports := congrArg (·.opsetImports) graphs
    nodes := congrArg (·.nodes) graphs }

end Workspace

/-- The answer with the node references of a report in the normalized spelling. -/
def Answer.normalized : Answer → Answer
  | .inferred notes result => .inferred notes (normalizedResult result)
  | .checked result => .checked (normalizedResult result)
  | answer => answer

/-- The answer, if it is about operators and opset versions alone. Places and reports depend on what
inference functions make of the graph. -/
def Answer.onOperators : Answer → Answer
  | .place _ | .inferred _ _ | .checked _ => .done
  | answer => answer

def Declaration.normalized (declaration : Declaration) : Declaration :=
  { declaration with domain := normalizeDomain declaration.domain }

theorem Declaration.build_normalized (declaration : Declaration) :
    declaration.normalized.build = declaration.build := by
  simp only [build, check, normalized, id, OperatorId.normalized, normalizeDomain_normalizeDomain]

theorem Registry.attemptDeclaration_normalized (registry : Registry) (declaration : Declaration) :
    registry.attemptDeclaration declaration.normalized =
      registry.attemptDeclaration declaration := by
  rw [attemptDeclaration_eq, attemptDeclaration_eq, Declaration.build_normalized]

namespace GraphOf

theorem opsetImports_addTensor (graph : Graph) (info : TensorInfo) :
    (graph.addTensor info).1.opsetImports = graph.opsetImports := by
  unfold addTensor
  split
  · rfl
  · rfl

variable (scope : SpellingScope) (graph : Graph)

theorem importOpset_spelled (domain : String) (version : Int) :
    (graph.spelled scope).importOpset (normalizeDomain domain) version =
      (graph.importOpset domain version).spelled scope := by
  simp only [importOpset, spelled, withNodes, normalizeDomain_normalizeDomain]

theorem addNode_spelled (node : Node) :
    (graph.spelled scope).addNode (node.spelled scope) =
      ((graph.addNode node).1.spelled scope, (graph.addNode node).2) := by
  simp [addNode, spelled, withNodes]

theorem insertNode_spelled (place : Nat) (node : Node) :
    (graph.spelled scope).insertNode place (node.spelled scope) =
      (graph.insertNode place node).spelled scope := by
  simp [insertNode, spelled, withNodes]

theorem addTensor_spelled (info : TensorInfo) :
    (graph.spelled scope).addTensor info =
      ((graph.addTensor info).1.spelled scope, (graph.addTensor info).2) := by
  cases found : graph.tensors.get? info.name <;> simp [addTensor, spelled, withNodes, found]

theorem addInput_spelled (info : TensorInfo) :
    (graph.spelled scope).addInput info =
      ((graph.addInput info).1.spelled scope, (graph.addInput info).2) := by
  simp only [addInput, addTensor_spelled]
  rfl

theorem addInitializer_spelled (info : TensorInfo) :
    (graph.spelled scope).addInitializer info =
      ((graph.addInitializer info).1.spelled scope, (graph.addInitializer info).2) := by
  simp only [addInitializer, addTensor_spelled]
  rfl

end GraphOf

namespace Command

variable {scope : SpellingScope} {first second : List Command}

/-- The command with the domains that it names in the normalized spelling, those of nodes as far as
the scope goes. -/
def spelled (scope : SpellingScope) : Command → Command
  | .declare declaration => .declare declaration.normalized
  | .lookUp domain name version => .lookUp (normalizeDomain domain) name version
  | .contains domain name => .contains (normalizeDomain domain) name
  | .importOpset domain version => .importOpset (normalizeDomain domain) version
  | .opsetVersionFor node => .opsetVersionFor (node.spelled scope)
  | .addNode node => .addNode (node.spelled scope)
  | .insertNode place node => .insertNode place (node.spelled scope)
  | command => command

/-- The second command is the first one, with the domains that it names perhaps spelled the other
way. -/
inductive Respelled (scope : SpellingScope) : Command → Command → Prop where
  | kept (command : Command) : Respelled scope command command
  | declare {declaration : Declaration} {domain : String}
      (same : SameDomain declaration.domain domain) :
      Respelled scope (.declare declaration) (.declare { declaration with domain })
  | lookUp {domain other : String} (same : SameDomain domain other) (name : String)
      (version : Int) : Respelled scope (.lookUp domain name version) (.lookUp other name version)
  | contains {domain other : String} (same : SameDomain domain other) (name : String) :
      Respelled scope (.contains domain name) (.contains other name)
  | importOpset {domain other : String} (same : SameDomain domain other) (version : Int) :
      Respelled scope (.importOpset domain version) (.importOpset other version)
  | opsetVersionFor {node other : Node} (same : other.spelled scope = node.spelled scope) :
      Respelled scope (.opsetVersionFor node) (.opsetVersionFor other)
  | addNode {node other : Node} (same : other.spelled scope = node.spelled scope) :
      Respelled scope (.addNode node) (.addNode other)
  | insertNode {node other : Node} (same : other.spelled scope = node.spelled scope) (place : Nat) :
      Respelled scope (.insertNode place node) (.insertNode place other)

theorem Respelled.spelled_eq {first second : Command} (respelled : Respelled scope first second) :
    second.spelled scope = first.spelled scope := by
  cases respelled with
  | kept => rfl
  | declare same | lookUp same | contains same | importOpset same =>
    simp only [spelled, Declaration.normalized, sameDomain_iff.mp same]
  | opsetVersionFor same | addNode same | insertNode same => simp only [spelled, same]

/-- The inference function that a command declares, if any, ignores the spelling. -/
def IgnoresSpelling (scope : SpellingScope) : Command → Prop
  | .declare declaration => ∀ function ∈ declaration.inference, function.IgnoresSpelling scope
  | _ => True

theorem Respelled.ignoresSpelling {first second : Command}
    (respelled : Respelled scope first second) (ignores : first.IgnoresSpelling scope) :
    second.IgnoresSpelling scope := by
  cases respelled with
  | kept | declare => exact ignores
  | _ => trivial

theorem map_spelled_eq (respelled : List.Forall₂ (Respelled scope) first second) :
    second.map (spelled scope) = first.map (spelled scope) := by
  induction respelled with
  | nil => rfl
  | cons here later ih => rw [List.map_cons, List.map_cons, here.spelled_eq, ih]

theorem forall_ignoresSpelling (respelled : List.Forall₂ (Respelled scope) first second)
    (declared : ∀ command ∈ first, command.IgnoresSpelling scope) :
    ∀ command ∈ second, command.IgnoresSpelling scope := by
  induction respelled with
  | nil => exact declared
  | cons here later ih =>
    obtain ⟨ignores, rest⟩ := List.forall_mem_cons.mp declared
    exact List.forall_mem_cons.mpr ⟨here.ignoresSpelling ignores, ih rest⟩

end Command

namespace Workspace

variable {scope : SpellingScope} {workspace : Workspace} {command : Command}

/-- The inference functions of the registry ignore the spelling. -/
def IgnoresSpelling (scope : SpellingScope) (workspace : Workspace) : Prop :=
  workspace.registry.freeze.EveryFunction (InferenceFunction.IgnoresSpelling scope)

theorem registry_perform (workspace : Workspace) (command : Command) :
    (workspace.perform command).1.registry =
      match command with
      | .declare declaration => (workspace.registry.attemptDeclaration declaration).1
      | _ => workspace.registry := by
  cases command <;> rfl

theorem opsetImports_perform (workspace : Workspace) (command : Command) :
    (workspace.perform command).1.graph.opsetImports =
      match command with
      | .importOpset domain version =>
        workspace.graph.opsetImports.insert (normalizeDomain domain) version
      | _ => workspace.graph.opsetImports := by
  cases command with
  | addTensor info | addInput info | addInitializer info =>
    exact workspace.graph.opsetImports_addTensor info
  | infer options =>
    exact ShapeInference.opsetImports_run options workspace.registry.freeze workspace.graph
  | _ => rfl

/-- Two workspaces in which operators and opset versions are looked up alike. -/
structure LookAlike (first second : Workspace) : Prop where
  registry : second.registry = first.registry
  opsetImports : second.graph.opsetImports = first.graph.opsetImports

/-- What inference functions do has no bearing on operators and opset versions. -/
theorem LookAlike.perform {first second : Workspace} (alike : LookAlike first second)
    (command : Command) :
    LookAlike (first.perform command).1 (second.perform (command.spelled scope)).1 ∧
      (second.perform (command.spelled scope)).2.onOperators =
        (first.perform command).2.onOperators := by
  obtain ⟨registry, imports⟩ := alike
  refine ⟨⟨?_, ?_⟩, ?_⟩
  · rw [registry_perform, registry_perform, registry]
    cases command with
    | declare declaration =>
      exact congrArg Prod.fst (first.registry.attemptDeclaration_normalized declaration)
    | _ => rfl
  · rw [opsetImports_perform, opsetImports_perform, imports]
    cases command with
    | importOpset domain version =>
      simp only [Command.spelled, normalizeDomain_normalizeDomain]
    | _ => rfl
  · cases command with
    | declare | lookUp | contains =>
      simp only [Workspace.perform, Command.spelled, registry,
        Registry.attemptDeclaration_normalized, Registry.lookup_normalizeDomain,
        Registry.contains_normalizeDomain]
    | opsetVersionFor node =>
      have version : second.graph.opsetVersionFor (node.spelled scope) =
          first.graph.opsetVersionFor node := by
        rw [GraphOf.opsetVersionFor_spelled, GraphOf.opsetVersionFor, imports,
          GraphOf.opsetVersionFor]
      exact congrArg Answer.version version
    | _ => rfl

theorem LookAlike.performAll {first second : Workspace} (alike : LookAlike first second)
    (program : List Command) :
    LookAlike (first.performAll program).1
        (second.performAll (program.map (Command.spelled scope))).1 ∧
      (second.performAll (program.map (Command.spelled scope))).2.map Answer.onOperators =
        (first.performAll program).2.map Answer.onOperators := by
  induction program generalizing first second with
  | nil => exact ⟨alike, rfl⟩
  | cons command rest ih =>
    obtain ⟨stepped, answer⟩ := alike.perform command
    obtain ⟨ended, answers⟩ := ih stepped
    refine ⟨ended, ?_⟩
    rw [List.map_cons, Workspace.performAll, Workspace.performAll, List.map_cons, List.map_cons,
      answer, answers]

theorem IgnoresSpelling.perform (ignores : workspace.IgnoresSpelling scope)
    (declared : command.IgnoresSpelling scope) :
    (workspace.perform command).1.IgnoresSpelling scope := by
  intro schema listed function attached
  change schema ∈ (workspace.perform command).1.registry.schemas at listed
  rw [registry_perform] at listed
  cases command with
  | declare declaration =>
    rcases Registry.mem_attemptDeclaration listed with before | built
    · exact ignores schema before function attached
    · rw [(Declaration.build_eq_ok_iff.mp built).inference_eq] at attached
      exact declared function attached
  | _ => exact ignores schema listed function attached

/-- A step in the normalized spelling does in the normalized workspace what the step itself
does. -/
theorem perform_spelled (ignores : workspace.IgnoresSpelling scope) (command : Command) :
    (workspace.spelled scope).perform (command.spelled scope) =
      ((workspace.perform command).1.spelled scope, (workspace.perform command).2.normalized) := by
  cases command with
  | declare | lookUp | contains =>
    simp only [perform, spelled, Command.spelled, Answer.normalized,
      Registry.attemptDeclaration_normalized, Registry.lookup_normalizeDomain,
      Registry.contains_normalizeDomain]
  | importOpset | addNode | insertNode | addTensor | addInput | addInitializer =>
    simp only [perform, spelled, Command.spelled, Answer.normalized,
      GraphOf.importOpset_spelled, GraphOf.addNode_spelled, GraphOf.insertNode_spelled,
      GraphOf.addTensor_spelled, GraphOf.addInput_spelled,
      GraphOf.addInitializer_spelled]
  | opsetVersionFor node =>
    have version : (workspace.graph.spelled scope).opsetVersionFor (node.spelled scope) =
        workspace.graph.opsetVersionFor node :=
      (workspace.graph.spelled scope).opsetVersionFor_spelled scope node
    exact congrArg (fun version => (workspace.spelled scope, Answer.version version)) version
  | listOutput => rfl
  | infer options =>
    simp only [perform, spelled, Command.spelled, Answer.normalized,
      ShapeInference.run_spelled ignores, GraphRun.spelled]
  | check options =>
    simp only [perform, spelled, Command.spelled, Answer.normalized,
      Validation.check_spelled ignores]

theorem performAll_spelled (ignores : workspace.IgnoresSpelling scope) {program : List Command}
    (declared : ∀ command ∈ program, command.IgnoresSpelling scope) :
    (workspace.spelled scope).performAll (program.map (Command.spelled scope)) =
      ((workspace.performAll program).1.spelled scope,
        (workspace.performAll program).2.map Answer.normalized) := by
  induction program generalizing workspace with
  | nil => rfl
  | cons command rest ih =>
    obtain ⟨here, later⟩ := List.forall_mem_cons.mp declared
    rw [List.map_cons, performAll, perform_spelled ignores, ih (ignores.perform here) later]
    rfl

/-- Two programs that differ in how they spell the default domain declare and look up alike. If no
inference function minds the spelling, they get the same answers everywhere, up to the spelling in
the node references of diagnostics, and leave the same graph, up to the spelling in its nodes. -/
theorem performAll_respelled (scope : SpellingScope) {first second : List Command}
    (start : Workspace) (respelled : List.Forall₂ (Command.Respelled scope) first second) :
    LookAlike (start.performAll first).1 (start.performAll second).1 ∧
      (start.performAll second).2.map Answer.onOperators =
        (start.performAll first).2.map Answer.onOperators ∧
      (start.IgnoresSpelling scope → (∀ command ∈ first, command.IgnoresSpelling scope) →
        Alike scope (start.performAll first).1 (start.performAll second).1 ∧
          (start.performAll second).2.map Answer.normalized =
            (start.performAll first).2.map Answer.normalized) := by
  have sameProgram := Command.map_spelled_eq respelled
  have itself : LookAlike start start := ⟨rfl, rfl⟩
  obtain ⟨left, leftAnswers⟩ := itself.performAll first
  obtain ⟨right, rightAnswers⟩ := itself.performAll second
  rw [sameProgram] at right rightAnswers
  have lookedUp : LookAlike (start.performAll first).1 (start.performAll second).1 := {
    registry := right.registry.symm.trans left.registry
    opsetImports := right.opsetImports.symm.trans left.opsetImports }
  refine ⟨lookedUp, rightAnswers.symm.trans leftAnswers, fun ignores declared => ?_⟩
  have left := performAll_spelled ignores declared
  have right := performAll_spelled ignores (Command.forall_ignoresSpelling respelled declared)
  rw [sameProgram, left] at right
  obtain ⟨workspaces, answers⟩ := Prod.mk.inj right
  exact ⟨alike_of_spelled_eq workspaces.symm, answers.symm⟩

/-- A graph of one node, for an attribute to hold. -/
def branch (domain : String) : Graph :=
  { nodes := [{ opType := "Scale", domain, inputs := ["y"], outputs := ["z"] }], outputs := ["z"] }

/-- A program that never spells the default domain out. -/
def plainProgram : List Command := [
  .declare Catalogue.scale,
  .contains "" "Scale",
  .importOpset "" 1,
  .addInput { name := "x", type := { elementType := some .float32, shape := .ranked [.size 2] } },
  .addNode { opType := "Scale", inputs := ["x"], outputs := ["y"] },
  .addNode {
    opType := "Absent"
    inputs := ["y"]
    outputs := ["z"]
    attributes := .ofList [("body", .graph (branch ""))] },
  .infer {}]

/-- The same program with the default domain spelled out in most places, also within an
attribute. -/
def spelledOutProgram : List Command := [
  .declare { Catalogue.scale with domain := defaultDomain },
  .contains defaultDomain "Scale",
  .importOpset "" 1,
  .addInput { name := "x", type := { elementType := some .float32, shape := .ranked [.size 2] } },
  .addNode { opType := "Scale", domain := defaultDomain, inputs := ["x"], outputs := ["y"] },
  .addNode {
    opType := "Absent"
    inputs := ["y"]
    outputs := ["z"]
    attributes := .ofList [("body", .graph (branch defaultDomain))] },
  .infer {}]

theorem respelled_spelledOut :
    List.Forall₂ (Command.Respelled .nested) plainProgram spelledOutProgram := by
  refine .cons (.declare .spelledOut) (.cons (.contains .spelledOut _) (.cons (.kept _)
    (.cons (.kept _) (.cons (.addNode ?_) (.cons (.addNode ?_) (.cons (.kept _) .nil))))))
  · exact NodeOf.spelled_of_sameDomain .nested
      { opType := "Scale", inputs := ["x"], outputs := ["y"] } .spelledOut
  · rfl

theorem performAll_respelled_scale :
    Alike .nested (({} : Workspace).performAll plainProgram).1
        (({} : Workspace).performAll spelledOutProgram).1 ∧
      (({} : Workspace).performAll spelledOutProgram).2.map Answer.normalized =
        (({} : Workspace).performAll plainProgram).2.map Answer.normalized ∧
      (({} : Workspace).performAll spelledOutProgram).1.graph.typeOf "y" =
        { elementType := some .float32, shape := .ranked [.size 2] } := by
  have ignores : ({} : Workspace).IgnoresSpelling .nested := by
    intro schema listed
    cases listed
  have declared : ∀ command ∈ plainProgram, command.IgnoresSpelling .nested := by
    simp only [plainProgram, List.forall_mem_cons]
    refine ⟨?_, trivial, trivial, trivial, trivial, trivial, trivial, by simp⟩
    intro function attached
    cases attached
    exact .of_overlooks InferenceFunction.passThrough_overlooksSpelling
  obtain ⟨alike, answers⟩ :=
    (performAll_respelled .nested {} respelled_spelledOut).2.2 ignores declared
  exact ⟨alike, answers, by cbv⟩

end Workspace

end ShapeFlow
