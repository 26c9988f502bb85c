import ShapeFlow.Proofs.Registry.Table

/-!
What a registry holds after a history of declarations, some accepted and some refused. A refusal
cannot be told from the answers afterwards, the listing names each accepted schema once and in
order, and the order of registration does not matter.
-/

namespace ShapeFlow

namespace Registry

/-- An attempt to declare a schema. A refusal leaves the registry as it was. -/
def attemptDeclaration (registry : Registry) (declaration : Declaration) :
    Registry × Except RegistrationError Unit :=
  match registry.declare declaration with
  | .ok extended => (extended, .ok ())
  | .error problem => (registry, .error problem)

/-- Attempts declarations one after the other, with the answer to each attempt. -/
def declareEach (registry : Registry) :
    List Declaration → Registry × List (Except RegistrationError Unit)
  | [] => (registry, [])
  | declaration :: rest =>
    let first := registry.attemptDeclaration declaration
    let later := first.1.declareEach rest
    (later.1, first.2 :: later.2)

end Registry

namespace OperatorTable

/-- An attempt to declare a schema in a table. A declaration that breaks a rule opens no row. -/
def attemptDeclaration (table : OperatorTable) (declaration : Declaration) :
    OperatorTable × Except RegistrationError Unit :=
  match declaration.build with
  | .ok schema => table.register schema
  | .error problem => (table, .error problem)

/-- Attempts declarations one after the other, with the answer to each attempt. -/
def declareEach (table : OperatorTable) :
    List Declaration → OperatorTable × List (Except RegistrationError Unit)
  | [] => (table, [])
  | declaration :: rest =>
    let first := table.attemptDeclaration declaration
    let later := first.1.declareEach rest
    (later.1, first.2 :: later.2)

end OperatorTable

/-- The schemas of the declarations that keep all rules. -/
def builtSchemas (history : List Declaration) : List Schema :=
  history.filterMap fun declaration => declaration.build.toOption

variable {history : List Declaration} {schemas reordered : List Schema} {schema : Schema}
  {registry : Registry} {table : OperatorTable}

theorem acceptedIn_iff_mem (distinct : (schemas.map fun schema => schema.id).Nodup) :
    AcceptedIn schemas schema ↔ schema ∈ schemas := by
  induction schemas with
  | nil => simp [not_acceptedIn_nil]
  | cons first rest ih =>
    obtain ⟨fresh, later⟩ := List.nodup_cons.mp distinct
    rw [acceptedIn_cons_iff, ih later, List.mem_cons, eq_comm]
    refine or_congr_right (and_iff_right_of_imp fun listed same => fresh ?_)
    exact List.mem_map.mpr ⟨schema, listed, same.symm⟩

namespace Registry

theorem attemptDeclaration_eq (registry : Registry) (declaration : Declaration) :
    registry.attemptDeclaration declaration =
      match declaration.build with
      | .ok schema => registry.attempt schema
      | .error problem => (registry, .error problem) := by
  rw [attemptDeclaration, declare]
  cases declaration.build with
  | error problem => rfl
  | ok schema => rfl

theorem attemptDeclaration_refused {declaration : Declaration} {problem : RegistrationError}
    (refused : (registry.attemptDeclaration declaration).2 = .error problem) :
    (registry.attemptDeclaration declaration).1 = registry := by
  rw [attemptDeclaration] at refused ⊢
  split at refused
  · cases refused
  · rfl

theorem mem_attemptDeclaration {declaration : Declaration}
    (listed : schema ∈ (registry.attemptDeclaration declaration).1.schemas) :
    schema ∈ registry.schemas ∨ declaration.build = .ok schema := by
  rw [attemptDeclaration_eq] at listed
  cases built : declaration.build with
  | error problem =>
    rw [built] at listed
    exact .inl listed
  | ok added =>
    rw [built] at listed
    rcases mem_attempt.mp listed with before | ⟨rfl, -⟩
    · exact .inl before
    · exact .inr rfl

/-- Only the declarations that keep all rules count. -/
theorem declareEach_eq (registry : Registry) (history : List Declaration) :
    (registry.declareEach history).1 = (registry.attemptAll (builtSchemas history)).1 := by
  induction history generalizing registry with
  | nil => rfl
  | cons declaration rest ih =>
    rw [declareEach, attemptDeclaration_eq, ih]
    cases built : declaration.build with
    | error problem => simp [builtSchemas, built, Except.toOption]
    | ok schema => simp [builtSchemas, built, Except.toOption, attemptAll]

theorem mem_declareEach :
    schema ∈ (empty.declareEach history).1.schemas ↔ AcceptedIn (builtSchemas history) schema := by
  rw [declareEach_eq, mem_attemptAll]
  simp [empty, ids]

/-- Schemas of distinct identities are accepted alike in any order. -/
theorem attemptAll_reordered (registry : Registry)
    (distinct : (schemas.map fun schema => schema.id).Nodup) (same : reordered.Perm schemas) :
    (registry.attemptAll reordered).1.schemas.Perm (registry.attemptAll schemas).1.schemas := by
  have again : (reordered.map fun schema => schema.id).Nodup :=
    (same.map _).nodup_iff.mpr distinct
  have left := (registry.attemptAll reordered).1.distinct.of_map
  have right := (registry.attemptAll schemas).1.distinct.of_map
  refine (List.perm_ext_iff_of_nodup left right).mpr fun schema => ?_
  rw [mem_attemptAll, mem_attemptAll, acceptedIn_iff_mem distinct, acceptedIn_iff_mem again,
    same.mem_iff]

end Registry

namespace OperatorTable

open Tabulates

theorem attemptDeclaration_tabulates (tabulates : Tabulates table registry)
    (filled : Filled table) (declaration : Declaration) :
    Tabulates (table.attemptDeclaration declaration).1
        (registry.attemptDeclaration declaration).1 ∧
      Filled (table.attemptDeclaration declaration).1 ∧
      (table.attemptDeclaration declaration).2 = (registry.attemptDeclaration declaration).2 := by
  rw [Registry.attemptDeclaration_eq, attemptDeclaration]
  cases declaration.build with
  | error problem => exact ⟨tabulates, filled, rfl⟩
  | ok schema => exact register_tabulates tabulates filled schema

/-- A history of declarations leaves a table of what it leaves in the registry, with the same
answers. -/
theorem declareEach_tabulates (tabulates : Tabulates table registry) (filled : Filled table)
    (history : List Declaration) :
    Tabulates (table.declareEach history).1 (registry.declareEach history).1 ∧
      Filled (table.declareEach history).1 ∧
      (table.declareEach history).2 = (registry.declareEach history).2 := by
  induction history generalizing table registry with
  | nil => exact ⟨tabulates, filled, rfl⟩
  | cons declaration rest ih =>
    obtain ⟨first, filledFirst, answer⟩ :=
      attemptDeclaration_tabulates tabulates filled declaration
    obtain ⟨later, filledLater, answers⟩ := ih first filledFirst
    exact ⟨later, filledLater, congrArg₂ List.cons answer answers⟩

end OperatorTable

/-- What is known of a registry after a history of declarations. -/
structure Inventory (history : List Declaration) (registry : Registry) : Prop where
  /-- A refused declaration changes no answer. -/
  atomic : ∀ (declaration : Declaration) (problem : RegistrationError),
    (registry.attemptDeclaration declaration).2 = .error problem →
      (registry.attemptDeclaration declaration).1.observations = registry.observations
  /-- The listing goes strictly upwards, by domain, then name, then version. -/
  increasing : registry.sorted.Pairwise fun left right => left.id.rank < right.id.rank
  listed : ∀ schema, schema ∈ registry.sorted ↔ AcceptedIn (builtSchemas history) schema
  counted : registry.size = registry.sorted.length
  contained : ∀ domain name, registry.contains domain name = true ↔
    ∃ schema, AcceptedIn (builtSchemas history) schema ∧ schema.IsVersionOf domain name
  empty : registry.isEmpty = true ↔ registry.size = 0
  /-- Freezing keeps all answers. A frozen registry is a value, and a copy of it is the same. -/
  frozen : registry.freeze.observations = registry.observations
  /-- Schemas of distinct identities may be registered in any order. -/
  unordered : ∀ schemas reordered : List Schema, (schemas.map fun schema => schema.id).Nodup →
    reordered.Perm schemas → (registry.attemptAll reordered).1.observations =
      (registry.attemptAll schemas).1.observations

/-- A table answers as a registry does, also when a row was opened for a schema that is refused. -/
structure KeptAsTable (table : OperatorTable) (registry : Registry) : Prop where
  same : table.observations = registry.observations
  atomic : ∀ (declaration : Declaration) (problem : RegistrationError),
    (table.attemptDeclaration declaration).2 = .error problem →
      (table.attemptDeclaration declaration).1.observations = table.observations

/-- After every history of declarations the registry holds exactly what was accepted, in order, and
a registry that is kept as a table by operator gives the same answers. -/
theorem declareEach_inventory (history : List Declaration) :
    Inventory history (Registry.empty.declareEach history).1 ∧
      KeptAsTable (OperatorTable.empty.declareEach history).1
        (Registry.empty.declareEach history).1 ∧
      (OperatorTable.empty.declareEach history).2 = (Registry.empty.declareEach history).2 := by
  have nothing : OperatorTable.Filled .empty := fun _ listed => absurd listed List.not_mem_nil
  obtain ⟨tabulates, filled, answers⟩ :=
    OperatorTable.declareEach_tabulates .empty nothing history
  have accepted (schema : Schema) : schema ∈ (Registry.empty.declareEach history).1.schemas ↔
      AcceptedIn (builtSchemas history) schema := Registry.mem_declareEach
  generalize (Registry.empty.declareEach history).1 = registry at *
  generalize (OperatorTable.empty.declareEach history).1 = table at *
  refine ⟨?_, ⟨tabulates.observations_eq filled, ?_⟩, answers⟩
  · constructor
    case atomic =>
      intro declaration problem refused
      rw [Registry.attemptDeclaration_refused refused]
    case increasing => exact registry.sorted_increasing
    case listed =>
      intro schema
      rw [Registry.mem_sorted, accepted]
    case counted => exact registry.size_eq_length_sorted
    case contained =>
      intro domain name
      rw [Registry.contains_iff]
      simp only [accepted]
    case empty => exact Registry.isEmpty_iff_size
    case frozen => exact registry.observations_freeze
    case unordered =>
      intro schemas reordered distinct same
      exact Registry.observations_congr (registry.attemptAll_reordered distinct same)
  · intro declaration problem refused
    obtain ⟨after, filledAfter, answer⟩ :=
      OperatorTable.attemptDeclaration_tabulates tabulates filled declaration
    rw [answer] at refused
    rw [Registry.attemptDeclaration_refused refused] at after
    rw [after.observations_eq filledAfter, tabulates.observations_eq filled]

/-- A later version comes first, one declaration has no name, and one is for another domain. -/
def mixedHistory : List Declaration :=
  [{ name := "Relu", sinceVersion := 6 },
    { name := "", sinceVersion := 1 },
    { name := "Relu", sinceVersion := 1, domain := "ai.onnx" },
    { name := "Custom", sinceVersion := 1, domain := "com.example" }]

/-- The version is in the history, under the other spelling of its domain. -/
def reluAgain : Declaration := { name := "Relu", sinceVersion := 1, doc := "again" }

def earlierRelu : Schema := { id := ⟨"", "Relu", 7⟩ }

def laterRelu : Schema := { id := ⟨"", "Relu", 13⟩ }

/-- Declaring a version again is refused, and nothing shows it, in the registry or in the table.
Two further versions may come in either order. -/
theorem declareEach_inventory_again :
    let registry := (Registry.empty.declareEach mixedHistory).1
    let table := (OperatorTable.empty.declareEach mixedHistory).1
    (registry.attemptDeclaration reluAgain).2 = .error (.duplicate ⟨"", "Relu", 1⟩) ∧
      (registry.attemptDeclaration reluAgain).1.observations = registry.observations ∧
      (table.attemptDeclaration reluAgain).2 = .error (.duplicate ⟨"", "Relu", 1⟩) ∧
      (table.attemptDeclaration reluAgain).1.observations = table.observations ∧
      (registry.attemptAll [laterRelu, earlierRelu]).1.observations =
        (registry.attemptAll [earlierRelu, laterRelu]).1.observations := by
  have refused : ((Registry.empty.declareEach mixedHistory).1.attemptDeclaration reluAgain).2 =
      .error (.duplicate ⟨"", "Relu", 1⟩) := by
    decide +kernel
  have refusedInTable : ((OperatorTable.empty.declareEach mixedHistory).1.attemptDeclaration
      reluAgain).2 = .error (.duplicate ⟨"", "Relu", 1⟩) := by
    decide +kernel
  obtain ⟨inventory, kept, _⟩ := declareEach_inventory mixedHistory
  have swapped := inventory.unordered [earlierRelu, laterRelu] [laterRelu, earlierRelu] (by decide)
    (.swap earlierRelu laterRelu [])
  exact ⟨refused, inventory.atomic _ _ refused, refusedInTable,
    kept.atomic _ _ refusedInTable, swapped⟩

end ShapeFlow
