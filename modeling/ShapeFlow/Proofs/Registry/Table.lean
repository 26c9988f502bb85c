import Mathlib
import ShapeFlow.Proofs.Registry.History
import ShapeFlow.Proofs.Registry.Observations

/-!
Registries kept as tables. A table has one row for each operator, which holds its versions, and a
registration opens the row before it looks for the version. No row stays empty for all that, so
whether an operator is present and whether the table is empty can be read off the rows alone, and
the table answers as the registry does.
-/

namespace ShapeFlow

/-- Domain and name, without the version. -/
def OperatorId.operator (id : OperatorId) : String × String :=
  (id.domain, id.name)

/-- The accepted schemas, in one row for each operator. -/
structure OperatorTable where
  rows : List ((String × String) × List Schema) := []

namespace OperatorTable

def empty : OperatorTable := {}

def operators (table : OperatorTable) : List (String × String) :=
  table.rows.map Prod.fst

/-- The versions in the row of an operator, if it has a row. -/
def row? (table : OperatorTable) (operator : String × String) : Option (List Schema) :=
  (table.rows.find? fun row => row.1 == operator).map Prod.snd

/-- Adds an empty row for an operator without one. -/
def openRow (table : OperatorTable) (operator : String × String) : OperatorTable :=
  if operator ∈ table.operators then table else ⟨table.rows ++ [(operator, [])]⟩

/-- Adds a version to the row of its operator. -/
def extendRow (table : OperatorTable) (schema : Schema) : OperatorTable :=
  ⟨table.rows.map fun row =>
    if row.1 = schema.id.operator then (row.1, row.2 ++ [schema]) else row⟩

/-- Opens the row of the operator, and adds the schema unless the row has its version. -/
def register (table : OperatorTable) (schema : Schema) :
    OperatorTable × Except RegistrationError Unit :=
  let opened := table.openRow schema.id.operator
  let versions := (opened.row? schema.id.operator).getD []
  if versions.any (·.id.sinceVersion == schema.id.sinceVersion) then
    (opened, .error (.duplicate schema.id))
  else (opened.extendRow schema, .ok ())

def lookup (table : OperatorTable) (domain name : String) (version : Int) :
    Except OperatorNotFound Schema :=
  match (table.row? (normalizeDomain domain, name)).bind fun versions =>
      Registry.latest? (versions.filter (·.id.sinceVersion ≤ version)) with
  | some schema => .ok schema
  | none => .error ⟨normalizeDomain domain, name, version⟩

/-- All versions, row by row. -/
def schemas (table : OperatorTable) : List Schema :=
  table.rows.flatMap Prod.snd

/-- What a table answers. Only the rows are asked for presence, whatever they hold. -/
def observations (table : OperatorTable) : Observations where
  lookup := table.lookup
  contains domain name := (table.row? (normalizeDomain domain, name)).isSome
  sorted := table.schemas.mergeSort fun left right => left.id.precedes right.id
  size := (table.rows.map fun row => row.2.length).sum
  isEmpty := table.rows.isEmpty
  get? id := (table.row? id.operator).bind fun versions =>
    versions.find? fun schema => schema.id.sinceVersion == id.sinceVersion

variable {table : OperatorTable} {registry : Registry} {schema : Schema}
  {operator : String × String}

/-- The schemas of an operator in a registry. -/
def versionsIn (registry : Registry) (operator : String × String) : List Schema :=
  registry.schemas.filter fun schema => schema.id.operator == operator

theorem mem_versionsIn :
    schema ∈ versionsIn registry operator ↔
      schema ∈ registry.schemas ∧ schema.id.operator = operator := by
  rw [versionsIn, List.mem_filter, beq_iff_eq]

theorem versions_eq (registry : Registry) (domain name : String) :
    registry.versions domain name = versionsIn registry (normalizeDomain domain, name) := rfl

/-- Every row holds the versions that a registry has of its operator, and none is missing. -/
structure Tabulates (table : OperatorTable) (registry : Registry) : Prop where
  distinct : table.operators.Nodup
  held : ∀ row ∈ table.rows, row.2 = versionsIn registry row.1
  covered : ∀ schema ∈ registry.schemas, schema.id.operator ∈ table.operators

/-- No row is empty. -/
def Filled (table : OperatorTable) : Prop :=
  ∀ row ∈ table.rows, row.2 ≠ []

namespace Tabulates

theorem empty : Tabulates OperatorTable.empty .empty where
  distinct := List.nodup_nil
  held _ listed := absurd listed List.not_mem_nil
  covered _ listed := absurd listed List.not_mem_nil

theorem row?_of_mem (tabulates : Tabulates table registry) (present : operator ∈ table.operators) :
    table.row? operator = some (versionsIn registry operator) := by
  obtain ⟨row, listed, rfl⟩ := List.mem_map.mp present
  cases found : table.rows.find? fun other => other.1 == row.1 with
  | none => exact absurd (beq_self_eq_true row.1) (List.find?_eq_none.mp found row listed)
  | some other =>
    have called : other.1 = row.1 := by simpa using List.find?_some found
    rw [row?, found, Option.map_some, tabulates.held other (List.mem_of_find?_eq_some found),
      called]

theorem row?_of_not_mem (absent : operator ∉ table.operators) : table.row? operator = none := by
  rw [row?, Option.map_eq_none_iff, List.find?_eq_none]
  intro row listed called
  exact absent (List.mem_map.mpr ⟨row, listed, by simpa using called⟩)

theorem versionsIn_eq_nil (tabulates : Tabulates table registry)
    (absent : operator ∉ table.operators) : versionsIn registry operator = [] := by
  rw [List.eq_nil_iff_forall_not_mem]
  intro schema listed
  obtain ⟨accepted, rfl⟩ := mem_versionsIn.mp listed
  exact absent (tabulates.covered schema accepted)

/-- An answer read off a row is read off the versions of the operator, if it is none without a
version. -/
theorem row?_bind {α : Type} (tabulates : Tabulates table registry)
    {answer : List Schema → Option α} (silent : answer [] = none) :
    (table.row? operator).bind answer = answer (versionsIn registry operator) := by
  by_cases present : operator ∈ table.operators
  · rw [tabulates.row?_of_mem present, Option.bind_some]
  · rw [row?_of_not_mem present, tabulates.versionsIn_eq_nil present, silent, Option.bind_none]

theorem openRow (tabulates : Tabulates table registry) (operator : String × String) :
    Tabulates (table.openRow operator) registry ∧
      operator ∈ (table.openRow operator).operators := by
  by_cases present : operator ∈ table.operators
  · rw [OperatorTable.openRow, if_pos present]
    exact ⟨tabulates, present⟩
  · rw [OperatorTable.openRow, if_neg present]
    have operators : OperatorTable.operators ⟨table.rows ++ [(operator, [])]⟩ =
        table.operators ++ [operator] := List.map_append
    refine ⟨⟨?_, ?_, ?_⟩, ?_⟩
    · rw [operators, ← List.concat_eq_append]
      exact tabulates.distinct.concat present
    · intro row listed
      rcases List.mem_append.mp listed with before | last
      · exact tabulates.held row before
      · obtain rfl := List.mem_singleton.mp last
        exact (tabulates.versionsIn_eq_nil present).symm
    · intro schema accepted
      rw [operators]
      exact List.mem_append_left _ (tabulates.covered schema accepted)
    · rw [operators]
      exact List.mem_append_right _ (List.mem_singleton_self operator)

theorem operators_extendRow (table : OperatorTable) (schema : Schema) :
    (table.extendRow schema).operators = table.operators := by
  rw [operators, extendRow, List.map_map, operators]
  apply List.map_congr_left
  intro row _
  simp only [Function.comp]
  split <;> rfl

theorem extendRow (tabulates : Tabulates table registry) {extended : Registry}
    (opened : schema.id.operator ∈ table.operators)
    (added : extended.schemas = registry.schemas ++ [schema]) :
    Tabulates (table.extendRow schema) extended := by
  have versions (operator : String × String) : versionsIn extended operator =
      versionsIn registry operator ++ if schema.id.operator = operator then [schema] else [] := by
    by_cases here : schema.id.operator = operator <;> simp [versionsIn, added, here]
  refine ⟨?_, ?_, ?_⟩
  · rw [operators_extendRow]
    exact tabulates.distinct
  · intro row listed
    obtain ⟨before, member, rfl⟩ := List.mem_map.mp listed
    rw [versions]
    by_cases here : before.1 = schema.id.operator
    · simp [here, tabulates.held before member]
    · simp [here, Ne.symm here, tabulates.held before member]
  · intro other accepted
    rw [operators_extendRow]
    rw [added, List.mem_append, List.mem_singleton] at accepted
    rcases accepted with before | rfl
    · exact tabulates.covered other before
    · exact opened

theorem any_version_iff (tabulates : Tabulates table registry) (schema : Schema)
    (opened : schema.id.operator ∈ table.operators) :
    ((table.row? schema.id.operator).getD []).any
        (·.id.sinceVersion == schema.id.sinceVersion) = true ↔ schema.id ∈ registry.ids := by
  rw [tabulates.row?_of_mem opened, Option.getD_some, List.any_eq_true, Registry.ids, List.mem_map]
  constructor
  · rintro ⟨other, listed, version⟩
    obtain ⟨accepted, operator⟩ := mem_versionsIn.mp listed
    obtain ⟨domain, name⟩ := Prod.mk.inj operator
    refine ⟨other, accepted, ?_⟩
    rw [OperatorId.mk.injEq]
    exact ⟨domain, name, by simpa using version⟩
  · rintro ⟨other, accepted, same⟩
    exact ⟨other, mem_versionsIn.mpr ⟨accepted, by rw [same]⟩, by simp [same]⟩

end Tabulates

/-- A registration does to a table what the attempt does to the registry, with the same answer. A
refused version stands in a row already, so no empty row is left behind. -/
theorem register_tabulates (tabulates : Tabulates table registry) (filled : Filled table)
    (schema : Schema) :
    Tabulates (table.register schema).1 (registry.attempt schema).1 ∧
      Filled (table.register schema).1 ∧
      (table.register schema).2 = (registry.attempt schema).2 := by
  obtain ⟨opened, present⟩ := tabulates.openRow schema.id.operator
  have version := opened.any_version_iff schema present
  rcases registry.attempt_cases schema with ⟨taken, ended⟩ | ⟨free, extended, ended, added⟩
  · rw [OperatorTable.register, if_pos (version.mpr taken), ended]
    refine ⟨opened, ?_, rfl⟩
    obtain ⟨other, accepted, same⟩ := List.mem_map.mp taken
    have already : schema.id.operator ∈ table.operators :=
      same ▸ tabulates.covered other accepted
    rwa [OperatorTable.openRow, if_pos already]
  · rw [OperatorTable.register, if_neg fun listed => free (version.mp listed), ended]
    refine ⟨opened.extendRow present added, ?_, rfl⟩
    intro row listed
    obtain ⟨before, member, rfl⟩ := List.mem_map.mp listed
    split
    · simp
    · rename_i different
      rw [OperatorTable.openRow] at member
      split at member
      · exact filled before member
      · rcases List.mem_append.mp member with old | last
        · exact filled before old
        · rw [List.mem_singleton.mp last] at different
          exact absurd rfl different

namespace Tabulates

theorem lookup_eq (tabulates : Tabulates table registry) : table.lookup = registry.lookup := by
  funext domain name version
  rw [OperatorTable.lookup, tabulates.row?_bind rfl, ← versions_eq]
  rfl

/-- Without empty rows, an operator has a row exactly when it has a version. -/
theorem mem_operators_iff (tabulates : Tabulates table registry) (filled : Filled table) :
    operator ∈ table.operators ↔ versionsIn registry operator ≠ [] := by
  refine ⟨?_, fun versions => ?_⟩
  · intro present
    obtain ⟨row, listed, rfl⟩ := List.mem_map.mp present
    rw [← tabulates.held row listed]
    exact filled row listed
  · by_contra absent
    exact versions (tabulates.versionsIn_eq_nil absent)

theorem contains_eq (tabulates : Tabulates table registry) (filled : Filled table)
    (domain name : String) :
    (table.row? (normalizeDomain domain, name)).isSome = registry.contains domain name := by
  rw [Registry.contains, versions_eq]
  by_cases present : (normalizeDomain domain, name) ∈ table.operators
  · have versions := (tabulates.mem_operators_iff filled).mp present
    rw [tabulates.row?_of_mem present, Option.isSome_some, List.isEmpty_eq_false_iff.mpr versions]
    rfl
  · rw [row?_of_not_mem present, tabulates.versionsIn_eq_nil present]
    rfl

theorem schemas_perm (tabulates : Tabulates table registry) :
    table.schemas.Perm registry.schemas := by
  have accepted : registry.schemas.Nodup := registry.distinct.of_map _
  have rows : table.rows.flatMap Prod.snd =
      table.rows.flatMap fun row => versionsIn registry row.1 :=
    List.flatMap_congr tabulates.held
  rw [schemas, rows]
  refine (List.perm_ext_iff_of_nodup ?_ accepted).mpr fun schema => ?_
  · refine List.nodup_flatMap.mpr ⟨fun row _ => accepted.filter _, ?_⟩
    refine (List.pairwise_map.mp tabulates.distinct).imp fun {first second} different => ?_
    intro schema here there
    exact different ((mem_versionsIn.mp here).2.symm.trans (mem_versionsIn.mp there).2)
  · rw [List.mem_flatMap]
    constructor
    · rintro ⟨row, _, listed⟩
      exact (mem_versionsIn.mp listed).1
    · intro listed
      obtain ⟨row, member, same⟩ := List.mem_map.mp (tabulates.covered schema listed)
      exact ⟨row, member, mem_versionsIn.mpr ⟨listed, same.symm⟩⟩

theorem sorted_eq (tabulates : Tabulates table registry) :
    table.observations.sorted = registry.sorted := by
  have distinct : (table.schemas.map fun schema => schema.id).Nodup :=
    (tabulates.schemas_perm.map _).nodup_iff.mpr registry.distinct
  have same : Registry.sorted ⟨table.schemas, distinct⟩ = registry.sorted :=
    Registry.sorted_congr tabulates.schemas_perm
  exact same

theorem get?_eq (tabulates : Tabulates table registry) (id : OperatorId) :
    table.observations.get? id = registry.freeze.get? id := by
  obtain ⟨domain, name, version⟩ := id
  have identified (schema : Schema) : ((schema.id.operator == (domain, name)) = true ∧
      (schema.id.sinceVersion == version) = true) ↔ schema.id = ⟨domain, name, version⟩ := by
    generalize schema.id = other
    cases other
    simp [OperatorId.operator, and_assoc]
  calc table.observations.get? ⟨domain, name, version⟩
      = (versionsIn registry (domain, name)).find? (·.id.sinceVersion == version) :=
        tabulates.row?_bind rfl
    _ = registry.schemas.find? fun schema => decide (schema.id = ⟨domain, name, version⟩) := by
        rw [versionsIn, List.find?_filter]
        simp only [identified]
    _ = registry.freeze.get? ⟨domain, name, version⟩ := rfl

theorem isEmpty_eq (tabulates : Tabulates table registry) (filled : Filled table) :
    table.rows.isEmpty = registry.isEmpty := by
  rw [Bool.eq_iff_iff, Registry.isEmpty, List.isEmpty_iff, List.isEmpty_iff]
  constructor
  · intro none
    rw [List.eq_nil_iff_forall_not_mem]
    intro schema accepted
    have present := tabulates.covered schema accepted
    simp [operators, none] at present
  · intro none
    rw [List.eq_nil_iff_forall_not_mem]
    intro row listed
    apply filled row listed
    rw [tabulates.held row listed, versionsIn, none, List.filter_nil]

/-- A table answers as the registry that it tabulates. -/
theorem observations_eq (tabulates : Tabulates table registry) (filled : Filled table) :
    table.observations = registry.observations := by
  ext1
  case lookup => exact tabulates.lookup_eq
  case contains =>
    funext domain name
    exact tabulates.contains_eq filled domain name
  case sorted => exact tabulates.sorted_eq
  case size =>
    have counted := tabulates.schemas_perm.length_eq
    rwa [schemas, List.length_flatMap] at counted
  case isEmpty =>
    exact tabulates.isEmpty_eq filled
  case get? =>
    funext id
    exact tabulates.get?_eq id

end Tabulates

end OperatorTable

end ShapeFlow
