import ShapeFlow.Proofs.Registry.Lookup
import ShapeFlow.Proofs.Schema.Build

/-!
Declaring several operator versions in a row. Declarations that build are accepted up to the first
one whose identity is taken, and that one ends the row. What is accepted goes behind the schemas
that were there, so lookups change only where they reach a new version and no later one.
-/

namespace ShapeFlow

/-- The schema is built from the declaration. -/
def Builds (declaration : Declaration) (schema : Schema) : Prop :=
  declaration.build = .ok schema

variable {declaration : Declaration} {declarations : List Declaration} {schema : Schema}
  {added : List Schema}

theorem Builds.id_eq (builds : Builds declaration schema) : schema.id = declaration.id :=
  (Declaration.build_eq_ok_iff.mp builds).id_eq

theorem exists_builds_of_forall
    (each : ∀ declaration ∈ declarations, ∃ schema, Builds declaration schema) :
    ∃ added, List.Forall₂ Builds declarations added := by
  induction declarations with
  | nil => exact ⟨[], .nil⟩
  | cons first rest ih =>
    obtain ⟨⟨schema, built⟩, each⟩ := List.forall_mem_cons.mp each
    obtain ⟨added, builds⟩ := ih each
    exact ⟨schema :: added, .cons built builds⟩

theorem exists_declaration_of_mem (builds : List.Forall₂ Builds declarations added)
    (listed : schema ∈ added) : ∃ declaration ∈ declarations, Builds declaration schema := by
  induction builds with
  | nil => cases listed
  | @cons first _ _ _ built _ ih =>
    rcases List.mem_cons.mp listed with rfl | later
    · exact ⟨first, List.mem_cons_self, built⟩
    · obtain ⟨declaration, declared, built⟩ := ih later
      exact ⟨declaration, List.mem_cons_of_mem first declared, built⟩

theorem exists_schema_of_mem (builds : List.Forall₂ Builds declarations added)
    (listed : declaration ∈ declarations) : ∃ schema ∈ added, Builds declaration schema := by
  induction builds with
  | nil => cases listed
  | @cons _ schema _ _ built _ ih =>
    rcases List.mem_cons.mp listed with rfl | later
    · exact ⟨schema, List.mem_cons_self, built⟩
    · obtain ⟨other, accepted, built⟩ := ih later
      exact ⟨other, List.mem_cons_of_mem schema accepted, built⟩

namespace Registry

variable {registry extended : Registry} {found : Schema} {rest : List Declaration}
  {domain name : String} {version : Int}

theorem declare_of_builds (builds : Builds declaration schema) (registry : Registry) :
    registry.declare declaration = registry.register schema := by
  rw [declare, show declaration.build = .ok schema from builds]
  rfl

theorem declare_of_free (builds : Builds declaration schema)
    (free : declaration.id ∉ registry.ids) :
    ∃ extended, registry.declare declaration = .ok extended ∧
      extended.schemas = registry.schemas ++ [schema] := by
  rw [← builds.id_eq] at free
  rw [declare_of_builds builds]
  cases accepted : registry.register schema with
  | ok extended => exact ⟨extended, rfl, schemas_of_register accepted⟩
  | error problem => simp [register, free] at accepted

theorem declare_of_taken (builds : Builds declaration schema)
    (taken : declaration.id ∈ registry.ids) :
    registry.declare declaration = .error (.duplicate declaration.id) := by
  rw [← builds.id_eq] at taken ⊢
  rw [declare_of_builds builds, register_eq_duplicate_iff]
  exact taken

/-- Declarations under different identities that are all free are accepted, and the registry goes on
from there with whatever follows. -/
theorem declareAll_append (builds : List.Forall₂ Builds declarations added)
    (distinct : (declarations.map Declaration.id).Nodup)
    (free : ∀ declaration ∈ declarations, declaration.id ∉ registry.ids) :
    ∃ extended : Registry, extended.schemas = registry.schemas ++ added ∧
      ∀ rest, registry.declareAll (declarations ++ rest) = extended.declareAll rest := by
  induction builds generalizing registry with
  | nil => exact ⟨registry, (List.append_nil _).symm, fun rest => rfl⟩
  | @cons first schema others schemas built _ ih =>
    obtain ⟨fresh, distinct⟩ := List.nodup_cons.mp distinct
    obtain ⟨freeFirst, free⟩ := List.forall_mem_cons.mp free
    obtain ⟨next, declared, same⟩ := declare_of_free built freeFirst
    -- one more identity is taken now, and no later declaration has it
    have still : ∀ declaration ∈ others, declaration.id ∉ next.ids := by
      intro declaration listed taken
      rw [ids, same, List.map_append, List.mem_append, List.map_singleton,
        List.mem_singleton, built.id_eq] at taken
      rcases taken with before | again
      · exact free declaration listed before
      · exact fresh (again ▸ List.mem_map_of_mem listed)
    obtain ⟨extended, accepted, goesOn⟩ := ih distinct still
    refine ⟨extended, by rw [accepted, same, List.append_assoc, List.singleton_append], ?_⟩
    intro rest
    rw [List.cons_append, declareAll, declared]
    exact goesOn rest

/-- An identity that is taken ends the row, and what comes after it is not looked at. -/
theorem declareAll_cons_of_taken (builds : Builds declaration schema)
    (taken : declaration.id ∈ registry.ids) :
    registry.declareAll (declaration :: rest) =
      (registry, .error (.duplicate declaration.id)) := by
  rw [declareAll, declare_of_taken builds taken]

/-- How declarations in a row end. Either all are accepted, or the first one whose identity is taken
is reported and exactly those before it are accepted. -/
theorem declareAll_cases (registry : Registry)
    (each : ∀ declaration ∈ declarations, ∃ schema, Builds declaration schema)
    (distinct : (declarations.map Declaration.id).Nodup) :
    (∀ declaration ∈ declarations, declaration.id ∉ registry.ids) ∧
        (registry.declareAll declarations).2 = .ok () ∧
        (∃ added, List.Forall₂ Builds declarations added ∧
          (registry.declareAll declarations).1.schemas = registry.schemas ++ added) ∨
      ∃ before present rest, declarations = before ++ present :: rest ∧
        (∀ declaration ∈ before, declaration.id ∉ registry.ids) ∧ present.id ∈ registry.ids ∧
        (registry.declareAll declarations).2 = .error (.duplicate present.id) ∧
        ∃ added, List.Forall₂ Builds before added ∧
          (registry.declareAll declarations).1.schemas = registry.schemas ++ added := by
  cases first : declarations.find? fun declaration => decide (declaration.id ∈ registry.ids) with
  | none =>
    have free : ∀ declaration ∈ declarations, declaration.id ∉ registry.ids := by
      simpa using List.find?_eq_none.mp first
    obtain ⟨added, builds⟩ := exists_builds_of_forall each
    obtain ⟨extended, accepted, goesOn⟩ := declareAll_append builds distinct free
    have ended : registry.declareAll declarations = (extended, .ok ()) := by
      simpa [declareAll] using goesOn []
    rw [ended]
    exact .inl ⟨free, rfl, added, builds, accepted⟩
  | some present =>
    obtain ⟨taken, before, rest, rfl, free⟩ := List.find?_eq_some_iff_append.mp first
    have taken : present.id ∈ registry.ids := by simpa using taken
    have free : ∀ declaration ∈ before, declaration.id ∉ registry.ids := by simpa using free
    obtain ⟨each, last⟩ := List.forall_mem_append.mp each
    obtain ⟨schema, built⟩ := last present List.mem_cons_self
    obtain ⟨added, builds⟩ := exists_builds_of_forall each
    rw [List.map_append] at distinct
    obtain ⟨extended, accepted, goesOn⟩ := declareAll_append builds distinct.of_append_left free
    have still : present.id ∈ extended.ids := by
      rw [ids, accepted, List.map_append]
      exact List.mem_append_left _ taken
    rw [goesOn, declareAll_cons_of_taken built still]
    exact .inr ⟨before, present, rest, rfl, free, taken, rfl, added, builds, accepted⟩

section Lookup

variable (same : extended.schemas = registry.schemas ++ added)
include same

theorem mem_of_append :
    schema ∈ extended.schemas ↔ schema ∈ registry.schemas ∨ schema ∈ added := by
  rw [same, List.mem_append]

/-- A version that is found is found still, if no later one is reached among the added ones. -/
theorem lookup_append_of_ok
    (early : ∀ schema ∈ added, schema.IsVersionOf domain name →
      schema.id.sinceVersion ≤ version → schema.id.sinceVersion ≤ found.id.sinceVersion)
    (ended : registry.lookup domain name version = .ok found) :
    extended.lookup domain name version = .ok found := by
  rw [lookup_eq_ok_iff] at ended ⊢
  refine ⟨(mem_of_append same).mpr (.inl ended.listed), ended.operator, ended.reached, ?_⟩
  intro other listed operator within
  rcases (mem_of_append same).mp listed with before | new
  · exact ended.greatest other before operator within
  · exact early other new operator within

theorem lookup_append_of_beyond
    (beyond : ∀ schema ∈ added, schema.IsVersionOf domain name →
      version < schema.id.sinceVersion) :
    extended.lookup domain name version = registry.lookup domain name version := by
  cases ended : registry.lookup domain name version with
  | ok found =>
    refine lookup_append_of_ok same (fun schema new operator within => ?_) ended
    exact absurd within (Int.not_le.mpr (beyond schema new operator))
  | error problem =>
    rw [lookup_eq_error_iff] at ended ⊢
    refine ⟨ended.1, fun other listed operator => ?_⟩
    rcases (mem_of_append same).mp listed with before | new
    · exact ended.2 other before operator
    · exact beyond other new operator

theorem lookup_append_of_error {problem : OperatorNotFound}
    (ended : registry.lookup domain name version = .error problem)
    (effective : InEffect (· ∈ added) domain name version schema) :
    extended.lookup domain name version = .ok schema := by
  rw [lookup_eq_ok_iff]
  refine ⟨(mem_of_append same).mpr (.inr effective.listed), effective.operator,
    effective.reached, ?_⟩
  intro other listed operator within
  rcases (mem_of_append same).mp listed with before | new
  · have later := (lookup_eq_error_iff.mp ended).2 other before operator
    exact absurd within (Int.not_le.mpr later)
  · exact effective.greatest other new operator within

end Lookup

end Registry

end ShapeFlow
