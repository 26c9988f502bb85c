import Mathlib.Data.List.Nodup
import ShapeFlow.Registry

/-!
What lookups find. A lookup finds the greatest accepted version that the requested opset version
reaches, and it fails exactly when the opset version reaches none.
-/

namespace ShapeFlow

/-- A schema is a version of an operator, whose domain may be spelled either way. -/
structure Schema.IsVersionOf (schema : Schema) (domain name : String) : Prop where
  domain : schema.id.domain = normalizeDomain domain
  name : schema.id.name = name

/-- The greatest version of an operator, among accepted schemas, that an opset version reaches. -/
structure InEffect (accepted : Schema → Prop) (domain name : String) (version : Int)
    (schema : Schema) : Prop where
  listed : accepted schema
  operator : schema.IsVersionOf domain name
  reached : schema.id.sinceVersion ≤ version
  greatest : ∀ other, accepted other → other.IsVersionOf domain name →
    other.id.sinceVersion ≤ version → other.id.sinceVersion ≤ schema.id.sinceVersion

namespace Registry

variable {registry : Registry} {schema other : Schema} {schemas : List Schema}
  {domain name : String} {version : Int}

theorem eq_of_id_eq (left : schema ∈ registry.schemas) (right : other ∈ registry.schemas)
    (same : schema.id = other.id) : schema = other :=
  List.inj_on_of_nodup_map registry.distinct left right same

theorem mem_versions :
    schema ∈ registry.versions domain name ↔
      schema ∈ registry.schemas ∧ schema.IsVersionOf domain name := by
  simp only [versions, List.mem_filter, Bool.and_eq_true, beq_iff_eq]
  exact and_congr_right fun _ => ⟨fun both => ⟨both.1, both.2⟩, fun of => ⟨of.domain, of.name⟩⟩

theorem latest?_eq_none_iff : latest? schemas = none ↔ schemas = [] := by
  cases schemas with
  | nil => simp [latest?]
  | cons first rest =>
    simp only [latest?, reduceCtorEq, iff_false]
    split
    · simp
    · split <;> simp

theorem latest?_greatest (found : latest? schemas = some schema) :
    schema ∈ schemas ∧
      ∀ other ∈ schemas, other.id.sinceVersion ≤ schema.id.sinceVersion := by
  induction schemas generalizing schema with
  | nil => cases found
  | cons first rest ih =>
    rw [latest?] at found
    split at found
    · rename_i none
      cases found
      rw [latest?_eq_none_iff.mp none]
      simp
    · rename_i last latest
      obtain ⟨listed, greatest⟩ := ih latest
      split at found
      · rename_i earlier
        cases found
        refine ⟨List.mem_cons_self,
          List.forall_mem_cons.mpr ⟨Int.le_refl _, fun other member => ?_⟩⟩
        exact Int.le_trans (greatest other member) (Int.le_of_lt earlier)
      · rename_i later
        cases found
        exact ⟨List.mem_cons_of_mem first listed,
          List.forall_mem_cons.mpr ⟨Int.not_lt.mp later, greatest⟩⟩

theorem inEffect_of_lookup (found : registry.lookup domain name version = .ok schema) :
    InEffect (· ∈ registry.schemas) domain name version schema := by
  unfold lookup at found
  split at found
  · rename_i latest
    cases found
    obtain ⟨eligible, greatest⟩ := latest?_greatest latest
    obtain ⟨listed, reached⟩ := List.mem_filter.mp eligible
    obtain ⟨accepted, operator⟩ := mem_versions.mp listed
    refine ⟨accepted, operator, by simpa using reached, fun other member same within => ?_⟩
    have version := mem_versions.mpr ⟨member, same⟩
    exact greatest other (List.mem_filter.mpr ⟨version, by simpa using within⟩)
  · cases found

theorem lookup_eq_error_iff {problem : OperatorNotFound} :
    registry.lookup domain name version = .error problem ↔
      problem = ⟨normalizeDomain domain, name, version⟩ ∧
        ∀ schema ∈ registry.schemas, schema.IsVersionOf domain name →
          version < schema.id.sinceVersion := by
  have none_iff : latest? ((registry.versions domain name).filter
      (·.id.sinceVersion ≤ version)) = none ↔
      ∀ schema ∈ registry.schemas, schema.IsVersionOf domain name →
        version < schema.id.sinceVersion := by
    simp only [latest?_eq_none_iff, List.filter_eq_nil_iff, mem_versions, decide_eq_true_eq,
      Int.not_le, and_imp]
  rw [← none_iff]
  unfold lookup
  split
  · rename_i found
    simp [found]
  · rename_i none
    simp [none, eq_comm]

theorem inEffect_unique (first : InEffect (· ∈ registry.schemas) domain name version schema)
    (second : InEffect (· ∈ registry.schemas) domain name version other) : schema = other := by
  refine eq_of_id_eq first.listed second.listed ?_
  have versions : schema.id.sinceVersion = other.id.sinceVersion :=
    Int.le_antisymm (second.greatest schema first.listed first.operator first.reached)
      (first.greatest other second.listed second.operator second.reached)
  rw [OperatorId.mk.injEq]
  exact ⟨first.operator.domain.trans second.operator.domain.symm,
    first.operator.name.trans second.operator.name.symm, versions⟩

/-- A lookup finds exactly the version that is in effect. -/
theorem lookup_eq_ok_iff :
    registry.lookup domain name version = .ok schema ↔
      InEffect (· ∈ registry.schemas) domain name version schema := by
  refine ⟨inEffect_of_lookup, fun effective => ?_⟩
  cases ended : registry.lookup domain name version with
  | ok found => rw [inEffect_unique (inEffect_of_lookup ended) effective]
  | error problem =>
    have beyond := (lookup_eq_error_iff.mp ended).2 schema effective.listed effective.operator
    exact absurd effective.reached (Int.not_le.mpr beyond)

/-- At a later opset version a lookup finds the same version or a greater one. -/
theorem lookup_grows {lower upper : Int} (ordered : lower ≤ upper)
    (found : registry.lookup domain name lower = .ok schema) :
    ∃ later, registry.lookup domain name upper = .ok later ∧
      schema.id.sinceVersion ≤ later.id.sinceVersion := by
  have effective := inEffect_of_lookup found
  have within := Int.le_trans effective.reached ordered
  cases ended : registry.lookup domain name upper with
  | ok later =>
    exact ⟨later, rfl, (inEffect_of_lookup ended).greatest schema effective.listed
      effective.operator within⟩
  | error problem =>
    have beyond := (lookup_eq_error_iff.mp ended).2 schema effective.listed effective.operator
    exact absurd within (Int.not_le.mpr beyond)

end Registry

theorem FrozenRegistry.get?_eq_some_iff {frozen : FrozenRegistry} {id : OperatorId}
    {schema : Schema} :
    frozen.get? id = some schema ↔ schema ∈ frozen.registry.schemas ∧ schema.id = id := by
  constructor
  · intro found
    exact ⟨List.mem_of_find?_eq_some found, by simpa using List.find?_some found⟩
  · rintro ⟨listed, rfl⟩
    cases found : frozen.get? schema.id with
    | none => simpa using List.find?_eq_none.mp found schema listed
    | some other =>
      have same : other.id = schema.id := by simpa using List.find?_some found
      rw [Registry.eq_of_id_eq (List.mem_of_find?_eq_some found) listed same]

end ShapeFlow
