import Mathlib.Data.Prod.Lex
import Mathlib.Data.String.Basic
import ShapeFlow.Proofs.Registry.Lookup

/-!
Everything that can be asked of a registry. The answers depend on which schemas were accepted, and
not on the order in which they were. The listing goes strictly upwards, by domain, then name, then
version.
-/

namespace ShapeFlow

namespace OperatorId

/-- Domain, name and version, compared in this order. -/
def rank (id : OperatorId) : String ×ₗ String ×ₗ Int :=
  toLex (id.domain, toLex (id.name, id.sinceVersion))

theorem rank_injective : Function.Injective rank := by
  intro left right same
  obtain ⟨domain, rest⟩ := Prod.mk.inj (toLex.injective same)
  obtain ⟨name, version⟩ := Prod.mk.inj (toLex.injective rest)
  rw [OperatorId.mk.injEq]
  exact ⟨domain, name, version⟩

theorem precedes_iff {left right : OperatorId} :
    left.precedes right = true ↔ left.rank ≤ right.rank := by
  simp [precedes, rank, Prod.Lex.toLex_le_toLex]

end OperatorId

/-- The answers to all questions about a registry. -/
@[ext]
structure Observations where
  lookup : String → String → Int → Except OperatorNotFound Schema
  contains : String → String → Bool
  sorted : List Schema
  size : Nat
  isEmpty : Bool
  get? : OperatorId → Option Schema

/-- What a frozen registry answers. -/
def FrozenRegistry.observations (frozen : FrozenRegistry) : Observations where
  lookup := frozen.lookup
  contains := frozen.contains
  sorted := frozen.sorted
  size := frozen.size
  isEmpty := frozen.isEmpty
  get? := frozen.get?

namespace Registry

/-- What a registry answers. Exact identities are asked for once it is frozen. -/
def observations (registry : Registry) : Observations where
  lookup := registry.lookup
  contains := registry.contains
  sorted := registry.sorted
  size := registry.size
  isEmpty := registry.isEmpty
  get? := registry.freeze.get?

variable {registry left right : Registry} {schema : Schema} {domain name : String}

theorem contains_iff :
    registry.contains domain name = true ↔
      ∃ schema ∈ registry.schemas, schema.IsVersionOf domain name := by
  rw [contains, Bool.not_eq_true', List.isEmpty_eq_false_iff_exists_mem]
  simp only [mem_versions]

theorem sorted_perm (registry : Registry) : registry.sorted.Perm registry.schemas :=
  List.mergeSort_perm _ _

theorem mem_sorted : schema ∈ registry.sorted ↔ schema ∈ registry.schemas :=
  registry.sorted_perm.mem_iff

/-- Identities are listed strictly upwards, since none is accepted twice. -/
theorem sorted_increasing (registry : Registry) :
    registry.sorted.Pairwise fun left right => left.id.rank < right.id.rank := by
  have ordered : registry.sorted.Pairwise fun left right => left.id.precedes right.id = true := by
    apply List.pairwise_mergeSort
    · intro first second third before after
      rw [OperatorId.precedes_iff] at before after ⊢
      exact before.trans after
    · intro first second
      rw [Bool.or_eq_true, OperatorId.precedes_iff, OperatorId.precedes_iff]
      exact le_total _ _
  have distinct : registry.sorted.Pairwise fun left right => left.id ≠ right.id :=
    List.pairwise_map.mp ((registry.sorted_perm.map _).nodup_iff.mpr registry.distinct)
  refine (ordered.and distinct).imp fun {first second} both => ?_
  refine lt_of_le_of_ne (OperatorId.precedes_iff.mp both.1) fun same => ?_
  exact both.2 (OperatorId.rank_injective same)

theorem sorted_congr (same : left.schemas.Perm right.schemas) : left.sorted = right.sorted := by
  refine List.Perm.eq_of_pairwise ?_ left.sorted_increasing right.sorted_increasing ?_
  · intro first second _ _ before after
    exact absurd after (lt_asymm before)
  · exact (left.sorted_perm.trans same).trans right.sorted_perm.symm

theorem lookup_congr (same : ∀ schema, schema ∈ left.schemas ↔ schema ∈ right.schemas) :
    left.lookup = right.lookup := by
  have accepted : (· ∈ left.schemas) = (· ∈ right.schemas) :=
    funext fun schema => propext (same schema)
  funext domain name version
  cases ended : right.lookup domain name version with
  | ok schema => rw [lookup_eq_ok_iff, accepted, ← lookup_eq_ok_iff, ended]
  | error problem =>
    rw [lookup_eq_error_iff] at ended ⊢
    exact ⟨ended.1, fun schema listed => ended.2 schema ((same schema).mp listed)⟩

/-- The order of acceptance cannot be told from the answers. -/
theorem observations_congr (same : left.schemas.Perm right.schemas) :
    left.observations = right.observations := by
  have listed (schema : Schema) : schema ∈ left.schemas ↔ schema ∈ right.schemas := same.mem_iff
  ext1
  case lookup => exact lookup_congr listed
  case contains =>
    funext domain name
    rw [observations, observations, Bool.eq_iff_iff, contains_iff, contains_iff]
    simp only [listed]
  case sorted => exact sorted_congr same
  case size => exact same.length_eq
  case isEmpty => exact same.isEmpty_eq
  case get? =>
    funext id
    apply Option.ext
    intro schema
    simp only [observations, FrozenRegistry.get?_eq_some_iff, freeze, listed]

theorem size_eq_length_sorted (registry : Registry) : registry.size = registry.sorted.length :=
  registry.sorted_perm.length_eq.symm

theorem isEmpty_iff_size : registry.isEmpty = true ↔ registry.size = 0 := by
  rw [isEmpty, size, List.isEmpty_iff, List.length_eq_zero_iff]

theorem observations_freeze (registry : Registry) :
    registry.freeze.observations = registry.observations := rfl

end Registry

end ShapeFlow
