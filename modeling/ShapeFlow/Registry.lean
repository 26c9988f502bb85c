import ShapeFlow.Schema.Declaration

/-!
Registries of schemas. A registry accepts each operator version once, and a lookup finds the
greatest version that does not exceed the requested one. A frozen registry answers the same
questions and accepts nothing more.
-/

namespace ShapeFlow

/-- The accepted schemas, in the order of their registration. -/
structure Registry where
  schemas : List Schema := []
  /-- No operator version is accepted twice. -/
  distinct : (schemas.map fun schema => schema.id).Nodup := by simp

namespace Registry

def empty : Registry := {}

/-- The identities of the accepted schemas. -/
def ids (registry : Registry) : List OperatorId :=
  registry.schemas.map fun schema => schema.id

/-- Accepts a schema unless its identity is taken. -/
def register (registry : Registry) (schema : Schema) : Except RegistrationError Registry :=
  if taken : schema.id ∈ registry.ids then .error (.duplicate schema.id)
  else .ok {
    schemas := registry.schemas ++ [schema]
    distinct := by
      rw [List.map_append, List.nodup_append]
      refine ⟨registry.distinct, by simp, ?_⟩
      intro id present other last same
      subst same
      exact taken ((List.mem_singleton.mp last : id = schema.id) ▸ present) }

/-- Builds a declaration and registers the schema. -/
def declare (registry : Registry) (declaration : Declaration) :
    Except RegistrationError Registry :=
  declaration.build.bind registry.register

/-- Registers declarations in order and stops at the first failure. What was accepted before the
failure stays. -/
def declareAll (registry : Registry) : List Declaration → Registry × Except RegistrationError Unit
  | [] => (registry, .ok ())
  | declaration :: rest =>
    match registry.declare declaration with
    | .error problem => (registry, .error problem)
    | .ok extended => extended.declareAll rest

/-- The schema of the greatest version. -/
def latest? : List Schema → Option Schema
  | [] => none
  | schema :: rest =>
    match latest? rest with
    | none => some schema
    | some other =>
      if other.id.sinceVersion < schema.id.sinceVersion then some schema else some other

/-- The accepted versions of an operator. The domain may be spelled either way. -/
def versions (registry : Registry) (domain name : String) : List Schema :=
  registry.schemas.filter fun schema =>
    schema.id.domain == normalizeDomain domain && schema.id.name == name

/-- The schema in effect at an opset version. -/
def lookup (registry : Registry) (domain name : String) (version : Int) :
    Except OperatorNotFound Schema :=
  match latest? ((registry.versions domain name).filter (·.id.sinceVersion ≤ version)) with
  | some schema => .ok schema
  | none => .error ⟨normalizeDomain domain, name, version⟩

/-- Whether any version of an operator is accepted. -/
def contains (registry : Registry) (domain name : String) : Bool :=
  !(registry.versions domain name).isEmpty

/-- The accepted schemas in the order of their identities. -/
def sorted (registry : Registry) : List Schema :=
  registry.schemas.mergeSort fun left right => left.id.precedes right.id

/-- The number of accepted schemas. -/
def size (registry : Registry) : Nat :=
  registry.schemas.length

def isEmpty (registry : Registry) : Bool :=
  registry.schemas.isEmpty

/-- Registration fails exactly when the identity is taken. -/
theorem register_eq_duplicate_iff (registry : Registry) (schema : Schema) :
    registry.register schema = .error (.duplicate schema.id) ↔ schema.id ∈ registry.ids := by
  by_cases taken : schema.id ∈ registry.ids <;> simp [register, taken]

theorem schemas_of_register {registry extended : Registry} {schema : Schema}
    (accepted : registry.register schema = .ok extended) :
    extended.schemas = registry.schemas ++ [schema] := by
  unfold register at accepted
  split at accepted
  · cases accepted
  · cases accepted
    rfl

end Registry

/-- A registry that accepts nothing more. -/
structure FrozenRegistry where
  registry : Registry

def Registry.freeze (registry : Registry) : FrozenRegistry := ⟨registry⟩

namespace FrozenRegistry

/-- The schema in effect at an opset version. -/
def lookup (frozen : FrozenRegistry) (domain name : String) (version : Int) :
    Except OperatorNotFound Schema :=
  frozen.registry.lookup domain name version

/-- The schema with exactly this identity. The domain is taken as it is. -/
def get? (frozen : FrozenRegistry) (id : OperatorId) : Option Schema :=
  frozen.registry.schemas.find? fun schema => schema.id == id

/-- Whether any version of an operator is accepted. -/
def contains (frozen : FrozenRegistry) (domain name : String) : Bool :=
  frozen.registry.contains domain name

/-- The accepted schemas in the order of their identities. -/
def sorted (frozen : FrozenRegistry) : List Schema :=
  frozen.registry.sorted

/-- The number of accepted schemas. -/
def size (frozen : FrozenRegistry) : Nat :=
  frozen.registry.size

def isEmpty (frozen : FrozenRegistry) : Bool :=
  frozen.registry.isEmpty

end FrozenRegistry

end ShapeFlow
