import ShapeFlow.Proofs.Registry.Lookup
import ShapeFlow.Proofs.Schema.Build

/-!
Histories of registrations. A registry keeps the first schema that was registered under each
identity and refuses the others, so what lookups find after a history follows from the history
alone.
-/

namespace ShapeFlow

namespace Registry

/-- An attempt to register a schema. A refusal leaves the registry as it was. -/
def attempt (registry : Registry) (schema : Schema) : Registry × Except RegistrationError Unit :=
  match registry.register schema with
  | .ok extended => (extended, .ok ())
  | .error problem => (registry, .error problem)

/-- Attempts to register schemas one after the other, with the answer to each attempt. -/
def attemptAll (registry : Registry) :
    List Schema → Registry × List (Except RegistrationError Unit)
  | [] => (registry, [])
  | schema :: rest =>
    let first := registry.attempt schema
    let later := first.1.attemptAll rest
    (later.1, first.2 :: later.2)

end Registry

/-- The registration at a place of a history is the first one of its identity. -/
structure FirstAt (history : List Schema) (place : Nat) (schema : Schema) : Prop where
  listed : history[place]? = some schema
  fresh : ∀ (earlier : Nat) (other : Schema), earlier < place → history[earlier]? = some other →
    other.id ≠ schema.id

/-- A schema is registered in a history before any other one of its identity. -/
def AcceptedIn (history : List Schema) (schema : Schema) : Prop :=
  ∃ place, FirstAt history place schema

variable {history : List Schema} {first schema : Schema} {place : Nat} {registry : Registry}
  {id : OperatorId}

theorem firstAt_cons_zero_iff : FirstAt (first :: history) 0 schema ↔ first = schema := by
  refine ⟨fun here => Option.some.inj here.listed, ?_⟩
  rintro rfl
  exact ⟨rfl, fun _ _ impossible => absurd impossible (Nat.not_lt_zero _)⟩

theorem firstAt_cons_succ_iff :
    FirstAt (first :: history) (place + 1) schema ↔
      first.id ≠ schema.id ∧ FirstAt history place schema := by
  constructor
  · intro here
    refine ⟨here.fresh 0 first (Nat.succ_pos place) rfl, here.listed, ?_⟩
    intro earlier other before listed
    exact here.fresh (earlier + 1) other (Nat.succ_lt_succ before) listed
  · rintro ⟨different, here⟩
    refine ⟨here.listed, fun earlier other before listed => ?_⟩
    cases earlier with
    | zero => exact Option.some.inj listed ▸ different
    | succ earlier => exact here.fresh earlier other (Nat.lt_of_succ_lt_succ before) listed

theorem not_acceptedIn_nil : ¬ AcceptedIn [] schema := by
  rintro ⟨place, here⟩
  cases here.listed

theorem acceptedIn_cons_iff :
    AcceptedIn (first :: history) schema ↔
      first = schema ∨ first.id ≠ schema.id ∧ AcceptedIn history schema := by
  constructor
  · rintro ⟨place, here⟩
    cases place with
    | zero => exact .inl (firstAt_cons_zero_iff.mp here)
    | succ place =>
      obtain ⟨different, later⟩ := firstAt_cons_succ_iff.mp here
      exact .inr ⟨different, place, later⟩
  · rintro (same | ⟨different, place, later⟩)
    · exact ⟨0, firstAt_cons_zero_iff.mpr same⟩
    · exact ⟨place + 1, firstAt_cons_succ_iff.mpr ⟨different, later⟩⟩

namespace Registry

/-- An attempt is refused exactly when the identity is taken. -/
theorem attempt_cases (registry : Registry) (schema : Schema) :
    (schema.id ∈ registry.ids ∧
        registry.attempt schema = (registry, .error (.duplicate schema.id))) ∨
      (schema.id ∉ registry.ids ∧ ∃ extended : Registry,
        registry.attempt schema = (extended, .ok ()) ∧
          extended.schemas = registry.schemas ++ [schema]) := by
  by_cases taken : schema.id ∈ registry.ids
  · have refused := (register_eq_duplicate_iff registry schema).mpr taken
    exact .inl ⟨taken, by rw [attempt, refused]⟩
  · cases accepted : registry.register schema with
    | ok extended =>
      exact .inr ⟨taken, extended, by rw [attempt, accepted], schemas_of_register accepted⟩
    | error problem => simp [register, taken] at accepted

theorem mem_ids_attempt :
    id ∈ (registry.attempt schema).1.ids ↔ schema.id = id ∨ id ∈ registry.ids := by
  rcases registry.attempt_cases schema with ⟨taken, ended⟩ | ⟨_, extended, ended, same⟩
  · rw [ended]
    exact ⟨.inr, fun either => either.elim (fun this => this ▸ taken) fun before => before⟩
  · rw [ended, ids, same, List.map_append, List.mem_append, or_comm]
    simp [ids, eq_comm]

theorem mem_attempt {other : Schema} :
    other ∈ (registry.attempt schema).1.schemas ↔
      other ∈ registry.schemas ∨ schema = other ∧ other.id ∉ registry.ids := by
  rcases registry.attempt_cases schema with ⟨taken, ended⟩ | ⟨free, extended, ended, same⟩
  · rw [ended]
    exact (or_iff_left fun both => both.2 (both.1 ▸ taken)).symm
  · rw [ended, same, List.mem_append, List.mem_singleton]
    exact or_congr_right ⟨fun here => ⟨here.symm, here ▸ free⟩, fun both => both.1.symm⟩

/-- A history adds the schemas that it accepts under identities that were not taken before. -/
theorem mem_attemptAll (registry : Registry) :
    schema ∈ (registry.attemptAll history).1.schemas ↔
      schema ∈ registry.schemas ∨ AcceptedIn history schema ∧ schema.id ∉ registry.ids := by
  induction history generalizing registry with
  | nil => simp [attemptAll, not_acceptedIn_nil]
  | cons first rest ih =>
    rw [attemptAll, ih, mem_attempt, mem_ids_attempt, acceptedIn_cons_iff]
    have taken : schema ∈ registry.schemas → schema.id ∈ registry.ids := List.mem_map_of_mem
    grind

/-- An attempt in a history is accepted exactly when it is the first one of its identity, and that
identity was not taken before. -/
theorem answer_attemptAll (registry : Registry) (listed : history[place]? = some schema) :
    (registry.attemptAll history).2[place]? = some (.ok ()) ∧
        FirstAt history place schema ∧ schema.id ∉ registry.ids ∨
      (registry.attemptAll history).2[place]? = some (.error (.duplicate schema.id)) ∧
        ¬ (FirstAt history place schema ∧ schema.id ∉ registry.ids) := by
  induction history generalizing registry place with
  | nil => simp at listed
  | cons first rest ih =>
    cases place with
    | zero =>
      cases listed
      rw [firstAt_cons_zero_iff]
      rcases registry.attempt_cases schema with ⟨taken, ended⟩ | ⟨free, extended, ended, _⟩
      · exact .inr ⟨by simp [attemptAll, ended], fun both => both.2 taken⟩
      · exact .inl ⟨by simp [attemptAll, ended], rfl, free⟩
    | succ place =>
      have later := ih (registry.attempt first).1 listed
      rw [mem_ids_attempt] at later
      rw [firstAt_cons_succ_iff]
      simp only [attemptAll, List.getElem?_cons_succ]
      grind

theorem length_attemptAll (registry : Registry) (history : List Schema) :
    (registry.attemptAll history).2.length = history.length := by
  induction history generalizing registry with
  | nil => rfl
  | cons first rest ih => rw [attemptAll, List.length_cons, ih, List.length_cons]

/-- What a history of registrations determines: the answer to each of them, and what the registry
says of every operator at every opset version, before it is frozen and afterwards. -/
structure Determined (history : List Schema) (registry : Registry)
    (answers : List (Except RegistrationError Unit)) : Prop where
  counted : answers.length = history.length
  /-- The first registration of an identity is accepted, and every later one is refused. -/
  answered : ∀ (place : Nat) (schema : Schema), history[place]? = some schema →
    answers[place]? = some (.ok ()) ∧ FirstAt history place schema ∨
      answers[place]? = some (.error (.duplicate schema.id)) ∧ ¬ FirstAt history place schema
  /-- A lookup finds the greatest accepted version that the opset version reaches. -/
  found : ∀ (domain name : String) (version : Int) (schema : Schema),
    registry.lookup domain name version = .ok schema ↔
      InEffect (AcceptedIn history) domain name version schema
  /-- It fails exactly when the opset version reaches no accepted version. -/
  missing : ∀ (domain name : String) (version : Int) (problem : OperatorNotFound),
    registry.lookup domain name version = .error problem ↔
      problem = ⟨normalizeDomain domain, name, version⟩ ∧
        ∀ schema, AcceptedIn history schema → schema.IsVersionOf domain name →
          version < schema.id.sinceVersion
  /-- At its own version an accepted schema is found itself, however its domain is spelled. -/
  own : ∀ schema, AcceptedIn history schema → ∀ domain : String,
    normalizeDomain domain = normalizeDomain schema.id.domain →
      registry.lookup domain schema.id.name schema.id.sinceVersion = .ok schema
  /-- What is found at an opset version is found at every later one, or a greater version is. -/
  grows : ∀ (domain name : String) (lower upper : Int) (schema : Schema), lower ≤ upper →
    registry.lookup domain name lower = .ok schema →
      ∃ later, registry.lookup domain name upper = .ok later ∧
        schema.id.sinceVersion ≤ later.id.sinceVersion
  frozen : registry.freeze.lookup = registry.lookup
  /-- Only the accepted schema of an identity is found under it. -/
  exact : ∀ (domain name : String) (version : Int) (schema : Schema),
    registry.freeze.get? (.normalized domain name version) = some schema ↔
      AcceptedIn history schema ∧ schema.id = .normalized domain name version

/-- A history of built schemas determines what the registry says. -/
theorem attemptAll_determined
    (built : ∀ schema ∈ history, ∃ declaration : Declaration, declaration.build = .ok schema) :
    Determined history (empty.attemptAll history).1 (empty.attemptAll history).2 := by
  have untaken (id : OperatorId) : id ∉ empty.ids := by simp [ids, empty]
  have holds : (· ∈ (empty.attemptAll history).1.schemas) = AcceptedIn history := by
    funext schema
    have absent : schema ∉ empty.schemas := List.not_mem_nil
    simp only [mem_attemptAll, absent, untaken, not_false_eq_true, and_true, false_or]
  have accepted {schema : Schema} :
      schema ∈ (empty.attemptAll history).1.schemas ↔ AcceptedIn history schema :=
    iff_of_eq (congrFun holds schema)
  constructor
  case counted => exact length_attemptAll empty history
  case answered =>
    intro place schema listed
    have answer := answer_attemptAll empty listed
    simpa only [untaken, not_false_eq_true, and_true] using answer
  case found =>
    intro domain name version schema
    rw [lookup_eq_ok_iff, holds]
  case missing =>
    intro domain name version problem
    simp only [lookup_eq_error_iff, accepted]
  case own =>
    intro schema here domain spelled
    obtain ⟨_, first⟩ := here
    obtain ⟨declaration, built⟩ := built schema (List.mem_of_getElem? first.listed)
    rw [Declaration.normalizeDomain_of_build built] at spelled
    rw [lookup_eq_ok_iff]
    exact ⟨accepted.mpr ⟨_, first⟩, ⟨spelled.symm, rfl⟩, Int.le_refl _, fun _ _ _ within => within⟩
  case grows =>
    intro domain name lower upper schema ordered
    exact lookup_grows ordered
  case frozen => rfl
  case exact =>
    intro domain name version schema
    rw [FrozenRegistry.get?_eq_some_iff, ← accepted]
    rfl

/-- A version of an operator in the default domain. -/
def reluVersion (version : Int) (doc : String) : Schema :=
  { id := ⟨"", "Relu", version⟩, doc }

private theorem build_reluVersion {version : Int} (recent : 1 ≤ version) (doc : String) :
    Declaration.build { name := "Relu", sinceVersion := version, domain := "ai.onnx", doc } =
      .ok (reluVersion version doc) := by
  rw [Declaration.build_eq_ok_iff]
  have named : "Relu" ≠ "" := by decide
  refine ⟨named, recent, rfl, rfl, ?_, ?_, ?_⟩
  · simp [Declaration.sortSlots, Declaration.resolveSlots, reluVersion]
  · simp [Declaration.sortSlots, Declaration.resolveSlots, reluVersion]
  · simp [Declaration.id, OperatorId.normalized, normalizeDomain, defaultDomain, reluVersion]

/-- A later version comes first, and the earlier one is registered twice. -/
def reluHistory : List Schema :=
  [reluVersion 6 "later", reluVersion 1 "earlier", reluVersion 1 "again"]

/-- The second registration of a version is refused and leaves the first one in effect. -/
theorem attemptAll_determined_relu :
    (empty.attemptAll reluHistory).2[2]? = some (.error (.duplicate ⟨"", "Relu", 1⟩)) ∧
      (empty.attemptAll reluHistory).1.lookup "ai.onnx" "Relu" 1 =
        .ok (reluVersion 1 "earlier") := by
  have built : ∀ schema ∈ reluHistory, ∃ declaration : Declaration,
      declaration.build = .ok schema := by
    simp only [reluHistory, List.forall_mem_cons, List.not_mem_nil, false_imp_iff, implies_true,
      and_true]
    exact ⟨⟨_, build_reluVersion (by decide) _⟩, ⟨_, build_reluVersion (by decide) _⟩,
      ⟨_, build_reluVersion (by decide) _⟩⟩
  have determined := attemptAll_determined built
  have earlier : FirstAt reluHistory 1 (reluVersion 1 "earlier") :=
    firstAt_cons_succ_iff.mpr ⟨by decide, firstAt_cons_zero_iff.mpr rfl⟩
  constructor
  · rcases determined.answered 2 (reluVersion 1 "again") rfl with ⟨_, first⟩ | ⟨refused, _⟩
    · exact (first.fresh 1 (reluVersion 1 "earlier") (by decide) earlier.listed rfl).elim
    · exact refused
  · exact determined.own (reluVersion 1 "earlier") ⟨1, earlier⟩ "ai.onnx" (by decide)

end Registry

end ShapeFlow
