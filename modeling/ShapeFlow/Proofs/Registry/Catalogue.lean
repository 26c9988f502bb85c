import Mathlib
import ShapeFlow.Proofs.Catalogue
import ShapeFlow.Proofs.ElementType
import ShapeFlow.Proofs.Registry.Batch
import ShapeFlow.Proofs.Registry.Inventory
import ShapeFlow.Proofs.Schema.Acceptance

/-!
Registering the experimental operators in a registry that holds anything already. All of them build,
so only an operator that is there as version 1 of the default domain stops the registration. What
was added up to then is the oldest version of its operator, so no lookup that found something
changes.
-/

namespace ShapeFlow

namespace Catalogue

variable {declaration : Declaration}

theorem names_experimental :
    experimental.map Declaration.name =
      ["ThresholdedRelu", "ScaledTanh", "GivenTensorFill", "Scale", "GRUUnit", "ATen",
        "DynamicSlice"] := rfl

theorem id_of_mem_experimental (listed : declaration ∈ experimental) :
    declaration.id = ⟨"", declaration.name, 1⟩ := by
  have same : ∀ declaration ∈ experimental, declaration.id = ⟨"", declaration.name, 1⟩ := by
    decide
  exact same declaration listed

theorem ids_experimental_nodup : (experimental.map Declaration.id).Nodup := by
  decide

theorem allowed_experimental (listed : declaration ∈ experimental) :
    ∀ constraint ∈ declaration.constraints, ∀ typeText ∈ constraint.allowed,
      ∃ type, ElementType.parse? typeText = some type := by
  have spelled : ∀ declaration ∈ experimental, ∀ constraint ∈ declaration.constraints,
      ∀ typeText ∈ constraint.allowed, typeText ∈ ElementType.allTypeStrings := by
    decide
  intro constraint declared typeText allowed
  obtain ⟨type, -, rfl⟩ := List.mem_map.mp (spelled declaration listed constraint declared
    typeText allowed)
  exact ⟨type, ElementType.parse?_eq_some_iff.mpr (ElementType.parse_typeString type)⟩

theorem slotsFit_experimental (listed : declaration ∈ experimental) (side : Side) :
    Declaration.SlotsFit declaration.typeVariables (declaration.slots side) where
  indexed := by
    have counted : ∀ declaration ∈ experimental,
        ((declaration.slots side).map SlotDeclaration.index).Perm
          (List.range (declaration.slots side).length) := by
      cases side <;> decide
    exact counted declaration listed
  typed := by
    have named : ∀ declaration ∈ experimental, ∀ slot ∈ declaration.slots side,
        slot.typeText ∈ declaration.typeVariables := by
      cases side <;> decide
    exact fun slot declared => .inl (named declaration listed slot declared)
  variadicLast := by
    have last : ∀ declaration ∈ experimental, ∀ slot ∈ declaration.slots side,
        slot.arity = .variadic → slot.index + 1 = (declaration.slots side).length := by
      cases side <;> decide
    exact last declaration listed

/-- Every experimental operator keeps all rules. -/
theorem wellFormed_experimental (listed : declaration ∈ experimental) :
    declaration.WellFormed := by
  have rules : ∀ declaration ∈ experimental,
      declaration.name ≠ "" ∧ 1 ≤ declaration.sinceVersion ∧
      (declaration.attributes.map AttributeSpec.name).Nodup ∧
      (∀ spec ∈ declaration.attributes, ∀ value ∈ spec.default?, value.kind = spec.kind) ∧
      declaration.typeVariables.Nodup ∧
      ∀ constraint ∈ declaration.constraints, constraint.allowed ≠ [] := by
    decide
  obtain ⟨named, versioned, attributesDistinct, defaultsFit, variablesDistinct, allowedNonempty⟩ :=
    rules declaration listed
  exact {
    named, versioned, attributesDistinct, defaultsFit, variablesDistinct, allowedNonempty
    allowedRead := allowed_experimental listed
    slotsFit := slotsFit_experimental listed }

theorem exists_builds (listed : declaration ∈ experimental) :
    ∃ schema, Builds declaration schema :=
  Declaration.exists_build_iff.mpr (wellFormed_experimental listed)

end Catalogue

namespace Registry

open Catalogue

variable {registry extended : Registry} {declarations : List Declaration} {schema : Schema}
  {added : List Schema}

/-- The registries that registrations lead to, whatever is answered: of schemas that were built, of
declarations, and of declarations in a row. -/
inductive Reachable : Registry → Prop
  | empty : Reachable .empty
  | attempted {registry : Registry} {declaration : Declaration} {schema : Schema}
      (reachable : Reachable registry) (builds : Builds declaration schema) :
      Reachable (registry.attempt schema).1
  | declared {registry : Registry} (reachable : Reachable registry) (declaration : Declaration) :
      Reachable (registry.attemptDeclaration declaration).1
  | declaredAll {registry : Registry} (reachable : Reachable registry)
      (declarations : List Declaration) : Reachable (registry.declareAll declarations).1

/-- Only built schemas are ever registered. -/
theorem Reachable.exists_builds (reachable : registry.Reachable)
    (listed : schema ∈ registry.schemas) : ∃ declaration, Builds declaration schema := by
  induction reachable with
  | empty => cases listed
  | @attempted registry declaration other _ builds ih =>
    rcases mem_attempt.mp listed with before | ⟨rfl, -⟩
    · exact ih before
    · exact ⟨declaration, builds⟩
  | declared _ declaration ih =>
    rcases mem_attemptDeclaration listed with before | built
    · exact ih before
    · exact ⟨declaration, built⟩
  | declaredAll _ declarations ih =>
    rcases mem_declareAll listed with before | ⟨declaration, -, built⟩
    · exact ih before
    · exact ⟨declaration, built⟩

theorem Reachable.one_le (reachable : registry.Reachable) (listed : schema ∈ registry.schemas) :
    1 ≤ schema.id.sinceVersion := by
  obtain ⟨declaration, builds⟩ := reachable.exists_builds listed
  have described := Declaration.build_eq_ok_iff.mp builds
  rw [described.id_eq]
  exact described.versioned

/-- Version 1 of an operator of the default domain is registered. -/
def HoldsFirst (registry : Registry) (name : String) : Prop :=
  ⟨"", name, 1⟩ ∈ registry.ids

instance (registry : Registry) (name : String) : Decidable (registry.HoldsFirst name) :=
  inferInstanceAs (Decidable (_ ∈ _))

/-- Some operators of the catalogue are added to a registry, and nothing else changes. -/
structure Adds (registry : Registry) (declarations : List Declaration) (extended : Registry) :
    Prop where
  /-- Their schemas go behind those that were there. -/
  schemas : ∃ added, List.Forall₂ Builds declarations added ∧
    extended.schemas = registry.schemas ++ added
  /-- A lookup of another operator, or below version 1, ends as before. -/
  others : ∀ (domain name : String) (version : Int),
    (∀ declaration ∈ declarations, normalizeDomain domain = "" → declaration.name = name →
      version < 1) →
        extended.lookup domain name version = registry.lookup domain name version
  /-- So does every lookup that found a version already. -/
  kept : ∀ (domain name : String) (version : Int) (found : Schema),
    registry.lookup domain name version = .ok found →
      extended.lookup domain name version = .ok found
  /-- All other lookups find what was added. -/
  gained : ∀ declaration ∈ declarations, ∀ (domain : String) (version : Int)
    (problem : OperatorNotFound), normalizeDomain domain = "" → 1 ≤ version →
      registry.lookup domain declaration.name version = .error problem →
        ∃ schema, Builds declaration schema ∧
          extended.lookup domain declaration.name version = .ok schema

/-- What is added from the catalogue is not later than what a reachable registry holds. -/
theorem Reachable.adds (reachable : registry.Reachable)
    (listed : ∀ declaration ∈ declarations, declaration ∈ experimental)
    (builds : List.Forall₂ Builds declarations added)
    (same : extended.schemas = registry.schemas ++ added) :
    Adds registry declarations extended := by
  have identified {schema : Schema} (new : schema ∈ added) :
      ∃ declaration ∈ declarations, schema.id = ⟨"", declaration.name, 1⟩ := by
    obtain ⟨declaration, declared, built⟩ := exists_declaration_of_mem builds new
    exact ⟨declaration, declared, built.id_eq.trans (id_of_mem_experimental (listed _ declared))⟩
  have first {schema : Schema} (new : schema ∈ added) : schema.id.sinceVersion = 1 := by
    obtain ⟨declaration, -, id⟩ := identified new
    rw [id]
  constructor
  case schemas => exact ⟨added, builds, same⟩
  case others =>
    intro domain name version apart
    refine lookup_append_of_beyond same fun schema new operator => ?_
    obtain ⟨declaration, declared, id⟩ := identified new
    obtain ⟨domainEq, nameEq⟩ := operator
    rw [id] at domainEq nameEq ⊢
    exact apart declaration declared domainEq.symm nameEq
  case kept =>
    intro domain name version found ended
    refine lookup_append_of_ok same (fun schema new _ _ => ?_) ended
    -- what is added is version 1, and a reachable registry holds nothing earlier
    rw [first new]
    exact reachable.one_le (lookup_eq_ok_iff.mp ended).listed
  case gained =>
    intro declaration declared domain version problem normalized reached missing
    obtain ⟨schema, new, built⟩ := exists_schema_of_mem builds declared
    have id := built.id_eq.trans (id_of_mem_experimental (listed declaration declared))
    refine ⟨schema, built, lookup_append_of_error same missing ⟨new, ⟨?_, ?_⟩, ?_, ?_⟩⟩
    · rw [id, normalized]
    · rw [id]
    · rwa [first new]
    · intro other listed _ _
      rw [first listed, first new]

/-- What registering the catalogue does to a registry, and what is answered. -/
structure CatalogueOutcome (registry extended : Registry)
    (answer : Except RegistrationError Unit) : Prop where
  /-- It succeeds exactly if no operator of the catalogue is there as version 1. -/
  succeeds : answer = .ok () ↔
    ∀ declaration ∈ experimental, ¬registry.HoldsFirst declaration.name
  /-- Then the whole catalogue is added. -/
  complete : answer = .ok () → Adds registry experimental extended
  /-- Otherwise the first operator that is there is reported, and exactly those before it are
  added. -/
  stopped : answer ≠ .ok () → ∃ before present rest, experimental = before ++ present :: rest ∧
    (∀ declaration ∈ before, ¬registry.HoldsFirst declaration.name) ∧
    registry.HoldsFirst present.name ∧
    answer = .error (.duplicate ⟨"", present.name, 1⟩) ∧ Adds registry before extended
  /-- No operator of the catalogue breaks a rule. -/
  sound : ∀ id rule, answer ≠ .error (.definition id rule)

/-- Whatever a registry holds, the catalogue is added up to the first operator that is there. -/
theorem declareExperimental_outcome (reachable : registry.Reachable) :
    CatalogueOutcome registry registry.declareExperimental.1 registry.declareExperimental.2 := by
  have taken_iff {declaration : Declaration} (listed : declaration ∈ experimental) :
      declaration.id ∈ registry.ids ↔ registry.HoldsFirst declaration.name := by
    rw [id_of_mem_experimental listed, HoldsFirst]
  rw [declareExperimental]
  rcases registry.declareAll_cases (fun _ listed => exists_builds listed) ids_experimental_nodup
    with ⟨free, answer, added, builds, same⟩ |
      ⟨before, present, rest, split, free, taken, answer, added, builds, same⟩
  · rw [answer]
    have absent : ∀ declaration ∈ experimental, ¬registry.HoldsFirst declaration.name :=
      fun declaration listed => (taken_iff listed).not.mp (free declaration listed)
    exact {
      succeeds := ⟨fun _ => absent, fun _ => rfl⟩
      complete := fun _ => reachable.adds (fun _ listed => listed) builds same
      stopped := fun failed => absurd rfl failed
      sound := fun _ _ => nofun }
  · rw [answer]
    have here : present ∈ experimental := by simp [split]
    have earlier : ∀ declaration ∈ before, declaration ∈ experimental := by
      intro declaration listed
      rw [split]
      exact List.mem_append_left _ listed
    have held := (taken_iff here).mp taken
    exact {
      succeeds := ⟨nofun, fun absent => absurd held (absent present here)⟩
      complete := nofun
      stopped := fun _ => ⟨before, present, rest, split,
        fun declaration listed => (taken_iff (earlier declaration listed)).not.mp
          (free declaration listed),
        held, by rw [id_of_mem_experimental here], reachable.adds earlier builds same⟩
      sound := fun _ _ => nofun }

/-- A later version of one operator of the catalogue, another operator of the name of one, and the
operator before the last one. -/
def occupied : Registry :=
  (((empty.attemptDeclaration { name := "Scale", sinceVersion := 3, domain := "ai.onnx" }).1
    |>.attemptDeclaration { name := "GRUUnit", sinceVersion := 1, domain := "com.example" }).1
    |>.attemptDeclaration { name := "ATen", sinceVersion := 1 }).1

theorem occupied_reachable : occupied.Reachable :=
  .declared (.declared (.declared .empty _) _) _

/-- The registration stops at the operator that is there. The later version stays in effect, and the
operator of the other domain stands in nobody's way. -/
theorem declareExperimental_outcome_occupied :
    occupied.Reachable ∧
      occupied.declareExperimental.2 = .error (.duplicate ⟨"", "ATen", 1⟩) ∧
      (∃ before, before.map Declaration.name =
          ["ThresholdedRelu", "ScaledTanh", "GivenTensorFill", "Scale", "GRUUnit"] ∧
        Adds occupied before occupied.declareExperimental.1) ∧
      occupied.declareExperimental.1.lookup "" "Scale" 5 = .ok { id := ⟨"", "Scale", 3⟩ } := by
  have outcome := declareExperimental_outcome occupied_reachable
  have held : occupied.HoldsFirst "ATen" := by decide +kernel
  have only : ∀ declaration ∈ experimental, occupied.HoldsFirst declaration.name →
      declaration.name = "ATen" := by
    decide +kernel
  have listed : ∃ declaration ∈ experimental, declaration.name = "ATen" := by decide
  obtain ⟨declaration, listed, named⟩ := listed
  have failed : occupied.declareExperimental.2 ≠ .ok () :=
    fun done => outcome.succeeds.mp done declaration listed (named ▸ held)
  obtain ⟨before, present, rest, split, free, taken, answer, adds⟩ := outcome.stopped failed
  have last : present.name = "ATen" := only present (by simp [split]) taken
  have names : experimental.map Declaration.name =
      before.map Declaration.name ++ "ATen" :: rest.map Declaration.name := by
    rw [split, List.map_append, List.map_cons, last]
  have fresh : ∀ name ∈ before.map Declaration.name, (name != "ATen") = true := by
    intro name listed
    obtain ⟨declaration, declared, rfl⟩ := List.mem_map.mp listed
    rw [bne_iff_ne]
    intro same
    exact free declaration declared (same ▸ held)
  refine ⟨occupied_reachable, by rw [answer, last], ⟨before, ?_, adds⟩, ?_⟩
  · have cut : (experimental.map Declaration.name).takeWhile (· != "ATen") =
        before.map Declaration.name := by
      rw [names, List.takeWhile_append_of_pos fresh, List.takeWhile_cons_of_neg (by simp),
        List.append_nil]
    rw [← cut, names_experimental]
    decide
  · exact adds.kept "" "Scale" 5 _ (by cbv)

end Registry

end ShapeFlow
