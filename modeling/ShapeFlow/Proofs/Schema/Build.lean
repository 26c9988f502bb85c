import Mathlib.Data.List.Forall2
import ShapeFlow.Proofs.Except
import ShapeFlow.Schema.Declaration

/-!
What building a declaration comes to. A declaration becomes a schema exactly when every check
passes, and then the schema holds what was declared, with the slots and type variables resolved.
-/

namespace ShapeFlow.Declaration

variable {declaration : Declaration} {schema : Schema}

/-- A declaration keeps every rule, and the schema is what it describes. -/
structure Describes (declaration : Declaration) (schema : Schema) : Prop where
  named : declaration.name ≠ ""
  versioned : 1 ≤ declaration.sinceVersion
  attributesFit : checkAttributes [] declaration.attributes = .ok ()
  constraints : resolveConstraints [] declaration.constraints = .ok schema.constraints
  inputs : resolveSlots .input schema.constraints 0 (sortSlots declaration.inputs) =
    .ok schema.inputs
  outputs : resolveSlots .output schema.constraints 0 (sortSlots declaration.outputs) =
    .ok schema.outputs
  kept : schema = {
    id := declaration.id
    doc := declaration.doc
    attributes := declaration.attributes
    inputs := schema.inputs
    outputs := schema.outputs
    constraints := schema.constraints
    support := declaration.support
    permissiveness := declaration.permissiveness
    inference := declaration.inference }

namespace Describes

theorem id_eq (described : declaration.Describes schema) : schema.id = declaration.id := by
  rw [described.kept]

theorem attributes_eq (described : declaration.Describes schema) :
    schema.attributes = declaration.attributes := by
  rw [described.kept]

theorem inference_eq (described : declaration.Describes schema) :
    schema.inference = declaration.inference := by
  rw [described.kept]

end Describes

theorem check_eq_ok_iff : declaration.check = .ok schema ↔ declaration.Describes schema := by
  constructor
  · intro checked
    unfold check at checked
    split at checked
    · cases checked
    · rename_i named
      split at checked
      · cases checked
      · rename_i versioned
        simp only [bind, Except.bind, pure, Except.pure] at checked
        split at checked
        · cases checked
        · rename_i attributesFit
          split at checked
          · cases checked
          · rename_i constraints
            split at checked
            · cases checked
            · rename_i inputs
              split at checked
              · cases checked
              · rename_i outputs
                cases checked
                exact ⟨named, by omega, attributesFit, constraints, inputs, outputs, rfl⟩
  · rintro ⟨named, versioned, attributesFit, constraints, inputs, outputs, kept⟩
    have recent : ¬ declaration.sinceVersion < 1 := by omega
    rw [kept]
    simp [check, named, recent, attributesFit, constraints, inputs, outputs, bind, Except.bind,
      pure, Except.pure]

theorem build_eq_ok_iff : declaration.build = .ok schema ↔ declaration.Describes schema := by
  rw [← check_eq_ok_iff, build, mapError_eq_ok_iff]

/-- A slot is what its declaration says, with the type text resolved. -/
structure SlotDescribes (constraints : List TypeConstraint) (declared : SlotDeclaration)
    (slot : Slot) : Prop where
  type : slotType? constraints declared.typeText = some slot.type
  name : slot.name = declared.name
  arity : slot.arity = declared.arity
  doc : slot.doc = declared.doc

theorem cons_of_resolveSlots {side : Side} {constraints : List TypeConstraint} {position : Nat}
    {declared : SlotDeclaration} {rest : List SlotDeclaration} {slots : List Slot}
    (resolved : resolveSlots side constraints position (declared :: rest) = .ok slots) :
    declared.index = position ∧ (declared.arity = .variadic → rest = []) ∧ ∃ type others,
      slotType? constraints declared.typeText = some type ∧
        resolveSlots side constraints (position + 1) rest = .ok others ∧
        slots = ⟨declared.name, type, declared.arity, declared.doc⟩ :: others := by
  rw [resolveSlots] at resolved
  split at resolved
  · cases resolved
  · rename_i placed
    split at resolved
    · cases resolved
    · rename_i alone
      split at resolved
      · cases resolved
      · rename_i type found
        refine ⟨not_not.mp placed, fun variadic => not_not.mp fun more => alone ⟨variadic, more⟩,
          type, ?_⟩
        obtain ⟨others, later, same⟩ := exists_of_map_eq_ok resolved
        exact ⟨others, found, later, same.symm⟩

theorem slots_of_resolveSlots {side : Side} {constraints : List TypeConstraint} {position : Nat}
    {declared : List SlotDeclaration} {slots : List Slot}
    (resolved : resolveSlots side constraints position declared = .ok slots) :
    List.Forall₂ (SlotDescribes constraints) declared slots := by
  induction declared generalizing position slots with
  | nil =>
    cases resolved
    exact .nil
  | cons slot rest ih =>
    obtain ⟨_, _, type, others, found, later, rfl⟩ := cons_of_resolveSlots resolved
    exact .cons ⟨found, rfl, rfl, rfl⟩ (ih later)

theorem cons_of_resolveConstraints {seen : List String} {declared : ConstraintDeclaration}
    {rest : List ConstraintDeclaration} {constraints : List TypeConstraint}
    (resolved : resolveConstraints seen (declared :: rest) = .ok constraints) :
    declared.typeVariable ∉ seen ∧ declared.allowed ≠ [] ∧ ∃ types others,
      readAllowed declared.typeVariable declared.allowed = .ok types ∧
        resolveConstraints (declared.typeVariable :: seen) rest = .ok others ∧
        constraints = ⟨declared.typeVariable, types.eraseDups, declared.doc⟩ :: others := by
  rw [resolveConstraints] at resolved
  split at resolved
  · cases resolved
  · rename_i fresh
    split at resolved
    · cases resolved
    · rename_i nonempty
      split at resolved
      · cases resolved
      · rename_i types read
        refine ⟨fresh, nonempty, types, ?_⟩
        obtain ⟨others, later, same⟩ := exists_of_map_eq_ok resolved
        exact ⟨others, read, later, same.symm⟩

theorem typeVariables_of_resolveConstraints {seen : List String}
    {declared : List ConstraintDeclaration} {constraints : List TypeConstraint}
    (resolved : resolveConstraints seen declared = .ok constraints) :
    constraints.map TypeConstraint.typeVariable =
      declared.map ConstraintDeclaration.typeVariable := by
  induction declared generalizing seen constraints with
  | nil =>
    cases resolved
    rfl
  | cons constraint rest ih =>
    obtain ⟨_, _, types, others, _, later, rfl⟩ := cons_of_resolveConstraints resolved
    rw [List.map_cons, List.map_cons, ih later]

/-- A declared type variable stands for itself. -/
theorem slotType?_of_typeVariable {constraints : List TypeConstraint} {typeText : String}
    (declared : typeText ∈ constraints.map TypeConstraint.typeVariable) :
    slotType? constraints typeText = some (.typeVariable typeText) := by
  obtain ⟨constraint, listed, same⟩ := List.mem_map.mp declared
  have found : constraints.any (·.typeVariable == typeText) = true :=
    List.any_eq_true.mpr ⟨constraint, listed, by simp [same]⟩
  rw [slotType?, if_pos found]

theorem slot_of_resolveSlots_singleton {side : Side} {constraints : List TypeConstraint}
    {declared : SlotDeclaration} {slots : List Slot}
    (resolved : resolveSlots side constraints 0 (sortSlots [declared]) = .ok slots)
    (among : declared.typeText ∈ constraints.map TypeConstraint.typeVariable) :
    ∃ slot, slots = [slot] ∧ slot.arity = declared.arity ∧
      slot.type = .typeVariable declared.typeText := by
  rw [sortSlots, List.mergeSort_singleton] at resolved
  cases slots_of_resolveSlots resolved with
  | cons described rest =>
    cases rest
    have type := described.type
    rw [slotType?_of_typeVariable among] at type
    exact ⟨_, rfl, described.arity, (Option.some.inj type).symm⟩

theorem normalizeDomain_of_build (built : declaration.build = .ok schema) :
    normalizeDomain schema.id.domain = schema.id.domain := by
  rw [(build_eq_ok_iff.mp built).id_eq]
  exact normalizeDomain_normalizeDomain declaration.domain

end ShapeFlow.Declaration
