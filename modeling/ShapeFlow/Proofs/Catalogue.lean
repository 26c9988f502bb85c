import ShapeFlow.Catalogue
import ShapeFlow.Proofs.Check.Conforms
import ShapeFlow.Proofs.Inference.Family
import ShapeFlow.Proofs.Registry.Lookup
import ShapeFlow.Proofs.Schema.Build

/-!
What lookups in the registry of experimental operators find. Every schema that a lookup finds was
built from a declaration of the catalogue, so its inference function follows from its name.
-/

namespace ShapeFlow

namespace Registry

variable {registry : Registry} {schema : Schema} {declarations : List Declaration}

theorem mem_declareAll (member : schema ∈ (registry.declareAll declarations).1.schemas) :
    schema ∈ registry.schemas ∨ ∃ declaration ∈ declarations, declaration.build = .ok schema := by
  induction declarations generalizing registry with
  | nil => exact .inl member
  | cons declaration rest ih =>
    cases declared : registry.declare declaration with
    | error problem =>
      rw [declareAll, declared] at member
      exact .inl member
    | ok extended =>
      rw [declareAll, declared] at member
      rcases ih member with early | ⟨later, listed, built⟩
      · cases built : declaration.build with
        | error problem => simp [declare, built, Except.bind] at declared
        | ok added =>
          simp only [declare, built, Except.bind] at declared
          rw [schemas_of_register declared] at early
          rcases List.mem_append.mp early with before | last
          · exact .inl before
          · have same : schema = added := List.mem_singleton.mp last
            exact .inr ⟨declaration, List.mem_cons_self, same ▸ built⟩
      · exact .inr ⟨later, List.mem_cons_of_mem declaration listed, built⟩

end Registry

namespace FrozenRegistry

/-- Every inference function of a registry has a property. -/
def EveryFunction (holds : InferenceFunction → Prop) (registry : FrozenRegistry) : Prop :=
  ∀ schema ∈ registry.registry.schemas, ∀ function ∈ schema.inference, holds function

theorem EveryFunction.of_lookup {holds : InferenceFunction → Prop} {registry : FrozenRegistry}
    {domain name : String} {version : Int} {schema : Schema} {function : InferenceFunction}
    (every : registry.EveryFunction holds)
    (found : registry.lookup domain name version = .ok schema)
    (declared : schema.inference = some function) : holds function :=
  every schema (Registry.inEffect_of_lookup found).listed function declared

theorem EveryFunction.mono {holds weaker : InferenceFunction → Prop} {registry : FrozenRegistry}
    (every : registry.EveryFunction holds)
    (implied : ∀ function, holds function → weaker function) : registry.EveryFunction weaker :=
  fun schema member function declared => implied function (every schema member function declared)

theorem experimental_shared : experimental.EveryFunction InferenceFunction.Shared := by
  intro schema member function declared
  rcases Registry.mem_declareAll member with impossible | ⟨declaration, listed, built⟩
  · cases impossible
  · rw [(Declaration.build_eq_ok_iff.mp built).inference_eq] at declared
    simp only [Catalogue.experimental, List.mem_cons, List.not_mem_nil, or_false] at listed
    rcases listed with rfl | rfl | rfl | rfl | rfl | rfl | rfl <;> cases declared
    · exact .inl rfl
    · exact .inl rfl
    · exact .inr rfl
    · exact .inl rfl

section Lookup

variable {domain name : String} {version : Int} {schema : Schema}

theorem experimental_described (found : experimental.lookup domain name version = .ok schema) :
    ∃ declaration ∈ Catalogue.experimental, declaration.Describes schema ∧
      declaration.name = name := by
  obtain ⟨accepted, ⟨_, rfl⟩, _, _⟩ := Registry.inEffect_of_lookup found
  rcases Registry.mem_declareAll accepted with impossible | ⟨declaration, listed, built⟩
  · cases impossible
  · have described := Declaration.build_eq_ok_iff.mp built
    exact ⟨declaration, listed, described, by rw [described.id_eq]; rfl⟩

/-- The name of an experimental operator decides on its inference function. -/
theorem experimental_cases (found : experimental.lookup domain name version = .ok schema) :
    (name ∈ ["ThresholdedRelu", "ScaledTanh", "Scale"] ∧
        schema.inference = some .passThrough) ∨
      (name = "GivenTensorFill" ∧ schema.inference = some .fill ∧
        ∀ spec ∈ schema.attributes, spec.default? = none) ∨
      (name ∈ ["GRUUnit", "ATen", "DynamicSlice"] ∧ schema.inference = none) := by
  obtain ⟨declaration, listed, described, rfl⟩ := experimental_described found
  rw [described.attributes_eq, described.inference_eq]
  simp only [Catalogue.experimental, List.mem_cons, List.not_mem_nil, or_false] at listed
  rcases listed with rfl | rfl | rfl | rfl | rfl | rfl | rfl
  · exact .inl ⟨by decide, rfl⟩
  · exact .inl ⟨by decide, rfl⟩
  · exact .inr (.inl ⟨rfl, rfl, by simp [Catalogue.givenTensorFill, AttributeSpec.default?]⟩)
  · exact .inl ⟨by decide, rfl⟩
  · exact .inr (.inr ⟨by decide, rfl⟩)
  · exact .inr (.inr ⟨by decide, rfl⟩)
  · exact .inr (.inr ⟨by decide, rfl⟩)

private theorem unary_of_describes {declaration : Declaration} {input output : SlotDeclaration}
    (described : declaration.Describes schema) (inputs : declaration.inputs = [input])
    (outputs : declaration.outputs = [output]) (single : output.arity = .single)
    (shared : input.typeText = output.typeText)
    (among : output.typeText ∈ declaration.constraints.map ConstraintDeclaration.typeVariable) :
    schema.toSignature.Unary output.typeText := by
  rw [← Declaration.typeVariables_of_resolveConstraints described.constraints] at among
  obtain ⟨first, onlyInput, _, inputType⟩ :=
    Declaration.slot_of_resolveSlots_singleton (inputs ▸ described.inputs) (shared ▸ among)
  obtain ⟨last, onlyOutput, arity, outputType⟩ :=
    Declaration.slot_of_resolveSlots_singleton (outputs ▸ described.outputs) among
  refine ⟨⟨first, ?_, shared ▸ inputType⟩, last, onlyOutput, arity.trans single, outputType⟩
  simp [Signature.slotAt?, Signature.slots, onlyInput, Slot.at?]

/-- An experimental operator with an inference function has one required output, of the element type
of its first input. -/
theorem experimental_unary (found : experimental.lookup domain name version = .ok schema)
    (inferring : schema.inference ≠ none) : schema.toSignature.Unary "T" := by
  obtain ⟨declaration, listed, described, rfl⟩ := experimental_described found
  rw [described.inference_eq] at inferring
  simp only [Catalogue.experimental, List.mem_cons, List.not_mem_nil, or_false] at listed
  rcases listed with rfl | rfl | rfl | rfl | rfl | rfl | rfl
  · exact unary_of_describes described rfl rfl rfl rfl (by decide)
  · exact unary_of_describes described rfl rfl rfl rfl (by decide)
  · exact unary_of_describes described rfl rfl rfl rfl (by decide)
  · exact unary_of_describes described rfl rfl rfl rfl (by decide)
  · exact absurd rfl inferring
  · exact absurd rfl inferring
  · exact absurd rfl inferring

theorem experimental_fill_attributes
    (found : experimental.lookup domain "GivenTensorFill" version = .ok schema) :
    schema.attributes = Catalogue.givenTensorFill.attributes := by
  obtain ⟨declaration, listed, described, named⟩ := experimental_described found
  rw [described.attributes_eq]
  simp only [Catalogue.experimental, List.mem_cons, List.not_mem_nil, or_false] at listed
  rcases listed with rfl | rfl | rfl | rfl | rfl | rfl | rfl
  case inr.inr.inl => rfl
  all_goals exact absurd named (by decide)

end Lookup

end FrozenRegistry

end ShapeFlow
