import ShapeFlow.Check.Arity
import ShapeFlow.Check.Attributes
import ShapeFlow.Proofs.Check.Assignment

/-!
What it means for a node to pass its checks. A side with one required slot has one operand, which is
present. Present attributes have their declared kinds. Where the only output has the element type of
the first input, the two agree once the type variables are bound.
-/

namespace ShapeFlow

namespace Check

variable {signature : Signature} {side : Side} {slot : Slot} {operands : List String}
  {spec : AttributeSpec} {values : NameMap AttributeValue} {value : AttributeValue}

theorem operand_of_single (single : slot.arity = .single)
    (quiet : sideArity side [slot] operands = []) : ∃ name, operands = [name] ∧ name ≠ "" := by
  have least : Slot.minCount [slot] = 1 := by simp [Slot.minCount, single]
  have greatest : Slot.maxCount? [slot] = some 1 := by simp [Slot.maxCount?, single]
  rw [sideArity, least, greatest] at quiet
  match operands with
  | [] => simp at quiet
  | [name] =>
    refine ⟨name, rfl, ?_⟩
    rintro rfl
    simp [absentOperands, single] at quiet
  | _ :: _ :: _ => simp at quiet

theorem kind_eq_of_attributes (conforms : attributes signature values = [])
    (declared : spec ∈ signature.attributes) (held : values.get? spec.name = some value) :
    value.kind = spec.kind := by
  have quiet := List.filterMap_eq_nil_iff.mp (List.append_eq_nil_iff.mp conforms).1 spec declared
  by_cases same : value.kind = spec.kind
  · exact same
  · simp [declaredAttribute, held, same] at quiet

theorem exists_of_required (conforms : attributes signature values = [])
    (declared : spec ∈ signature.attributes) (required : spec.isRequired = true) :
    ∃ value, values.get? spec.name = some value := by
  have quiet := List.filterMap_eq_nil_iff.mp (List.append_eq_nil_iff.mp conforms).1 spec declared
  cases held : values.get? spec.name with
  | some value => exact ⟨value, rfl⟩
  | none => simp [declaredAttribute, held, required] at quiet

theorem mem_undeclaredNames_iff {name : String} :
    name ∈ undeclaredNames signature values ↔
      values.contains name = true ∧ signature.attribute? name = none := by
  rw [undeclaredNames, List.mem_mergeSort, List.mem_filter, NameMap.contains_iff_mem_keys,
    Option.isNone_iff_eq_none]

theorem get?_of_undeclared (conforms : attributes signature values = [])
    (strict : signature.permissiveness = .strict) {name : String}
    (undeclared : signature.attribute? name = none) : values.get? name = none := by
  have quiet := (List.append_eq_nil_iff.mp conforms).2
  simp only [strict, List.map_eq_nil_iff] at quiet
  cases held : values.get? name with
  | none => rfl
  | some value =>
    have present : values.contains name = true := by
      rw [NameMap.contains, held]
      rfl
    have listed := mem_undeclaredNames_iff.mpr ⟨present, undeclared⟩
    rw [quiet] at listed
    cases listed

end Check

namespace AttributeValue

variable {value : AttributeValue}

theorem exists_int_of_kind (same : value.kind = .int) : ∃ number, value = .int number := by
  cases value <;> first | exact ⟨_, rfl⟩ | cases same

theorem exists_ints_of_kind (same : value.kind = .ints) : ∃ numbers, value = .ints numbers := by
  cases value <;> first | exact ⟨_, rfl⟩ | cases same

theorem exists_float_of_kind (same : value.kind = .float) : ∃ number, value = .float number := by
  cases value <;> first | exact ⟨_, rfl⟩ | cases same

end AttributeValue

/-- The only output is required, and it is under the type variable of the first input. -/
structure Signature.Unary (signature : Signature) (typeVariable : String) : Prop where
  input : ∃ slot, signature.slotAt? .input 0 = some slot ∧ slot.type = .typeVariable typeVariable
  output : ∃ slot, signature.outputs = [slot] ∧ slot.arity = .single ∧
    slot.type = .typeVariable typeVariable

namespace Signature.Unary

variable {signature : Signature} {typeVariable : String} {assigned : TypeAssignment}
  {types : List (Option ElementType)} {observed : Option ElementType} {type : ElementType}

theorem of_input (unary : signature.Unary typeVariable)
    (fits : signature.Fits .input 0 types assigned) (known : types[0]? = some (some type)) :
    signature.allows typeVariable type = true ∧ assigned typeVariable = some type := by
  obtain ⟨slot, found, named⟩ := unary.input
  exact (Slot.admits_typeVariable_iff named).mp (fits 0 type known slot found)

theorem fits_output_iff (unary : signature.Unary typeVariable) :
    signature.Fits .output 0 [observed] assigned ↔ ∀ type, observed = some type →
      signature.allows typeVariable type = true ∧ assigned typeVariable = some type := by
  obtain ⟨slot, only, _, named⟩ := unary.output
  have found : signature.slotAt? .output 0 = some slot := by
    simp [slotAt?, slots, only, Slot.at?]
  simp only [fits_cons_iff, fits_nil, and_true, found, Option.some.injEq, forall_eq',
    Slot.admits_typeVariable_iff named]

end Signature.Unary

end ShapeFlow
