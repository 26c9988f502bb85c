import ShapeFlow.Proofs.Check.Operands

/-!
The binding of type variables at one node. It succeeds exactly when the operands of known type are
consistent, it binds the variables that have such an operand, and where it fails it reports the
first operand at which consistency is lost. Apart from which operand that is, the order of the
operands does not matter.
-/

namespace ShapeFlow

namespace Operand

variable {signature : Signature} {operands first second : List Operand}

/-- What an operand asks of the type variables: its type, under the type of its slot. -/
def demand (operand : Operand) : SlotType × ElementType :=
  (operand.slot.type, operand.type)

/-- Consistency is lost only to what operands ask. -/
theorem Consistent.of_demands (consistent : Consistent signature second)
    (within : first.map demand ⊆ second.map demand) : Consistent signature first := by
  have counterpart (operand : Operand) (listed : operand ∈ first) :
      ∃ other ∈ second, other.slot.type = operand.slot.type ∧ other.type = operand.type := by
    obtain ⟨other, present, same⟩ := List.mem_map.mp (within (List.mem_map_of_mem listed))
    exact ⟨other, present, congrArg Prod.fst same, congrArg Prod.snd same⟩
  constructor
  case fixed =>
    intro operand listed expected fixed
    obtain ⟨other, present, slot, type⟩ := counterpart operand listed
    exact type ▸ consistent.fixed other present expected (slot.trans fixed)
  case allowed =>
    intro operand listed name named
    obtain ⟨other, present, slot, type⟩ := counterpart operand listed
    exact type ▸ consistent.allowed other present name (slot.trans named)
  case shared =>
    intro left leftListed right rightListed name leftNamed rightNamed
    obtain ⟨one, onePresent, oneSlot, oneType⟩ := counterpart left leftListed
    obtain ⟨two, twoPresent, twoSlot, twoType⟩ := counterpart right rightListed
    rw [← oneType, ← twoType]
    exact consistent.shared one onePresent two twoPresent name (oneSlot.trans leftNamed)
      (twoSlot.trans rightNamed)

theorem agreeing_none_iff :
    Agreeing signature (fun _ => none) operands ↔ Consistent signature operands :=
  ⟨Agreeing.consistent, fun consistent => ⟨consistent, by simp⟩⟩

theorem extend_none : extend (fun _ => none) operands = earliest? operands := by
  funext name
  simp [extend]

/-- Among consistent operands the earliest one under a variable stands for all of them. -/
theorem Consistent.earliest?_eq_some_iff (consistent : Consistent signature operands)
    {name : String} {type : ElementType} :
    earliest? operands name = some type ↔ (.typeVariable name, type) ∈ operands.map demand := by
  constructor
  · intro found
    obtain ⟨operand, listed, given⟩ := List.exists_of_findSome?_eq_some found
    obtain ⟨named, rfl⟩ := gives?_eq_some_iff.mp given
    exact List.mem_map.mpr ⟨operand, listed, by rw [demand, named]⟩
  · intro asked
    obtain ⟨operand, listed, same⟩ := List.mem_map.mp asked
    obtain ⟨named, rfl⟩ := Prod.mk.inj same
    cases found : earliest? operands name with
    | none =>
      have given := List.findSome?_eq_none_iff.mp found operand listed
      cases given.symm.trans (gives?_eq_some_iff.mpr ⟨named, rfl⟩)
    | some other =>
      obtain ⟨earlier, before, given⟩ := List.exists_of_findSome?_eq_some found
      obtain ⟨earlierNamed, rfl⟩ := gives?_eq_some_iff.mp given
      rw [consistent.shared earlier before operand listed name earlierNamed named]

end Operand

namespace Check

open Operand

variable {signature : Signature} {inputs outputs : List (Option ElementType)}
  {bindings : TypeBindings} {violation : ConstraintViolation}

theorem resolve_eq_ok_iff :
    resolve signature inputs outputs = .ok bindings ↔
      Consistent signature (ofNode signature inputs outputs) ∧
        (accountAll signature (ofNode signature inputs outputs) .empty).bindings = bindings := by
  have quiet : (accountAll signature (ofNode signature inputs outputs) .empty).violation = none ↔
      Consistent signature (ofNode signature inputs outputs) :=
    violation_accountAll_eq_none_iff.trans agreeing_none_iff
  rw [resolve_eq_accountAll, ← quiet]
  cases (accountAll signature (ofNode signature inputs outputs) .empty).violation <;> simp

theorem resolve_eq_error_iff :
    resolve signature inputs outputs = .error violation ↔
      FirstOffence signature (fun _ => none) (ofNode signature inputs outputs) violation := by
  have ended : (accountAll signature (ofNode signature inputs outputs) .empty).violation =
      some violation ↔
      FirstOffence signature (fun _ => none) (ofNode signature inputs outputs) violation :=
    violation_accountAll_eq_some_iff
  rw [resolve_eq_accountAll, ← ended]
  cases (accountAll signature (ofNode signature inputs outputs) .empty).violation <;> simp

theorem get?_of_resolve (done : resolve signature inputs outputs = .ok bindings) (name : String)
    (type : ElementType) :
    bindings.get? name = some type ↔
      (.typeVariable name, type) ∈ (ofNode signature inputs outputs).map demand := by
  obtain ⟨consistent, rfl⟩ := resolve_eq_ok_iff.mp done
  have agreeing : Agreeing signature (NameMap.empty : TypeBindings).get?
      (ofNode signature inputs outputs) := agreeing_none_iff.mpr consistent
  have unbound : (NameMap.empty : TypeBindings).get? = fun _ => none := rfl
  rw [(accountAll_of_agreeing agreeing).2, unbound, extend_none]
  exact consistent.earliest?_eq_some_iff

/-- What binding the type variables at a node comes to. -/
structure ResolvesExactly (signature : Signature) (inputs outputs : List (Option ElementType)) :
    Prop where
  /-- It succeeds exactly when the operands of known type are consistent. -/
  succeeds : (∃ bindings, resolve signature inputs outputs = .ok bindings) ↔
    Consistent signature (ofNode signature inputs outputs)
  /-- It binds the variables that have an operand of known type, to that type. -/
  binds : ∀ bindings, resolve signature inputs outputs = .ok bindings → ∀ name type,
    bindings.get? name = some type ↔
      ∃ operand ∈ ofNode signature inputs outputs,
        operand.slot.type = .typeVariable name ∧ operand.type = type
  /-- It fails with what is wrong with the first operand at which consistency is lost, given the
  type of the earliest operand under its variable. -/
  fails : ∀ violation, resolve signature inputs outputs = .error violation ↔
    ∃ before offending after,
      ofNode signature inputs outputs = before ++ offending :: after ∧
        Consistent signature before ∧ ¬ Consistent signature (before ++ [offending]) ∧
        offending.Offends signature (earliest? before) violation
  /-- Operands that ask the same in other places and in another order bind alike. -/
  unordered : ∀ otherInputs otherOutputs,
    (∀ asked, asked ∈ (ofNode signature inputs outputs).map demand ↔
      asked ∈ (ofNode signature otherInputs otherOutputs).map demand) →
    ((∃ bindings, resolve signature inputs outputs = .ok bindings) ↔
      ∃ others, resolve signature otherInputs otherOutputs = .ok others) ∧
    ∀ bindings others, resolve signature inputs outputs = .ok bindings →
      resolve signature otherInputs otherOutputs = .ok others → others.get? = bindings.get?

theorem exists_resolve_iff :
    (∃ bindings, resolve signature inputs outputs = .ok bindings) ↔
      Consistent signature (ofNode signature inputs outputs) := by
  constructor
  · rintro ⟨bindings, done⟩
    exact (resolve_eq_ok_iff.mp done).1
  · intro consistent
    exact ⟨_, resolve_eq_ok_iff.mpr ⟨consistent, rfl⟩⟩

/-- The binding of type variables is exact under every signature. -/
theorem resolve_exact (signature : Signature) (inputs outputs : List (Option ElementType)) :
    ResolvesExactly signature inputs outputs := by
  constructor
  case succeeds => exact exists_resolve_iff
  case binds =>
    intro bindings done name type
    rw [get?_of_resolve done, List.mem_map]
    simp only [demand, Prod.mk.injEq]
  case fails =>
    intro violation
    simp only [resolve_eq_error_iff, FirstOffence, agreeing_none_iff, extend_none]
  case unordered =>
    intro otherInputs otherOutputs same
    constructor
    · rw [exists_resolve_iff, exists_resolve_iff]
      constructor
      · exact fun consistent => consistent.of_demands fun asked listed => (same asked).mpr listed
      · exact fun consistent => consistent.of_demands fun asked listed => (same asked).mp listed
    · intro bindings others done redone
      funext name
      apply Option.ext
      intro type
      rw [get?_of_resolve done, get?_of_resolve redone, same]

/-- Any number of inputs under one type variable, and an output under it. -/
def variadicSum : Signature where
  id := .normalized "" "Sum" 8
  inputs := [{ name := "data", type := .typeVariable "T", arity := .variadic }]
  outputs := [{ name := "sum", type := .typeVariable "T", arity := .single }]
  constraints := [{ typeVariable := "T", allowed := [.float32, .float64] }]

/-- The input of unknown type is passed over, and the first one stands for the variable when the
output is reached. -/
theorem resolve_exact_variadicSum :
    Consistent variadicSum (ofNode variadicSum [some .float64, none, some .float64] [none]) ∧
      ∃ before offending after,
        ofNode variadicSum [some .float64, none, some .float64] [some .float32] =
          before ++ offending :: after ∧
        Consistent variadicSum before ∧ ¬ Consistent variadicSum (before ++ [offending]) ∧
        offending.Offends variadicSum (earliest? before)
          (.conflict "T" .float64 .float32 "output 0 ('sum')") := by
  have done : ∃ bindings,
      resolve variadicSum [some .float64, none, some .float64] [none] = .ok bindings :=
    ⟨.ofList [("T", .float64)], rfl⟩
  have failed : resolve variadicSum [some .float64, none, some .float64] [some .float32] =
      .error (.conflict "T" .float64 .float32 "output 0 ('sum')") := rfl
  exact ⟨(resolve_exact variadicSum _ _).succeeds.mp done,
    ((resolve_exact variadicSum _ _).fails _).mp failed⟩

end Check

end ShapeFlow
