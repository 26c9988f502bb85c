import ShapeFlow.Proofs.Check.Resolution

/-!
Bindings that rows of output types extend one after the other, whether a row is accepted or ends
with a violation. Each row leaves what was bound before and adds what its operands determine as far
as they agree. So bindings only grow, and every variable stays bound to a type that it may stand
for.
-/

namespace ShapeFlow

/-- Every bound variable is declared and bound to a type that it may stand for. -/
def TypeBindings.Declared (bindings : TypeBindings) (signature : Signature) : Prop :=
  ∀ (name : String) (type : ElementType), bindings.get? name = some type →
    signature.Admits name type

/-- The bindings are the held ones and what the operands determine besides. -/
def TypeBindings.Extends (bindings held : TypeBindings) (operands : List Operand) : Prop :=
  ∀ (name : String) (type : ElementType), bindings.get? name = some type ↔
    held.get? name = some type ∨
      ∃ operand ∈ operands, operand.slot.type = .typeVariable name ∧ operand.type = type

namespace Operand

variable {signature : Signature} {held : TypeBindings} {operands before after : List Operand}
  {name : String} {type : ElementType} {violation : ConstraintViolation}

/-- Operands that agree with what is held give the types that variables have besides. -/
theorem Agreeing.extend_eq_some_iff (agreeing : Agreeing signature held.get? operands) :
    extend held.get? operands name = some type ↔
      held.get? name = some type ∨
        ∃ operand ∈ operands, operand.slot.type = .typeVariable name ∧ operand.type = type := by
  have earliest : earliest? operands name = some type ↔
      ∃ operand ∈ operands, operand.slot.type = .typeVariable name ∧ operand.type = type := by
    rw [agreeing.consistent.earliest?_eq_some_iff, List.mem_map]
    simp only [demand, Prod.mk.injEq]
  rw [extend, Option.or_eq_some_iff, earliest]
  constructor
  · exact Or.imp_right And.right
  · rintro (bound | given)
    · exact .inl bound
    · cases known : held.get? name with
      | none => exact .inr ⟨rfl, given⟩
      | some other =>
        obtain ⟨operand, listed, named, rfl⟩ := given
        exact .inl (by rw [agreeing.bound operand listed name other named known])

theorem Agreeing.extends_accountAll (agreeing : Agreeing signature held.get? operands) :
    (accountAll signature operands held).bindings.Extends held operands := by
  intro name type
  rw [(accountAll_of_agreeing agreeing).2]
  exact agreeing.extend_eq_some_iff

theorem bindings_accountAll_of_offends (agreeing : Agreeing signature held.get? before)
    {operand : Operand} (offends : operand.Offends signature (extend held.get? before) violation) :
    (accountAll signature (before ++ operand :: after) held).bindings.Extends held before := by
  rw [accountAll_of_offends agreeing offends]
  exact agreeing.extends_accountAll

end Operand

namespace TypeBindings

open Operand

variable {signature : Signature} {held bindings : TypeBindings} {operands : List Operand}

theorem Extends.below (extension : bindings.Extends held operands) : held.Below bindings.get? :=
  fun name type bound => (extension name type).mpr (.inl bound)

theorem Extends.declared (extension : bindings.Extends held operands)
    (consistent : Consistent signature operands) (declared : held.Declared signature) :
    bindings.Declared signature := by
  intro name type bound
  rcases (extension name type).mp bound with earlier | ⟨operand, listed, named, rfl⟩
  · exact declared name type earlier
  · exact consistent.allowed operand listed name named

end TypeBindings

namespace Check

open Operand

variable {signature : Signature} {inputs outputs : List (Option ElementType)}
  {start held : TypeBindings} {rows : List (List (Option ElementType))}

/-- What accounting for output types on top of bindings comes to. -/
structure RowAccounted (signature : Signature) (held : TypeBindings)
    (outputs : List (Option ElementType)) : Prop where
  /-- It succeeds exactly when the operands of known type have the types that their slots take, and
  agree with each other and with what is bound. -/
  succeeds : (outputTypes signature held outputs).violation = none ↔
    Agreeing signature held.get? (row signature .output 0 outputs)
  /-- Where it succeeds, it binds what the operands determine. -/
  binds : (outputTypes signature held outputs).violation = none →
    (outputTypes signature held outputs).bindings.Extends held (row signature .output 0 outputs)
  /-- Where it fails, it fails at the first operand that does not agree, and it has bound what the
  operands before that one determine. -/
  stops : ∀ violation, (outputTypes signature held outputs).violation = some violation →
    ∃ before offending after,
      row signature .output 0 outputs = before ++ offending :: after ∧
        Agreeing signature held.get? before ∧
        ¬ Agreeing signature held.get? (before ++ [offending]) ∧
        offending.Offends signature (extend held.get? before) violation ∧
        (outputTypes signature held outputs).bindings.Extends held before

theorem outputTypes_eq_accountAll :
    outputTypes signature held outputs =
      accountAll signature (row signature .output 0 outputs) held :=
  observeAll_eq_accountAll

theorem outputTypes_accounted (signature : Signature) (held : TypeBindings)
    (outputs : List (Option ElementType)) : RowAccounted signature held outputs := by
  constructor
  case succeeds =>
    rw [outputTypes_eq_accountAll]
    exact violation_accountAll_eq_none_iff
  case binds =>
    rw [outputTypes_eq_accountAll]
    intro quiet
    exact (violation_accountAll_eq_none_iff.mp quiet).extends_accountAll
  case stops =>
    rw [outputTypes_eq_accountAll]
    intro violation ended
    obtain ⟨before, offending, after, listed, agreeing, different, offends⟩ :=
      violation_accountAll_eq_some_iff.mp ended
    refine ⟨before, offending, after, listed, agreeing, different, offends, ?_⟩
    rw [listed]
    exact bindings_accountAll_of_offends agreeing offends

/-- A row extends what is held by the consistent operands with which it begins. -/
theorem exists_extends_outputTypes (signature : Signature) (held : TypeBindings)
    (outputs : List (Option ElementType)) :
    ∃ operands, Consistent signature operands ∧
      (outputTypes signature held outputs).bindings.Extends held operands := by
  have accounted := outputTypes_accounted signature held outputs
  cases ended : (outputTypes signature held outputs).violation with
  | none => exact ⟨_, (accounted.succeeds.mp ended).consistent, accounted.binds ended⟩
  | some violation =>
    obtain ⟨before, _, _, _, agreeing, _, _, bound⟩ := accounted.stops violation ended
    exact ⟨before, agreeing.consistent, bound⟩

/-- The bindings after rows of output types. A row starts from what the earlier ones left, also
where they ended with a violation. -/
def bindingsAfter (signature : Signature) (start : TypeBindings)
    (rows : List (List (Option ElementType))) : TypeBindings :=
  rows.foldl (fun held outputs => (outputTypes signature held outputs).bindings) start

theorem bindingsAfter_append {earlier later : List (List (Option ElementType))} :
    bindingsAfter signature start (earlier ++ later) =
      bindingsAfter signature (bindingsAfter signature start earlier) later :=
  List.foldl_append

theorem below_bindingsAfter (signature : Signature) (start : TypeBindings)
    (rows : List (List (Option ElementType))) :
    start.Below (bindingsAfter signature start rows).get? := by
  induction rows generalizing start with
  | nil => exact fun _ _ bound => bound
  | cons outputs rest ih =>
    obtain ⟨_, _, extension⟩ := exists_extends_outputTypes signature start outputs
    exact fun name type bound => ih _ name type (extension.below name type bound)

theorem declared_bindingsAfter (declared : start.Declared signature)
    (rows : List (List (Option ElementType))) :
    (bindingsAfter signature start rows).Declared signature := by
  induction rows generalizing start with
  | nil => exact declared
  | cons outputs rest ih =>
    obtain ⟨_, consistent, extension⟩ := exists_extends_outputTypes signature start outputs
    exact ih (extension.declared consistent declared)

theorem declared_of_resolve (done : resolve signature inputs outputs = .ok start) :
    start.Declared signature := by
  intro name type bound
  obtain ⟨operand, listed, asked⟩ := List.mem_map.mp ((get?_of_resolve done name type).mp bound)
  obtain ⟨named, rfl⟩ := Prod.mk.inj asked
  exact (resolve_eq_ok_iff.mp done).1.allowed operand listed name named

/-- What becomes of bindings that rows of output types extend. -/
structure GrowsSoundly (signature : Signature) (start : TypeBindings)
    (rows : List (List (Option ElementType))) : Prop where
  /-- What is bound after some rows is bound to the same type after more rows. -/
  grows : ∀ fewer more, fewer ≤ more →
    (bindingsAfter signature start (rows.take fewer)).Below
      (bindingsAfter signature start (rows.take more)).get?
  declared : ∀ count, (bindingsAfter signature start (rows.take count)).Declared signature
  /-- Each row is accounted for on top of what the earlier rows left, and leaves its bindings to the
  later ones. -/
  each : ∀ place outputs, rows[place]? = some outputs →
    RowAccounted signature (bindingsAfter signature start (rows.take place)) outputs ∧
      bindingsAfter signature start (rows.take (place + 1)) =
        (outputTypes signature (bindingsAfter signature start (rows.take place)) outputs).bindings

/-- Bindings grow soundly from those that the operands of a node determine, whichever of the later
rows fail. -/
theorem bindings_grow (done : resolve signature inputs outputs = .ok start)
    (rows : List (List (Option ElementType))) : GrowsSoundly signature start rows := by
  constructor
  case grows =>
    intro fewer more within
    obtain ⟨further, rfl⟩ := Nat.exists_eq_add_of_le within
    rw [List.take_add, bindingsAfter_append]
    exact below_bindingsAfter signature _ _
  case declared => exact fun count => declared_bindingsAfter (declared_of_resolve done) _
  case each =>
    intro place outputs present
    refine ⟨outputTypes_accounted signature _ outputs, ?_⟩
    rw [List.take_add_one, present, bindingsAfter_append]
    rfl

/-- Two variables, of which only the first stands for an input. -/
def splitting : Signature where
  id := .normalized "" "TopK" 11
  inputs := [{ name := "X", type := .typeVariable "T", arity := .single }]
  outputs := [{ name := "values", type := .typeVariable "T", arity := .single },
    { name := "indices", type := .typeVariable "I", arity := .variadic }]
  constraints := [{ typeVariable := "T", allowed := [.float32, .float64] },
    { typeVariable := "I", allowed := [.int32, .int64] }]

/-- The first row fails at its third output. What its second output has bound by then stays, so the
second row fails as well. -/
theorem bindings_grow_splitting :
    resolve splitting [some .float32] [none, none] = .ok (.ofList [("T", .float32)]) ∧
      (outputTypes splitting (.ofList [("T", .float32)])
        [none, some .int64, some .int32]).violation ≠ none ∧
      ¬ Agreeing splitting (NameMap.ofList [("T", .float32), ("I", .int64)]).get?
        (row splitting .output 0 [none, some .int32]) ∧
      GrowsSoundly splitting (.ofList [("T", .float32)])
        [[none, some .int64, some .int32], [none, some .int32], [some .float32, some .int64]] := by
  have done : resolve splitting [some .float32] [none, none] =
      .ok (.ofList [("T", .float32)]) := rfl
  have grown := bindings_grow done
    [[none, some .int64, some .int32], [none, some .int32], [some .float32, some .int64]]
  refine ⟨done, by decide, ?_, grown⟩
  exact fun agreeing => by cases (grown.each 1 _ rfl).1.succeeds.mpr agreeing

end Check

end ShapeFlow
