import Mathlib.Data.List.Induction
import ShapeFlow.Proofs.Check.Assignment

/-!
Operands of known type as one list, in the order in which they are accounted for. Operands are
consistent when each has a type that its slot takes and those under one type variable have one
type. Accounting for them goes as far as they are consistent with each other and with what is bound
already, and binds each variable to the type of its earliest operand.
-/

namespace ShapeFlow

/-- A type variable may stand for a type: its constraint lists the type. -/
def Signature.Admits (signature : Signature) (name : String) (type : ElementType) : Prop :=
  ∃ constraint, signature.constraint? name = some constraint ∧ type ∈ constraint.allowed

theorem Signature.allows_eq_true_iff {signature : Signature} {name : String} {type : ElementType} :
    signature.allows name type = true ↔ signature.Admits name type := by
  unfold allows Admits
  cases signature.constraint? name <;> simp [TypeConstraint.allows]

/-- An operand of known type with the slot that it fills. -/
structure Operand where
  side : Side
  index : Nat
  slot : Slot
  type : ElementType

namespace Operand

/-- How messages refer to an operand. -/
def text (operand : Operand) : String :=
  Check.slotText operand.side operand.index operand.slot

/-- The type that an operand gives to a type variable. -/
def gives? (operand : Operand) (name : String) : Option ElementType :=
  if operand.slot.type = .typeVariable name then some operand.type else none

/-- The type of the earliest operand under a type variable. -/
def earliest? (operands : List Operand) (name : String) : Option ElementType :=
  operands.findSome? (·.gives? name)

/-- The operands of known type in a row whose first operand has the given index. An operand that no
slot takes is not among them. -/
def row (signature : Signature) (side : Side) (start : Nat) (types : List (Option ElementType)) :
    List Operand :=
  (types.zipIdx start).filterMap fun (observed, index) =>
    observed.bind fun type => (signature.slotAt? side index).map fun slot =>
      { side, index, slot, type }

/-- The operands of known type of a node, the inputs before the outputs. -/
def ofNode (signature : Signature) (inputs outputs : List (Option ElementType)) : List Operand :=
  row signature .input 0 inputs ++ row signature .output 0 outputs

/-- Operands that disagree neither with their slots nor with each other. -/
structure Consistent (signature : Signature) (operands : List Operand) : Prop where
  /-- Under a fixed type stands that type. -/
  fixed : ∀ operand ∈ operands, ∀ expected, operand.slot.type = .fixed expected →
    operand.type = expected
  /-- Under a type variable stands a type that it may stand for. -/
  allowed : ∀ operand ∈ operands, ∀ name, operand.slot.type = .typeVariable name →
    signature.Admits name operand.type
  /-- Operands under one type variable have one type. -/
  shared : ∀ first ∈ operands, ∀ second ∈ operands, ∀ name,
    first.slot.type = .typeVariable name → second.slot.type = .typeVariable name →
      first.type = second.type

/-- Operands that are consistent and have the types that their variables are bound to. -/
structure Agreeing (signature : Signature) (held : TypeAssignment) (operands : List Operand) :
    Prop where
  consistent : Consistent signature operands
  bound : ∀ operand ∈ operands, ∀ name type, operand.slot.type = .typeVariable name →
    held name = some type → operand.type = type

/-- What is wrong with an operand where type variables are bound already. -/
inductive Offends (signature : Signature) (held : TypeAssignment) (operand : Operand) :
    ConstraintViolation → Prop where
  | fixedType {expected : ElementType} (fixed : operand.slot.type = .fixed expected)
      (different : operand.type ≠ expected) :
      Offends signature held operand (.fixedType expected operand.type operand.text)
  | disallowed {name : String} (named : operand.slot.type = .typeVariable name)
      (refused : ¬signature.Admits name operand.type) :
      Offends signature held operand (.disallowed name operand.type operand.text)
  | conflict {name : String} {bound : ElementType} (named : operand.slot.type = .typeVariable name)
      (allowed : signature.Admits name operand.type) (taken : held name = some bound)
      (different : bound ≠ operand.type) :
      Offends signature held operand (.conflict name bound operand.type operand.text)

/-- The types that variables have once operands are accounted for. -/
def extend (held : TypeAssignment) (operands : List Operand) : TypeAssignment :=
  fun name => (held name).or (earliest? operands name)

variable {signature : Signature} {held : TypeAssignment} {operand : Operand}
  {operands before after : List Operand} {bindings extended : TypeBindings}
  {violation : ConstraintViolation} {name : String} {type : ElementType}

theorem gives?_eq_some_iff :
    operand.gives? name = some type ↔
      operand.slot.type = .typeVariable name ∧ operand.type = type := by
  by_cases named : operand.slot.type = .typeVariable name <;> simp [gives?, named]

theorem extend_nil : extend held [] = held := by
  funext name
  simp [extend, earliest?]

theorem extend_cons :
    extend held (operand :: operands) = extend (extend held [operand]) operands := by
  funext name
  cases given : operand.gives? name <;> simp [extend, earliest?, given]

theorem extend_singleton_iff :
    extend held [operand] name = some type ↔
      held name = some type ∨
        held name = none ∧ operand.slot.type = .typeVariable name ∧ operand.type = type := by
  have single : earliest? [operand] name = operand.gives? name := by simp [earliest?]
  rw [extend, single, Option.or_eq_some_iff, gives?_eq_some_iff]

theorem Agreeing.nil : Agreeing signature held [] :=
  ⟨⟨by simp, by simp, by simp⟩, by simp⟩

/-- Operands agree when the first one does and the others agree with what it binds besides. -/
theorem agreeing_cons_iff :
    Agreeing signature held (operand :: operands) ↔
      Agreeing signature held [operand] ∧
        Agreeing signature (extend held [operand]) operands := by
  constructor
  · rintro ⟨⟨fixed, allowed, shared⟩, bound⟩
    simp only [List.forall_mem_cons] at fixed allowed bound shared
    refine ⟨⟨⟨by simpa using fixed.1, by simpa using allowed.1, by simp⟩, by simpa using bound.1⟩,
      ⟨fixed.2, allowed.2, fun first here second there => (shared.2 first here).2 second there⟩, ?_⟩
    intro other listed name type named known
    rcases extend_singleton_iff.mp known with earlier | ⟨_, first, rfl⟩
    · exact bound.2 other listed name type named earlier
    · exact (shared.2 other listed).1 name named first
  · rintro ⟨⟨⟨fixed, allowed, _⟩, bound⟩, ⟨fixedRest, allowedRest, sharedRest⟩, boundRest⟩
    simp only [List.mem_singleton, forall_eq] at fixed allowed bound
    have agrees (other : Operand) (listed : other ∈ operands) (name : String)
        (first : operand.slot.type = .typeVariable name)
        (second : other.slot.type = .typeVariable name) : other.type = operand.type := by
      refine boundRest other listed name operand.type second (extend_singleton_iff.mpr ?_)
      cases known : held name with
      | none => exact .inr ⟨rfl, first, rfl⟩
      | some type => exact .inl (by rw [bound name type first known])
    refine ⟨⟨List.forall_mem_cons.mpr ⟨fixed, fixedRest⟩,
      List.forall_mem_cons.mpr ⟨allowed, allowedRest⟩, ?_⟩, List.forall_mem_cons.mpr ⟨bound, ?_⟩⟩
    · intro left here right there name leftNamed rightNamed
      rcases List.mem_cons.mp here with rfl | leftLater
      · rcases List.mem_cons.mp there with rfl | rightLater
        · rfl
        · exact (agrees right rightLater name leftNamed rightNamed).symm
      · rcases List.mem_cons.mp there with rfl | rightLater
        · exact agrees left leftLater name rightNamed leftNamed
        · exact sharedRest left leftLater right rightLater name leftNamed rightNamed
    · intro other listed name type named known
      exact boundRest other listed name type named (extend_singleton_iff.mpr (.inl known))

theorem agreeing_append_iff :
    Agreeing signature held (before ++ after) ↔
      Agreeing signature held before ∧ Agreeing signature (extend held before) after := by
  induction before generalizing held with
  | nil => simp [extend_nil, Agreeing.nil]
  | cons first rest ih =>
    rw [List.cons_append, agreeing_cons_iff, ih, ← and_assoc, ← agreeing_cons_iff, ← extend_cons]

theorem agreeing_singleton_iff_of_fixed {expected : ElementType}
    (fixed : operand.slot.type = .fixed expected) :
    Agreeing signature held [operand] ↔ operand.type = expected := by
  constructor
  · intro agreeing
    exact agreeing.consistent.fixed operand (List.mem_singleton_self operand) expected fixed
  · intro same
    refine ⟨⟨?_, ?_, ?_⟩, ?_⟩ <;> simp [fixed, same]

theorem agreeing_singleton_iff_of_named (named : operand.slot.type = .typeVariable name) :
    Agreeing signature held [operand] ↔ signature.Admits name operand.type ∧
      ∀ type, held name = some type → operand.type = type := by
  constructor
  · intro agreeing
    have listed := List.mem_singleton_self operand
    exact ⟨agreeing.consistent.allowed operand listed name named,
      fun type known => agreeing.bound operand listed name type named known⟩
  · rintro ⟨allowed, bound⟩
    refine ⟨⟨?_, ?_, ?_⟩, ?_⟩ <;> simp_all

theorem Offends.not_agreeing (offends : operand.Offends signature held violation) :
    ¬ Agreeing signature held [operand] := by
  cases offends with
  | fixedType fixed different =>
    rw [agreeing_singleton_iff_of_fixed fixed]
    exact different
  | disallowed named refused =>
    rw [agreeing_singleton_iff_of_named named]
    exact fun both => refused both.1
  | conflict named _ taken different =>
    rw [agreeing_singleton_iff_of_named named]
    rintro ⟨_, bound⟩
    exact different (bound _ taken).symm

/-- Accounts for one operand. -/
def account (signature : Signature) (operand : Operand) (bindings : TypeBindings) :
    Except ConstraintViolation TypeBindings :=
  match operand.slot.type with
  | .fixed expected =>
    if operand.type = expected then .ok bindings
    else .error (.fixedType expected operand.type operand.text)
  | .typeVariable name =>
    if signature.allows name operand.type then
      match bindings.get? name with
      | none => .ok (bindings.insert name operand.type)
      | some bound =>
        if bound = operand.type then .ok bindings
        else .error (.conflict name bound operand.type operand.text)
    else .error (.disallowed name operand.type operand.text)

/-- An operand that agrees is accounted for, and it binds its variable if that is still open. -/
theorem account_of_agreeing (agreeing : Agreeing signature bindings.get? [operand]) :
    ∃ extended, account signature operand bindings = .ok extended ∧
      extended.get? = extend bindings.get? [operand] := by
  unfold account
  split
  · rename_i expected fixed
    have same := (agreeing_singleton_iff_of_fixed fixed).mp agreeing
    refine ⟨bindings, if_pos same, ?_⟩
    funext name
    simp [extend, earliest?, gives?, fixed]
  · rename_i name named
    obtain ⟨allowed, bound⟩ := (agreeing_singleton_iff_of_named named).mp agreeing
    rw [if_pos (Signature.allows_eq_true_iff.mpr allowed)]
    split
    · rename_i free
      refine ⟨bindings.insert name operand.type, rfl, ?_⟩
      funext other
      rw [NameMap.get?_insert]
      by_cases same : other = name
      · simp [extend, earliest?, gives?, named, same, free]
      · simp [extend, earliest?, gives?, named, same, Ne.symm same]
    · rename_i type taken
      refine ⟨bindings, if_pos (bound type taken).symm, ?_⟩
      funext other
      by_cases same : other = name
      · simp [extend, same, taken]
      · simp [extend, earliest?, gives?, named, Ne.symm same]

theorem account_of_offends (offends : operand.Offends signature bindings.get? violation) :
    account signature operand bindings = .error violation := by
  cases offends with
  | fixedType fixed different => simp [account, fixed, different]
  | disallowed named refused =>
    rw [← Signature.allows_eq_true_iff] at refused
    simp [account, named, refused]
  | conflict named allowed taken different =>
    rw [← Signature.allows_eq_true_iff] at allowed
    simp [account, named, allowed, taken, different]

theorem agreeing_or_offends (signature : Signature) (held : TypeAssignment) (operand : Operand) :
    Agreeing signature held [operand] ∨ ∃ violation, operand.Offends signature held violation := by
  cases sort : operand.slot.type with
  | fixed expected =>
    rw [agreeing_singleton_iff_of_fixed sort]
    by_cases same : operand.type = expected
    · exact .inl same
    · exact .inr ⟨_, .fixedType sort same⟩
  | typeVariable name =>
    rw [agreeing_singleton_iff_of_named sort]
    by_cases allowed : signature.Admits name operand.type
    · cases known : held name with
      | none => exact .inl ⟨allowed, nofun⟩
      | some bound =>
        by_cases same : bound = operand.type
        · exact .inl ⟨allowed, fun type found => same ▸ Option.some.inj found⟩
        · exact .inr ⟨_, .conflict sort allowed known same⟩
    · exact .inr ⟨_, .disallowed sort allowed⟩

/-- Accounts for operands one after the other. The first violation ends it, and what was bound
before stays bound. -/
def accountAll (signature : Signature) : List Operand → TypeBindings → Observation
  | [], bindings => { bindings }
  | operand :: rest, bindings =>
    match account signature operand bindings with
    | .error violation => { bindings, violation }
    | .ok extended => accountAll signature rest extended

theorem accountAll_of_agreeing (agreeing : Agreeing signature bindings.get? operands) :
    (accountAll signature operands bindings).violation = none ∧
      (accountAll signature operands bindings).bindings.get? =
        extend bindings.get? operands := by
  induction operands generalizing bindings with
  | nil => exact ⟨rfl, extend_nil.symm⟩
  | cons operand rest ih =>
    obtain ⟨first, later⟩ := agreeing_cons_iff.mp agreeing
    obtain ⟨extended, accounted, bound⟩ := account_of_agreeing first
    rw [← bound] at later
    rw [accountAll, accounted, extend_cons, ← bound]
    exact ih later

/-- Accounting ends at an operand that offends after operands that agree. -/
theorem accountAll_of_offends (agreeing : Agreeing signature bindings.get? before)
    (offends : operand.Offends signature (extend bindings.get? before) violation) :
    accountAll signature (before ++ operand :: after) bindings =
      { bindings := (accountAll signature before bindings).bindings, violation } := by
  induction before generalizing bindings with
  | nil =>
    rw [extend_nil] at offends
    rw [List.nil_append, accountAll, accountAll, account_of_offends offends]
  | cons first rest ih =>
    obtain ⟨here, later⟩ := agreeing_cons_iff.mp agreeing
    obtain ⟨extended, accounted, bound⟩ := account_of_agreeing here
    rw [← bound] at later
    rw [extend_cons, ← bound] at offends
    rw [List.cons_append, accountAll, accountAll, accounted]
    exact ih later offends

/-- A violation is about the first operand at which operands stop agreeing. -/
def FirstOffence (signature : Signature) (held : TypeAssignment) (operands : List Operand)
    (violation : ConstraintViolation) : Prop :=
  ∃ before offending after, operands = before ++ offending :: after ∧
    Agreeing signature held before ∧ ¬ Agreeing signature held (before ++ [offending]) ∧
    offending.Offends signature (extend held before) violation

theorem Offends.firstOffence (offends : operand.Offends signature (extend held before) violation)
    (agreeing : Agreeing signature held before) :
    FirstOffence signature held (before ++ operand :: after) violation := by
  refine ⟨before, operand, after, rfl, agreeing, ?_, offends⟩
  rw [agreeing_append_iff]
  exact fun both => offends.not_agreeing both.2

/-- Operands agree, or some operand is the first at which they do not. -/
theorem agreeing_or_firstOffence (signature : Signature) (held : TypeAssignment)
    (operands : List Operand) :
    Agreeing signature held operands ∨
      ∃ violation, FirstOffence signature held operands violation := by
  induction operands using List.reverseRecOn with
  | nil => exact .inl .nil
  | append_singleton earlier last ih =>
    rcases ih with agreeing | ⟨violation, before, offending, after, rfl, offence⟩
    · rcases agreeing_or_offends signature (extend held earlier) last with
        agrees | ⟨violation, offends⟩
      · exact .inl (agreeing_append_iff.mpr ⟨agreeing, agrees⟩)
      · exact .inr ⟨violation, offends.firstOffence agreeing⟩
    · exact .inr ⟨violation, before, offending, after ++ [last], by simp, offence⟩

theorem violation_accountAll_of_firstOffence
    (offence : FirstOffence signature bindings.get? operands violation) :
    (accountAll signature operands bindings).violation = some violation := by
  obtain ⟨before, offending, after, rfl, agreeing, _, offends⟩ := offence
  rw [accountAll_of_offends agreeing offends]

/-- All operands are accounted for exactly when they agree. -/
theorem violation_accountAll_eq_none_iff :
    (accountAll signature operands bindings).violation = none ↔
      Agreeing signature bindings.get? operands := by
  constructor
  · intro quiet
    rcases agreeing_or_firstOffence signature bindings.get? operands with
      agreeing | ⟨violation, offence⟩
    · exact agreeing
    · cases quiet.symm.trans (violation_accountAll_of_firstOffence offence)
  · exact fun agreeing => (accountAll_of_agreeing agreeing).1

/-- Accounting ends with a violation exactly when that is the first offence. -/
theorem violation_accountAll_eq_some_iff :
    (accountAll signature operands bindings).violation = some violation ↔
      FirstOffence signature bindings.get? operands violation := by
  constructor
  · intro ended
    rcases agreeing_or_firstOffence signature bindings.get? operands with
      agreeing | ⟨other, offence⟩
    · cases ended.symm.trans (accountAll_of_agreeing agreeing).1
    · cases ended.symm.trans (violation_accountAll_of_firstOffence offence)
      exact offence
  · exact violation_accountAll_of_firstOffence

theorem accountAll_append :
    accountAll signature (before ++ after) bindings =
      match (accountAll signature before bindings).violation with
      | some _ => accountAll signature before bindings
      | none => accountAll signature after (accountAll signature before bindings).bindings := by
  induction before generalizing bindings with
  | nil => rfl
  | cons operand rest ih =>
    rw [List.cons_append, accountAll, accountAll]
    cases accounted : account signature operand bindings with
    | error violation => rfl
    | ok extended => exact ih

end Operand

namespace Check

open Operand

variable {signature : Signature} {side : Side} {index start : Nat} {type : ElementType}
  {bindings : TypeBindings} {types inputs outputs : List (Option ElementType)}

theorem observe_eq_account :
    observe signature side index type bindings =
      match signature.slotAt? side index with
      | none => .ok bindings
      | some slot => account signature { side, index, slot, type } bindings := by
  unfold observe
  cases signature.slotAt? side index <;> rfl

/-- A row of operands is accounted for as far as their types are known. -/
theorem observeAll_eq_accountAll :
    observeAll signature side start types bindings =
      accountAll signature (row signature side start types) bindings := by
  induction types generalizing start bindings with
  | nil => rfl
  | cons observed rest ih =>
    cases observed with
    | none => exact ih
    | some type =>
      rw [observeAll, observe_eq_account]
      cases found : signature.slotAt? side start with
      | none =>
        have skipped : row signature side start (some type :: rest) =
            row signature side (start + 1) rest := by
          simp [row, found]
        rw [skipped]
        exact ih
      | some slot =>
        have listed : row signature side start (some type :: rest) =
            { side, index := start, slot, type } :: row signature side (start + 1) rest := by
          simp [row, found]
        rw [listed, accountAll]
        dsimp only
        cases account signature { side, index := start, slot, type } bindings with
        | error violation => rfl
        | ok extended => exact ih

theorem resolve_eq_accountAll :
    resolve signature inputs outputs =
      match (accountAll signature (ofNode signature inputs outputs) .empty).violation with
      | some violation => .error violation
      | none => .ok (accountAll signature (ofNode signature inputs outputs) .empty).bindings := by
  simp only [resolve, outputTypes, observeAll_eq_accountAll, ofNode, accountAll_append]
  cases ended : (accountAll signature (row signature .input 0 inputs) .empty).violation with
  | none => rfl
  | some violation => simp [ended]

end Check

end ShapeFlow
