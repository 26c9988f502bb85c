import ShapeFlow.Check.Arity
import ShapeFlow.Proofs.Check.Assignment

/-!
What the arity check decides. A side of a node passes exactly when its single slots have operands
that are present and no operand is left without a slot, so type variables are then bound by every
operand of known type. A side that does not pass has either the wrong count or absent operands.
-/

namespace ShapeFlow

/-- The operands on one side of a node. -/
def NodeOf.operands {α : Type} (node : NodeOf α) : Side → List String
  | .input => node.inputs
  | .output => node.outputs

namespace Slot

variable {slots rest : List Slot} {head slot : Slot} {place count : Nat} {operands : List String}

/-- A slot that takes exactly one operand stands at a place. -/
def SingleAt (slots : List Slot) (place : Nat) (slot : Slot) : Prop :=
  slots[place]? = some slot ∧ slot.arity = .single

/-- There are no more operands than slots, unless the last slot is variadic. -/
def Bounded (slots : List Slot) (count : Nat) : Prop :=
  count ≤ slots.length ∨ ∃ last, slots.getLast? = some last ∧ last.arity = .variadic

/-- Every single slot has an operand that is present, and there are not too many operands. -/
structure Filled (slots : List Slot) (operands : List String) : Prop where
  single : ∀ place slot, SingleAt slots place slot →
    ∃ operand, operands[place]? = some operand ∧ operand ≠ ""
  bounded : Bounded slots operands.length

/-- A count lies outside the bounds that slots set. -/
def Miscounts (slots : List Slot) (count : Nat) : Prop :=
  count < minCount slots ∨ ∃ max, maxCount? slots = some max ∧ max < count

theorem minCount_cons_le_iff :
    minCount (head :: rest) ≤ count ↔
      (head.arity = .single → 0 < count) ∧ minCount rest ≤ count - 1 := by
  rw [minCount]
  cases minCount rest with
  | zero => by_cases single : head.arity = .single <;> simp [single]; omega
  | succ later => simp only; omega

/-- The least count is the least one that reaches every single slot. -/
theorem minCount_le_iff :
    minCount slots ≤ count ↔ ∀ place slot, SingleAt slots place slot → place < count := by
  induction slots generalizing count with
  | nil => simp [minCount, SingleAt]
  | cons head rest ih =>
    rw [minCount_cons_le_iff, ih]
    constructor
    · rintro ⟨first, later⟩ place slot ⟨stands, single⟩
      cases place with
      | zero =>
        cases stands
        exact first single
      | succ place =>
        have reached := later place slot ⟨stands, single⟩
        omega
    · intro reached
      refine ⟨fun single => reached 0 head ⟨rfl, single⟩, fun place slot ⟨stands, single⟩ => ?_⟩
      have later := reached (place + 1) slot ⟨stands, single⟩
      omega

theorem exists_maxCount?_lt_iff :
    (∃ max, maxCount? slots = some max ∧ max < count) ↔ ¬ Bounded slots count := by
  rw [maxCount?, Bounded]
  cases final : slots.getLast? with
  | none => simp [List.getLast?_eq_none_iff.mp final, Nat.pos_iff_ne_zero]
  | some last => by_cases variadic : last.arity = .variadic <;> simp [variadic]

/-- A count lies within the bounds when it reaches every single slot and is bounded. -/
theorem not_miscounts_iff :
    ¬ Miscounts slots count ↔
      (∀ place slot, SingleAt slots place slot → place < count) ∧ Bounded slots count := by
  rw [Miscounts, exists_maxCount?_lt_iff, not_or, Nat.not_lt, minCount_le_iff, Classical.not_not]

theorem Bounded.exists_at? (bounded : Bounded slots count) {index : Nat} (listed : index < count) :
    ∃ slot, at? slots index = some slot := by
  cases found : slots[index]? with
  | some slot => exact ⟨slot, by rw [at?, found, Option.some_or]⟩
  | none =>
    have past := List.getElem?_eq_none_iff.mp found
    obtain short | ⟨last, final, variadic⟩ := bounded
    · omega
    · exact ⟨last, by simp [at?, found, final, variadic]⟩

end Slot

namespace ArityError

/-- The side of a node that a problem is about. -/
def side : ArityError → Side
  | .count side _ _ _ => side
  | .missingOperand side _ _ => side

/-- The index of the operand that is absent. -/
def index? : ArityError → Option Nat
  | .count _ _ _ _ => none
  | .missingOperand _ _ index => some index

end ArityError

namespace Check

open Slot

variable {signature : Signature} {node : Node} {side : Side} {start : Nat} {slots : List Slot}
  {operands : List String} {problem : ArityError}

theorem mem_absentOperands_iff :
    problem ∈ absentOperands side start slots operands ↔
      ∃ place slot, SingleAt slots place slot ∧ operands[place]? = some "" ∧
        problem = .missingOperand side slot.name (start + place) := by
  induction slots generalizing start operands with
  | nil => simp [absentOperands, SingleAt]
  | cons head rest ih =>
    cases operands with
    | nil => simp [absentOperands]
    | cons operand others =>
      have first : (head.arity = .single ∧ operand = "") ∧
            problem = .missingOperand side head.name start ↔
          ∃ slot, SingleAt (head :: rest) 0 slot ∧ (operand :: others)[0]? = some "" ∧
            problem = .missingOperand side slot.name start := by
        simp [SingleAt, and_assoc]
      have split : problem ∈ absentOperands side start (head :: rest) (operand :: others) ↔
          ((head.arity = .single ∧ operand = "") ∧
            problem = .missingOperand side head.name start) ∨
          problem ∈ absentOperands side (start + 1) rest others := by
        rw [absentOperands]
        by_cases absent : head.arity = .single ∧ operand = "" <;> simp [absent]
      rw [split, first, ih]
      constructor
      · rintro (⟨slot, here⟩ | ⟨place, slot, there, empty, rfl⟩)
        · exact ⟨0, slot, here⟩
        · exact ⟨place + 1, slot, there, empty, by rw [Nat.add_assoc, Nat.add_comm 1]⟩
      · rintro ⟨place, slot, stands, empty, rfl⟩
        cases place with
        | zero => exact .inl ⟨slot, stands, empty, rfl⟩
        | succ place =>
          exact .inr ⟨place, slot, stands, empty, by rw [Nat.add_assoc, Nat.add_comm 1]⟩

theorem absentOperands_increasing :
    ((absentOperands side start slots operands).filterMap ArityError.index?).Pairwise (· < ·) := by
  induction slots generalizing start operands with
  | nil => simp [absentOperands]
  | cons head rest ih =>
    cases operands with
    | nil => simp [absentOperands]
    | cons operand others =>
      rw [absentOperands]
      split
      · simp only [List.filterMap_cons, ArityError.index?, List.pairwise_cons]
        refine ⟨fun later listed => ?_, ih⟩
        obtain ⟨problem, reported, same⟩ := List.mem_filterMap.mp listed
        obtain ⟨place, slot, _, _, rfl⟩ := mem_absentOperands_iff.mp reported
        cases same
        omega
      · exact ih

theorem miscounts_iff_any {count : Nat} :
    Miscounts slots count ↔
      count < minCount slots ∨ (maxCount? slots).any (· < count) = true := by
  rw [Miscounts]
  cases maxCount? slots <;> simp

theorem sideArity_of_miscounts (miscounts : Miscounts slots operands.length) :
    sideArity side slots operands =
      [.count side (minCount slots) (maxCount? slots) operands.length] :=
  if_pos (miscounts_iff_any.mp miscounts)

theorem sideArity_of_counted (counted : ¬ Miscounts slots operands.length) :
    sideArity side slots operands = absentOperands side 0 slots operands :=
  if_neg (counted ∘ miscounts_iff_any.mpr)

theorem sideArity_eq_nil_iff : sideArity side slots operands = [] ↔ Filled slots operands := by
  by_cases counted : Miscounts slots operands.length
  · rw [sideArity_of_miscounts counted]
    simp only [List.cons_ne_nil, false_iff]
    rintro ⟨single, bounded⟩
    refine not_miscounts_iff.mpr ⟨fun place slot stands => ?_, bounded⟩ counted
    obtain ⟨operand, listed, _⟩ := single place slot stands
    exact (List.getElem?_eq_some_iff.mp listed).1
  · obtain ⟨reached, bounded⟩ := not_miscounts_iff.mp counted
    rw [sideArity_of_counted counted, List.eq_nil_iff_forall_not_mem]
    simp only [mem_absentOperands_iff]
    constructor
    · intro quiet
      refine ⟨fun place slot stands => ?_, bounded⟩
      have listed := List.getElem?_eq_getElem (reached place slot stands)
      refine ⟨_, listed, fun absent => ?_⟩
      exact quiet _ ⟨place, slot, stands, absent ▸ listed, rfl⟩
    · rintro ⟨single, _⟩ problem ⟨place, slot, stands, absent, _⟩
      obtain ⟨operand, listed, present⟩ := single place slot stands
      cases absent.symm.trans listed
      exact present rfl

theorem side_of_sideArity (reported : problem ∈ sideArity side slots operands) :
    problem.side = side := by
  by_cases counted : Miscounts slots operands.length
  · rw [sideArity_of_miscounts counted, List.mem_singleton] at reported
    rw [reported, ArityError.side]
  · rw [sideArity_of_counted counted, mem_absentOperands_iff] at reported
    obtain ⟨_, _, _, _, rfl⟩ := reported
    rfl

/-- The arity problems of one side of a node, in the order in which they are reported. -/
def arityOf (signature : Signature) (node : Node) (side : Side) : List ArityError :=
  (arity signature node).filter (·.side = side)

theorem arityOf_eq :
    arityOf signature node side = sideArity side (signature.slots side) (node.operands side) := by
  have own (side : Side) (slots : List Slot) (operands : List String) :
      (sideArity side slots operands).filter (·.side = side) = sideArity side slots operands := by
    simpa [List.filter_eq_self] using fun problem => side_of_sideArity
  have other {side asked : Side} (slots : List Slot) (operands : List String)
      (different : side ≠ asked) :
      (sideArity side slots operands).filter (·.side = asked) = [] := by
    simpa [List.filter_eq_nil_iff] using fun problem reported same =>
      different ((side_of_sideArity reported).symm.trans same)
  rw [arityOf, arity, List.filter_append]
  cases side with
  | input => rw [own, other _ _ (by decide), List.append_nil]; rfl
  | output => rw [own, other _ _ (by decide), List.nil_append]; rfl

/-- Every operand of known type has a slot, which takes it under an assignment. -/
def TakesAll (signature : Signature) (side : Side) (types : List (Option ElementType))
    (assigned : TypeAssignment) : Prop :=
  ∀ index type, types[index]? = some (some type) →
    ∃ slot, signature.slotAt? side index = some slot ∧ slot.Admits signature assigned type

/-- What fits is taken as a whole where no operand is without a slot. -/
theorem takesAll_of_fits {types : List (Option ElementType)} {assigned : TypeAssignment}
    (quiet : arityOf signature node side = []) (short : types.length ≤ (node.operands side).length)
    (fits : signature.Fits side 0 types assigned) : TakesAll signature side types assigned := by
  intro index type known
  rw [arityOf_eq, sideArity_eq_nil_iff] at quiet
  have listed := (List.getElem?_eq_some_iff.mp known).1
  obtain ⟨slot, found⟩ := quiet.bounded.exists_at? (Nat.lt_of_lt_of_le listed short)
  exact ⟨slot, found, fits index type known slot (by rwa [Nat.zero_add])⟩

/-- What the arity check of a node comes to. -/
structure ArityExact (signature : Signature) (node : Node) : Prop where
  /-- The problems of the inputs go before those of the outputs. -/
  inputsFirst : arity signature node =
    arityOf signature node .input ++ arityOf signature node .output
  /-- A side has no problems exactly when its slots are filled. -/
  quiet : ∀ side, arityOf signature node side = [] ↔
    Filled (signature.slots side) (node.operands side)
  /-- Then every operand of the side has a slot. -/
  slotted : ∀ side, arityOf signature node side = [] →
    ∀ index < (node.operands side).length, ∃ slot, signature.slotAt? side index = some slot
  /-- So type variables are bound without passing over an operand of known type. -/
  resolved : arity signature node = [] → ∀ inputs outputs bindings,
    inputs.length ≤ node.inputs.length → outputs.length ≤ node.outputs.length →
    resolve signature inputs outputs = .ok bindings →
      TakesAll signature .input inputs bindings.get? ∧
        TakesAll signature .output outputs bindings.get?
  /-- Nor are inferred output types accepted that way on top of bindings. -/
  accepted : arity signature node = [] → ∀ bindings outputs,
    outputs.length ≤ node.outputs.length →
    (outputTypes signature bindings outputs).violation = none →
      TakesAll signature .output outputs (outputTypes signature bindings outputs).bindings.get?
  /-- A wrong count is the only problem of its side. -/
  miscounted : ∀ side, Miscounts (signature.slots side) (node.operands side).length →
    arityOf signature node side =
      [.count side (minCount (signature.slots side)) (maxCount? (signature.slots side))
        (node.operands side).length]
  /-- Where the count is right, each absent operand of a single slot is reported. -/
  absent : ∀ side, ¬ Miscounts (signature.slots side) (node.operands side).length →
    ∀ problem, problem ∈ arityOf signature node side ↔
      ∃ index slot, SingleAt (signature.slots side) index slot ∧
        (node.operands side)[index]? = some "" ∧ problem = .missingOperand side slot.name index
  /-- These are reported in the order of their indices. -/
  increasing : ∀ side,
    ((arityOf signature node side).filterMap ArityError.index?).Pairwise (· < ·)

/-- The arity check is exact for every signature, one that is built in particular. -/
theorem arity_exact (signature : Signature) (node : Node) : ArityExact signature node := by
  have sides : arity signature node =
      arityOf signature node .input ++ arityOf signature node .output := by
    rw [arityOf_eq, arityOf_eq]
    rfl
  have both (quiet : arity signature node = []) (side : Side) :
      arityOf signature node side = [] := by
    rw [arityOf, quiet, List.filter_nil]
  constructor
  case inputsFirst => exact sides
  case quiet => exact fun side => by rw [arityOf_eq, sideArity_eq_nil_iff]
  case slotted =>
    intro side quiet index listed
    rw [arityOf_eq, sideArity_eq_nil_iff] at quiet
    exact quiet.bounded.exists_at? listed
  case resolved =>
    intro quiet inputs outputs bindings shortInputs shortOutputs done
    obtain ⟨inputsFit, outputsFit⟩ := resolve_fits done
    exact ⟨takesAll_of_fits (both quiet .input) shortInputs inputsFit,
      takesAll_of_fits (both quiet .output) shortOutputs outputsFit⟩
  case accepted =>
    intro quiet bindings outputs short accepted
    exact takesAll_of_fits (both quiet .output) short (outputTypes_fits accepted).2
  case miscounted =>
    intro side miscounts
    rw [arityOf_eq, sideArity_of_miscounts miscounts]
  case absent =>
    intro side counted problem
    rw [arityOf_eq, sideArity_of_counted counted, mem_absentOperands_iff]
    simp only [Nat.zero_add]
  case increasing =>
    intro side
    rw [arityOf_eq]
    by_cases counted : Miscounts (signature.slots side) (node.operands side).length
    · rw [sideArity_of_miscounts counted]
      exact .nil
    · rw [sideArity_of_counted counted]
      exact absentOperands_increasing

/-- The single slot is counted in although one before it is optional, and what stands in it is
absent. -/
example :
    sideArity .input
      [{ name := "bias", type := .typeVariable "T", arity := .optional },
        { name := "data", type := .typeVariable "T", arity := .single },
        { name := "more", type := .typeVariable "T", arity := .variadic }]
      ["", "", "x", "y"] = [.missingOperand .input "data" 1] := by
  decide

end Check

end ShapeFlow
