import ShapeFlow.Check.TypeBindings

/-!
What the binding of type variables decides. An assignment fixes the element types that variables
stand for. Operands bind without a violation exactly when some assignment admits every operand of
known type, so operands of which less is known bind as well.
-/

namespace ShapeFlow

/-- The element types that variables are to stand for. -/
abbrev TypeAssignment := String → Option ElementType

/-- A slot takes an operand of the given type under an assignment. -/
def Slot.Admits (signature : Signature) (assigned : TypeAssignment) (type : ElementType)
    (slot : Slot) : Prop :=
  match slot.type with
  | .fixed expected => type = expected
  | .typeVariable name => signature.allows name type = true ∧ assigned name = some type

namespace Slot

variable {signature : Signature} {assigned : TypeAssignment} {type expected : ElementType}
  {slot : Slot} {name : String}

theorem admits_fixed_iff (fixed : slot.type = .fixed expected) :
    slot.Admits signature assigned type ↔ type = expected := by
  simp [Admits, fixed]

theorem admits_typeVariable_iff (named : slot.type = .typeVariable name) :
    slot.Admits signature assigned type ↔
      signature.allows name type = true ∧ assigned name = some type := by
  simp [Admits, named]

end Slot

/-- Bindings that an assignment repeats. -/
def TypeBindings.Below (bindings : TypeBindings) (assigned : TypeAssignment) : Prop :=
  ∀ (name : String) (type : ElementType), bindings.get? name = some type →
    assigned name = some type

/-- Whatever is known in the first row is known in the second. -/
def KnownWithin (fewer types : List (Option ElementType)) : Prop :=
  ∀ (place : Nat) (type : ElementType), fewer[place]? = some (some type) →
    types[place]? = some (some type)

theorem KnownWithin.map {α : Type} {less more : α → Option ElementType}
    (within : ∀ item type, less item = some type → more item = some type) (items : List α) :
    KnownWithin (items.map less) (items.map more) := by
  intro place type known
  rw [List.getElem?_map, Option.map_eq_some_iff] at known ⊢
  obtain ⟨item, present, known⟩ := known
  exact ⟨item, present, within item type known⟩

namespace Signature

variable {signature : Signature} {side : Side} {start : Nat} {assigned wider : TypeAssignment}
  {types fewer inputs outputs fewerInputs fewerOutputs : List (Option ElementType)}

/-- The slots of one side take a row of operands, the first having the given index. Operands
without a slot or of unknown type are not looked at. -/
def Fits (signature : Signature) (side : Side) (start : Nat) (types : List (Option ElementType))
    (assigned : TypeAssignment) : Prop :=
  ∀ (place : Nat) (type : ElementType), types[place]? = some (some type) →
    ∀ slot, signature.slotAt? side (start + place) = some slot →
      slot.Admits signature assigned type

/-- Some assignment suits the inputs and the outputs of a node. -/
def Consistent (signature : Signature) (inputs outputs : List (Option ElementType)) : Prop :=
  ∃ assigned, signature.Fits .input 0 inputs assigned ∧ signature.Fits .output 0 outputs assigned

theorem fits_nil : signature.Fits side start [] assigned := by
  intro place type known
  simp at known

theorem fits_cons_iff {observed : Option ElementType} :
    signature.Fits side start (observed :: types) assigned ↔
      (∀ type, observed = some type → ∀ slot, signature.slotAt? side start = some slot →
        slot.Admits signature assigned type) ∧
      signature.Fits side (start + 1) types assigned := by
  constructor
  · intro fits
    refine ⟨fun type known => fits 0 type (by simp [known]), fun place type known => ?_⟩
    have later := fits (place + 1) type (by simpa using known)
    rwa [← Nat.add_assoc, Nat.add_right_comm] at later
  · rintro ⟨first, rest⟩ place type known
    cases place with
    | zero => exact first type (by simpa using known)
    | succ place =>
      have later := rest place type (by simpa using known)
      rwa [Nat.add_right_comm] at later

theorem Fits.of_knownWithin (fits : signature.Fits side start types assigned)
    (within : KnownWithin fewer types) : signature.Fits side start fewer assigned :=
  fun place type known => fits place type (within place type known)

theorem Fits.extend (fits : signature.Fits side start types assigned)
    (extension : ∀ name type, assigned name = some type → wider name = some type) :
    signature.Fits side start types wider := by
  intro place type known slot found
  have admitted := fits place type known slot found
  cases sort : slot.type with
  | fixed expected =>
    rw [Slot.admits_fixed_iff sort] at admitted ⊢
    exact admitted
  | typeVariable name =>
    obtain ⟨allowed, chosen⟩ := (Slot.admits_typeVariable_iff sort).mp admitted
    exact (Slot.admits_typeVariable_iff sort).mpr ⟨allowed, extension name type chosen⟩

theorem Consistent.of_knownWithin (consistent : signature.Consistent inputs outputs)
    (withinInputs : KnownWithin fewerInputs inputs)
    (withinOutputs : KnownWithin fewerOutputs outputs) :
    signature.Consistent fewerInputs fewerOutputs := by
  obtain ⟨assigned, inputsFit, outputsFit⟩ := consistent
  exact ⟨assigned, inputsFit.of_knownWithin withinInputs, outputsFit.of_knownWithin withinOutputs⟩

end Signature

namespace Check

variable {signature : Signature} {side : Side} {index start : Nat} {type : ElementType}
  {bindings extended : TypeBindings} {assigned : TypeAssignment}
  {types inputs outputs : List (Option ElementType)}

theorem observe_admits (done : observe signature side index type bindings = .ok extended) :
    bindings.Below extended.get? ∧
      ∀ slot, signature.slotAt? side index = some slot →
        slot.Admits signature extended.get? type := by
  unfold observe at done
  split at done
  · rename_i absent
    cases done
    exact ⟨fun _ _ bound => bound, fun slot found => by simp [absent] at found⟩
  · rename_i slot found
    suffices bindings.Below extended.get? ∧ slot.Admits signature extended.get? type by
      refine ⟨this.1, fun other same => ?_⟩
      rw [found] at same
      cases same
      exact this.2
    split at done
    · rename_i expected fixed
      split at done
      · rename_i same
        cases done
        exact ⟨fun _ _ bound => bound, (Slot.admits_fixed_iff fixed).mpr same⟩
      · cases done
    · rename_i name named
      rw [Slot.admits_typeVariable_iff named]
      split at done
      · rename_i allowed
        split at done
        · rename_i unbound
          cases done
          refine ⟨fun other kind bound => ?_, allowed, NameMap.get?_insert_self ..⟩
          rw [NameMap.get?_insert]
          split
          · rename_i same
            rw [same, unbound] at bound
            cases bound
          · exact bound
        · rename_i bound found
          split at done
          · rename_i same
            cases done
            exact ⟨fun _ _ bound => bound, allowed, by rw [found, same]⟩
          · cases done
      · cases done

/-- An operand that an assignment admits is accounted for without leaving the assignment. -/
theorem observe_of_admits (below : bindings.Below assigned)
    (admitted : ∀ slot, signature.slotAt? side index = some slot →
      slot.Admits signature assigned type) :
    ∃ extended, observe signature side index type bindings = .ok extended ∧
      extended.Below assigned := by
  unfold observe
  split
  · exact ⟨bindings, rfl, below⟩
  · rename_i slot found
    have takes := admitted slot found
    split
    · rename_i expected fixed
      exact ⟨bindings, if_pos ((Slot.admits_fixed_iff fixed).mp takes), below⟩
    · rename_i name named
      obtain ⟨allowed, chosen⟩ := (Slot.admits_typeVariable_iff named).mp takes
      rw [if_pos allowed]
      split
      · refine ⟨bindings.insert name type, rfl, fun other kind bound => ?_⟩
        rw [NameMap.get?_insert] at bound
        split at bound
        · rename_i same
          rw [same, ← bound, chosen]
        · exact below other kind bound
      · rename_i bound found
        have same : bound = type := Option.some.inj ((below name bound found).symm.trans chosen)
        exact ⟨bindings, if_pos same, below⟩

theorem observeAll_fits
    (quiet : (observeAll signature side start types bindings).violation = none) :
    bindings.Below (observeAll signature side start types bindings).bindings.get? ∧
      signature.Fits side start types
        (observeAll signature side start types bindings).bindings.get? := by
  induction types generalizing start bindings with
  | nil => exact ⟨fun _ _ bound => bound, Signature.fits_nil⟩
  | cons observed rest ih =>
    rw [Signature.fits_cons_iff]
    cases observed with
    | none =>
      obtain ⟨below, fits⟩ := ih quiet
      exact ⟨below, nofun, fits⟩
    | some type =>
      rw [observeAll] at quiet ⊢
      cases seen : observe signature side start type bindings with
      | error violation => simp [seen] at quiet
      | ok extended =>
        simp only [seen] at quiet ⊢
        obtain ⟨first, admitted⟩ := observe_admits seen
        obtain ⟨later, fits⟩ := ih quiet
        have single : signature.Fits side start [some type] extended.get? :=
          Signature.fits_cons_iff.mpr ⟨fun _ same => Option.some.inj same ▸ admitted,
            Signature.fits_nil⟩
        refine ⟨fun name kind bound => later name kind (first name kind bound), ?_, fits⟩
        exact (Signature.fits_cons_iff.mp (single.extend later)).1

/-- A row that fits an assignment binds without a violation and without leaving the assignment. -/
theorem observeAll_of_fits (below : bindings.Below assigned)
    (fits : signature.Fits side start types assigned) :
    (observeAll signature side start types bindings).violation = none ∧
      (observeAll signature side start types bindings).bindings.Below assigned := by
  induction types generalizing start bindings with
  | nil => exact ⟨rfl, below⟩
  | cons observed rest ih =>
    obtain ⟨first, later⟩ := Signature.fits_cons_iff.mp fits
    cases observed with
    | none => exact ih below later
    | some type =>
      obtain ⟨extended, seen, kept⟩ := observe_of_admits below (first type rfl)
      simp only [observeAll, seen]
      exact ih kept later

theorem outputTypes_fits (quiet : (outputTypes signature bindings outputs).violation = none) :
    bindings.Below (outputTypes signature bindings outputs).bindings.get? ∧
      signature.Fits .output 0 outputs (outputTypes signature bindings outputs).bindings.get? :=
  observeAll_fits quiet

theorem outputTypes_of_fits (below : bindings.Below assigned)
    (fits : signature.Fits .output 0 outputs assigned) :
    (outputTypes signature bindings outputs).violation = none :=
  (observeAll_of_fits below fits).1

theorem resolve_fits (done : resolve signature inputs outputs = .ok bindings) :
    signature.Fits .input 0 inputs bindings.get? ∧
      signature.Fits .output 0 outputs bindings.get? := by
  unfold resolve at done
  simp only at done
  split at done
  · cases done
  · rename_i quietInputs
    split at done
    · cases done
    · rename_i quietOutputs
      cases done
      obtain ⟨_, inputsFit⟩ := observeAll_fits quietInputs
      obtain ⟨extension, outputsFit⟩ := outputTypes_fits quietOutputs
      exact ⟨inputsFit.extend extension, outputsFit⟩

theorem resolve_of_fits (inputsFit : signature.Fits .input 0 inputs assigned)
    (outputsFit : signature.Fits .output 0 outputs assigned) :
    ∃ bindings, resolve signature inputs outputs = .ok bindings ∧ bindings.Below assigned := by
  have start : TypeBindings.Below .empty assigned := by
    intro name type bound
    simp at bound
  obtain ⟨quietInputs, between⟩ := observeAll_of_fits start inputsFit
  obtain ⟨quietOutputs, final⟩ := observeAll_of_fits between outputsFit
  exact ⟨_, by simp only [resolve, quietInputs, outputTypes, quietOutputs], final⟩

/-- Operands bind exactly when they are consistent. -/
theorem resolve_ok_iff :
    (∃ bindings, resolve signature inputs outputs = .ok bindings) ↔
      signature.Consistent inputs outputs := by
  constructor
  · rintro ⟨bindings, done⟩
    exact ⟨bindings.get?, resolve_fits done⟩
  · rintro ⟨assigned, inputsFit, outputsFit⟩
    obtain ⟨bindings, done, _⟩ := resolve_of_fits inputsFit outputsFit
    exact ⟨bindings, done⟩

end Check

end ShapeFlow
