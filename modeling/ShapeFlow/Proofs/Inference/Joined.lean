import ShapeFlow.Inference.Propagate
import ShapeFlow.Proofs.Inference.Run
import ShapeFlow.Proofs.TensorType

/-!
What inference functions ask of outputs. Every write but a replacement joins something to what is
staged for its output, so what a program leaves there is the join of what was known before and of
all that the program asks.
-/

namespace ShapeFlow

/-- What a write wants to be known about its output. -/
def Write.asked : Write → TensorType
  | .elementType _ type => { elementType := some type }
  | .replaceShape _ shape => { shape }
  | .refineShape _ shape => { shape }

/-- Whether a write keeps what is known about the shape. -/
def Write.keepsShape : Write → Bool
  | .replaceShape _ _ => false
  | _ => true

theorem Write.apply_le_iff {change : Write} {current updated upper : TensorType}
    (keeps : change.keepsShape = true) (done : change.apply current = .ok updated) :
    updated ≤ upper ↔ current ≤ upper ∧ change.asked ≤ upper := by
  cases change with
  | replaceShape output shape => cases keeps
  | elementType output type =>
    cases known : current.elementType with
    | none =>
      simp only [apply, known, Except.ok.injEq] at done
      subst done
      constructor
      · intro below
        exact ⟨⟨by simp [known], below.shape⟩, ⟨below.elementType, Shape.unknown_le _⟩⟩
      · rintro ⟨below, asked⟩
        exact ⟨asked.elementType, below.shape⟩
    | some declared =>
      simp only [apply, known] at done
      split at done
      · rename_i same
        cases done
        have sameType : current.elementType = some type := known.trans (congrArg some same)
        refine (and_iff_left_of_imp fun below => ⟨?_, Shape.unknown_le _⟩).symm
        exact fun other found => below.elementType other (sameType.trans found)
      · cases done
  | refineShape output shape =>
    cases merged : current.shape.merge shape with
    | error clash => simp [apply, merged] at done
    | ok joined =>
      simp only [apply, merged, Except.ok.injEq] at done
      subst done
      have joins : joined ≤ upper.shape ↔ current.shape ≤ upper.shape ∧ shape ≤ upper.shape :=
        Shape.merge_le_iff merged
      constructor
      · intro below
        obtain ⟨known, asked⟩ := joins.mp below.shape
        exact ⟨⟨below.elementType, known⟩, ⟨nofun, asked⟩⟩
      · rintro ⟨below, asked⟩
        exact ⟨below.elementType, joins.mpr ⟨below.shape, asked.shape⟩⟩

namespace Inference

variable {before middle after context final : Context} {output : Nat}
  {asked further total : TensorType}

/-- One context comes from another by joining something to a staged type. -/
structure Joined (output : Nat) (before after : Context) (asked : TensorType) : Prop where
  same : after = { before with outputs := after.outputs }
  joined : ∀ current, before.outputs[output]? = some current →
    ∃ updated, after.outputs[output]? = some updated ∧
      ∀ upper, updated ≤ upper ↔ current ≤ upper ∧ asked ≤ upper
  others : ∀ place, place ≠ output → after.outputs[place]? = before.outputs[place]?

namespace Joined

theorem refl (output : Nat) (context : Context) : Joined output context context {} where
  same := rfl
  joined current staged :=
    ⟨current, staged, fun upper => (and_iff_left (TensorType.unknown_le upper)).symm⟩
  others _ _ := rfl

theorem trans (first : Joined output before middle asked)
    (second : Joined output middle after further)
    (both : ∀ upper, total ≤ upper ↔ asked ≤ upper ∧ further ≤ upper) :
    Joined output before after total where
  same := by rw [second.same, first.same]
  joined current staged := by
    obtain ⟨reached, stagedMiddle, firstJoin⟩ := first.joined current staged
    obtain ⟨updated, stagedAfter, secondJoin⟩ := second.joined reached stagedMiddle
    refine ⟨updated, stagedAfter, fun upper => ?_⟩
    rw [secondJoin, firstJoin, both, and_assoc]
  others place different := (second.others place different).trans (first.others place different)

theorem sameInputs (join : Joined output before after asked) : before.SameInputs after := by
  rw [join.same]
  exact ⟨rfl, rfl, rfl⟩

theorem of_write {change : Write} (keeps : change.keepsShape = true)
    (accepted : before.write change = .ok after) :
    Joined change.output before after change.asked := by
  obtain ⟨current, updated, staged, applied, rfl⟩ := Context.write_eq_ok_iff.mp accepted
  constructor
  · rfl
  · intro known stagedKnown
    have identical : known = current := Option.some.inj (stagedKnown.symm.trans staged)
    subst identical
    have bound := (List.getElem?_eq_some_iff.mp staged).1
    exact ⟨updated, List.getElem?_set_self bound, fun upper => change.apply_le_iff keeps applied⟩
  · intro place different
    exact List.getElem?_set_ne different.symm

end Joined

theorem propagateElementType_joined {input : Nat} {answer : Unit}
    (ends : Ends (propagateElementType input output) context answer final) :
    Joined output context final { elementType := context.inputType? input } := by
  simp only [propagateElementType, ends_bind, ends_ask] at ends
  obtain ⟨_, _, ⟨rfl, rfl⟩, ends⟩ := ends
  cases known : context.inputType? input with
  | none =>
    simp only [known, ends_pure] at ends
    exact ends.2 ▸ .refl output context
  | some type =>
    simp only [known, ends_perform] at ends
    exact .of_write rfl ends

theorem propagateShape_joined {input : Nat} {answer : Unit}
    (ends : Ends (propagateShape input output) context answer final) :
    Joined output context final { shape := (context.inputShape? input).getD .unknown } := by
  simp only [propagateShape, ends_bind, ends_ask] at ends
  obtain ⟨_, _, ⟨rfl, rfl⟩, ends⟩ := ends
  cases known : context.inputShape? input with
  | none =>
    simp only [known, ends_pure] at ends
    exact ends.2 ▸ .refl output context
  | some shape =>
    simp only [known, ends_perform] at ends
    exact .of_write rfl ends

end Inference

end ShapeFlow
