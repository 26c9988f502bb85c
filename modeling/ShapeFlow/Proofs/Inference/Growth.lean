import Mathlib.Order.RelClasses
import ShapeFlow.Proofs.Inference.Joined

/-!
How runs change what is staged. No write takes back a known element type, and no write but a
replacement takes back anything about a shape. So a run keeps the known element types, and a run
that attempts no replacement only adds to what is known, whether the program ends or fails.
-/

namespace ShapeFlow

variable {α β : Type} {below : TensorType → TensorType → Prop} {context : Context}
  {current updated : TensorType} {change : Write}

/-- An element type that was known is still known. -/
def TensorType.KeepsElementType (before after : TensorType) : Prop :=
  ∀ type, before.elementType = some type → after.elementType = some type

instance : IsPreorder TensorType TensorType.KeepsElementType where
  refl _ _ known := known
  trans _ _ _ first second type known := second type (first type known)

theorem Write.apply_keepsElementType (done : change.apply current = .ok updated) :
    current.KeepsElementType updated := by
  intro type known
  cases change with
  | elementType output other =>
    simp only [apply, known] at done
    split at done
    · cases done
      exact known
    · cases done
  | replaceShape output shape =>
    cases done
    exact known
  | refineShape output shape =>
    simp only [apply] at done
    split at done
    · cases done
      exact known
    · cases done

theorem Write.le_apply (keeps : change.keepsShape = true)
    (done : change.apply current = .ok updated) : current ≤ updated :=
  ((apply_le_iff keeps done).mp le_rfl).1

/-- Each output of the first context is still there in the second, and stands in a relation to what
became of it. -/
def Context.Raised (below : TensorType → TensorType → Prop) (before after : Context) : Prop :=
  ∀ (place : Nat) (current : TensorType), before.outputs[place]? = some current →
    ∃ reached, after.outputs[place]? = some reached ∧ below current reached

namespace Context.Raised

variable [IsPreorder TensorType below] {before middle after : Context}

theorem refl (context : Context) : Raised below context context :=
  fun _ current staged => ⟨current, staged, refl_of below current⟩

theorem trans (first : Raised below before middle) (second : Raised below middle after) :
    Raised below before after := by
  intro place current staged
  obtain ⟨between, stagedMiddle, lower⟩ := first place current staged
  obtain ⟨reached, stagedAfter, upper⟩ := second place between stagedMiddle
  exact ⟨reached, stagedAfter, trans_of below lower upper⟩

theorem of_write (raises : ∀ {current updated : TensorType},
    change.apply current = .ok updated → below current updated)
    (accepted : before.write change = .ok after) : Raised below before after := by
  obtain ⟨addressed, updated, staged, applied, rfl⟩ := Context.write_eq_ok_iff.mp accepted
  intro place current present
  by_cases here : place = change.output
  · subst here
    rw [staged] at present
    cases present
    have bound := (List.getElem?_eq_some_iff.mp staged).1
    exact ⟨updated, List.getElem?_set_self bound, raises applied⟩
  · exact ⟨current, by rw [List.getElem?_set_ne (Ne.symm here), present], refl_of below current⟩

end Context.Raised

namespace Inference

variable {program : Inference α} {after : α → Inference β}

/-- The writes that a run attempts, in order. -/
def attempts : Inference α → Context → List Write
  | .done _, _ => []
  | .fail _, _ => []
  | .inspect next, context => (next context).attempts context
  | .write change next, context =>
    change ::
      match context.write change with
      | .ok written => (next (.ok ())).attempts written
      | .error failure => (next (.error failure)).attempts context
  | .note _ next, context => next.attempts context

/-- A sequence attempts the writes of its parts, those of the second part unless the first fails. -/
theorem attempts_bind (program : Inference α) (after : α → Inference β) (context : Context) :
    (program >>= after).attempts context = program.attempts context ++
      match (program.run context).result with
      | .ok answer => (after answer).attempts (program.run context).context
      | .error _ => [] := by
  change (program.bind after).attempts context = _
  induction program generalizing context with
  | done answer => rfl
  | fail failure => rfl
  | inspect next ih => exact ih context context
  | write change next ih =>
    cases attempted : context.write change with
    | ok written => simp only [Inference.bind, attempts, run, attempted, ih, List.cons_append]
    | error failure => simp only [Inference.bind, attempts, run, attempted, ih, List.cons_append]
  | note text next ih => exact ih context

/-- No run attempts to replace a shape. -/
def KeepsShapes (program : Inference α) : Prop :=
  ∀ (context : Context), ∀ change ∈ program.attempts context, change.keepsShape = true

/-- Every run raises the staged types. -/
def Raises (below : TensorType → TensorType → Prop) (program : Inference α) : Prop :=
  ∀ context : Context, context.Raised below (program.run context).context

/-- A run raises what every write that it attempts raises. -/
theorem raised_of_attempts [IsPreorder TensorType below] (program : Inference α)
    (raises : ∀ change ∈ program.attempts context, ∀ {current updated : TensorType},
      change.apply current = .ok updated → below current updated) :
    context.Raised below (program.run context).context := by
  induction program generalizing context with
  | done answer => exact .refl context
  | fail failure => exact .refl context
  | inspect next ih => exact ih context raises
  | note text next ih => exact ih raises
  | write change next ih =>
    simp only [attempts, List.mem_cons, forall_eq_or_imp] at raises
    obtain ⟨first, rest⟩ := raises
    simp only [run]
    split
    · rename_i written accepted
      rw [accepted] at rest
      exact (Context.Raised.of_write first accepted).trans (ih _ rest)
    · rename_i failure refused
      rw [refused] at rest
      exact ih _ rest

theorem raises_keepsElementType (program : Inference α) :
    program.Raises TensorType.KeepsElementType :=
  fun _ => raised_of_attempts program fun _ _ => Write.apply_keepsElementType

theorem KeepsShapes.raises (keeps : program.KeepsShapes) : program.Raises (· ≤ ·) :=
  fun context => raised_of_attempts program fun change attempted => change.le_apply
    (keeps context change attempted)

end Inference

end ShapeFlow
