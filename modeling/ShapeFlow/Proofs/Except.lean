/-!
Answers and errors through a map. A mapped computation ends as the computation does, so how it ends
tells how the computation ended.
-/

namespace ShapeFlow

variable {ε ζ α β : Type} {value : Except ε α}

theorem exists_of_map_eq_ok {next : α → β} {answer : β} (done : value.map next = .ok answer) :
    ∃ before, value = .ok before ∧ next before = answer := by
  cases value with
  | error problem => cases done
  | ok before => exact ⟨before, rfl, Except.ok.inj done⟩

theorem eq_error_of_map {next : α → β} {problem : ε} (failed : value.map next = .error problem) :
    value = .error problem := by
  cases value with
  | ok answer => cases failed
  | error first => exact congrArg Except.error (Except.error.inj failed)

theorem mapError_eq_ok_iff {relabel : ε → ζ} {answer : α} :
    value.mapError relabel = .ok answer ↔ value = .ok answer := by
  constructor
  · intro done
    cases value with
    | error problem => cases done
    | ok known => exact congrArg Except.ok (Except.ok.inj done)
  · rintro rfl
    rfl

theorem exists_of_mapError_eq_error {relabel : ε → ζ} {problem : ζ}
    (failed : value.mapError relabel = .error problem) :
    ∃ first, value = .error first ∧ relabel first = problem := by
  cases value with
  | ok answer => cases failed
  | error first => exact ⟨first, rfl, Except.error.inj failed⟩

end ShapeFlow
