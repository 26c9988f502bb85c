import Mathlib.Data.List.Induction
import ShapeFlow.NameMap

/-!
Maps by what they hold. A map that was filled pair by pair holds each name once, with the value that
was set last. Two maps that hold the same differ at most in the order of their names.
-/

namespace ShapeFlow.NameMap

variable {α : Type} {left right : NameMap α}

/-- The value that was set last under a name. -/
def lastSet? (pairs : List (String × α)) (name : String) : Option α :=
  (pairs.filter (·.1 = name)).getLast?.map Prod.snd

theorem lastSet?_append_singleton (pairs : List (String × α)) (pair : String × α) (name : String) :
    lastSet? (pairs ++ [pair]) name =
      if name = pair.1 then some pair.2 else lastSet? pairs name := by
  by_cases same : pair.1 = name
  · simp [lastSet?, same]
  · simp [lastSet?, same, Ne.symm same]

theorem ofList_append_singleton (pairs : List (String × α)) (pair : String × α) :
    ofList (pairs ++ [pair]) = (ofList pairs).insert pair.1 pair.2 := by
  rw [ofList, List.foldl_append, ← ofList, List.foldl_cons, List.foldl_nil]

/-- A later pair replaces an earlier one under the same name. -/
theorem get?_ofList (pairs : List (String × α)) (name : String) :
    (ofList pairs).get? name = lastSet? pairs name := by
  induction pairs using List.reverseRecOn with
  | nil => rfl
  | append_singleton earlier last ih =>
    rw [ofList_append_singleton, get?_insert, lastSet?_append_singleton, ih]

theorem nodup_keys_ofList (pairs : List (String × α)) : (ofList pairs).keys.Nodup := by
  induction pairs using List.reverseRecOn with
  | nil => exact List.nodup_nil
  | append_singleton earlier last ih =>
    rw [ofList_append_singleton]
    exact nodup_keys_insert ih last.1 last.2

theorem keys_perm (leftDistinct : left.keys.Nodup) (rightDistinct : right.keys.Nodup)
    (same : ∀ name, left.get? name = right.get? name) : left.keys.Perm right.keys := by
  rw [List.perm_ext_iff_of_nodup leftDistinct rightDistinct]
  intro name
  rw [← contains_iff_mem_keys, ← contains_iff_mem_keys, contains, contains, same]

end ShapeFlow.NameMap
