/-!
Finite maps keyed by names. Entries keep the order in which their names were first inserted, and
inserting under a name that is already present replaces its value in place, so a map built by
insertion alone holds each name once.
-/

namespace ShapeFlow

/-- A finite map from names to values. -/
structure NameMap (α : Type) where
  entries : List (String × α) := []

namespace NameMap

variable {α : Type}

/-- The value of the first entry under a name. -/
def findIn (name : String) : List (String × α) → Option α
  | [] => none
  | (key, value) :: rest => if name = key then some value else findIn name rest

/-- Overwrites the first entry under a name, or appends a new entry. -/
def putIn (name : String) (value : α) : List (String × α) → List (String × α)
  | [] => [(name, value)]
  | (key, previous) :: rest =>
    if name = key then (name, value) :: rest else (key, previous) :: putIn name value rest

def empty : NameMap α := {}

def get? (map : NameMap α) (name : String) : Option α :=
  findIn name map.entries

def contains (map : NameMap α) (name : String) : Bool :=
  (map.get? name).isSome

def insert (map : NameMap α) (name : String) (value : α) : NameMap α :=
  ⟨putIn name value map.entries⟩

/-- Inserts the pairs in order, so a later pair under the same name wins. -/
def ofList (pairs : List (String × α)) : NameMap α :=
  pairs.foldl (fun map pair => map.insert pair.1 pair.2) empty

def keys (map : NameMap α) : List String :=
  map.entries.map Prod.fst

def size (map : NameMap α) : Nat :=
  map.entries.length

def isEmpty (map : NameMap α) : Bool :=
  map.entries.isEmpty

/-- The entries in increasing order of their names. -/
def sorted (map : NameMap α) : List (String × α) :=
  map.entries.mergeSort (fun left right => decide (left.1 ≤ right.1))

/-- Two maps agree when they have equally many entries and every entry of the first is found,
with an equal value, in the second. The order of entries does not count. -/
def agrees [BEq α] (left right : NameMap α) : Bool :=
  left.size == right.size &&
    left.entries.all (fun entry => right.get? entry.1 == some entry.2)

@[simp] theorem get?_empty (name : String) : (empty : NameMap α).get? name = none := rfl

private theorem findIn_putIn (name other : String) (value : α) (entries : List (String × α)) :
    findIn other (putIn name value entries) =
      if other = name then some value else findIn other entries := by
  induction entries with
  | nil => simp [putIn, findIn]
  | cons entry rest ih =>
    obtain ⟨key, previous⟩ := entry
    by_cases present : name = key
    · subst key
      by_cases same : other = name <;> simp [putIn, findIn, same]
    · by_cases same : other = name
      · subst other
        simp [putIn, findIn, present, ih]
      · by_cases head : other = key
        · subst head
          simp [putIn, findIn, present, same]
        · simp [putIn, findIn, present, same, head, ih]

theorem get?_insert (map : NameMap α) (name other : String) (value : α) :
    (map.insert name value).get? other = if other = name then some value else map.get? other :=
  findIn_putIn name other value map.entries

theorem get?_insert_self (map : NameMap α) (name : String) (value : α) :
    (map.insert name value).get? name = some value := by
  simp [get?_insert]

theorem contains_insert (map : NameMap α) (name other : String) (value : α) :
    (map.insert name value).contains other = (decide (other = name) || map.contains other) := by
  by_cases same : other = name <;> simp [contains, get?_insert, same]

private theorem findIn_isSome_iff (name : String) (entries : List (String × α)) :
    (findIn name entries).isSome ↔ name ∈ entries.map Prod.fst := by
  induction entries with
  | nil => simp [findIn]
  | cons entry rest ih =>
    by_cases head : name = entry.1 <;> simp [findIn, head, ih]

theorem contains_iff_mem_keys (map : NameMap α) (name : String) :
    map.contains name = true ↔ name ∈ map.keys :=
  findIn_isSome_iff name map.entries

private theorem keys_putIn (name : String) (value : α) (entries : List (String × α)) :
    (putIn name value entries).map Prod.fst =
      if name ∈ entries.map Prod.fst then entries.map Prod.fst
      else entries.map Prod.fst ++ [name] := by
  induction entries with
  | nil => simp [putIn]
  | cons entry rest ih =>
    by_cases head : name = entry.1
    · simp [putIn, head]
    · simp only [putIn, head, if_false, List.map_cons, ih, List.mem_cons, false_or]
      split <;> rfl

/-- Insertion keeps the order of the names and appends a new one at the end. -/
theorem keys_insert (map : NameMap α) (name : String) (value : α) :
    (map.insert name value).keys =
      if name ∈ map.keys then map.keys else map.keys ++ [name] :=
  keys_putIn name value map.entries

theorem nodup_keys_insert {map : NameMap α} (distinct : map.keys.Nodup) (name : String)
    (value : α) : (map.insert name value).keys.Nodup := by
  rw [keys_insert]
  split
  · exact distinct
  · rename_i absent
    exact List.nodup_append.mpr ⟨distinct, by simp, by
      intro key present other last same
      subst same
      exact absent (by simpa [List.mem_singleton.mp last] using present)⟩

end NameMap

end ShapeFlow
