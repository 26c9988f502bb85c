import ShapeFlow.Proofs.Schema.Acceptance

/-!
Declarations whose clauses come in another order. A clause adds one attribute, slot or type
variable, or it is a setting of the whole declaration. Declarations with the same settings that add
the same in different orders build alike: none of them becomes a schema or all of them do, and then
the schemas have the same slots and answer the same, and list the same attributes and type
variables.
-/

namespace ShapeFlow

/-- Two schemas that differ at most in the order of their attributes and type variables. -/
structure Schema.Alike (one other : Schema) : Prop where
  id : one.id = other.id
  doc : one.doc = other.doc
  support : one.support = other.support
  permissiveness : one.permissiveness = other.permissiveness
  inference : one.inference = other.inference
  inputs : one.inputs = other.inputs
  outputs : one.outputs = other.outputs
  minCount : ∀ side, Slot.minCount (one.slots side) = Slot.minCount (other.slots side)
  maxCount? : ∀ side, Slot.maxCount? (one.slots side) = Slot.maxCount? (other.slots side)
  slotAt? : ∀ side index, one.slotAt? side index = other.slotAt? side index
  attribute? : ∀ name, one.attribute? name = other.attribute? name
  constraint? : ∀ typeVariable, one.constraint? typeVariable = other.constraint? typeVariable
  attributes : one.attributes.Perm other.attributes
  constraints : one.constraints.Perm other.constraints

theorem find?_eq_of_perm {α : Type} {entries reordered : List α} {nameOf : α → String}
    (distinct : (entries.map nameOf).Nodup) (same : entries.Perm reordered) (name : String) :
    entries.find? (nameOf · == name) = reordered.find? (nameOf · == name) := by
  refine List.find?_eq_find?_of_perm same ?_
  rintro first ⟨firstListed, firstNamed⟩ second ⟨secondListed, secondNamed⟩
  exact List.inj_on_of_nodup_map distinct firstListed secondListed
    ((beq_iff_eq.mp firstNamed).trans (beq_iff_eq.mp secondNamed).symm)

namespace Declaration

/-- What a clause may add to a declaration. -/
inductive Entry where
  | spec (spec : AttributeSpec)
  | slot (side : Side) (slot : SlotDeclaration)
  | constraint (constraint : ConstraintDeclaration)

namespace Entry

/-- The attribute that is added. -/
def spec? : Entry → Option AttributeSpec
  | spec declared => some declared
  | _ => none

/-- The slot that is added on one side. -/
def slot? (side : Side) : Entry → Option SlotDeclaration
  | slot other declared => if other = side then some declared else none
  | _ => none

/-- The type variable that is added. -/
def constraint? : Entry → Option ConstraintDeclaration
  | constraint declared => some declared
  | _ => none

end Entry

/-- What a clause may say of the operator version as a whole. -/
inductive Setting where
  | domain (domain : String)
  | doc (doc : String)
  | support (support : SupportLevel)
  | allowUnchecked
  | inference (function : InferenceFunction)

/-- One thing that is said of an operator version. -/
inductive Clause where
  | add (entry : Entry)
  | set (setting : Setting)

/-- What a clause adds, unless it is a setting. -/
def Clause.entry? : Clause → Option Entry
  | .add entry => some entry
  | .set _ => none

/-- The declaration with a further entry. -/
def add (declaration : Declaration) : Entry → Declaration
  | .spec spec => declaration.addAttribute spec
  | .slot .input slot => declaration.addInput slot
  | .slot .output slot => declaration.addOutput slot
  | .constraint constraint => declaration.addConstraint constraint

/-- The declaration with another setting. -/
def set (declaration : Declaration) : Setting → Declaration
  | .domain domain => { declaration with domain }
  | .doc doc => { declaration with doc }
  | .support support => { declaration with support }
  | .allowUnchecked => { declaration with permissiveness := .allowUnchecked }
  | .inference function => { declaration with inference := some function }

/-- The declaration with a further clause. -/
def say (declaration : Declaration) : Clause → Declaration
  | .add entry => declaration.add entry
  | .set setting => declaration.set setting

/-- The declaration that clauses make of an operator version. -/
def ofClauses (name : String) (sinceVersion : Int) (clauses : List Clause) : Declaration :=
  clauses.foldl say { name, sinceVersion }

/-- Two declarations that say the same of the operator version as a whole. -/
structure SameSettings (left right : Declaration) : Prop where
  domain : left.domain = right.domain
  doc : left.doc = right.doc
  support : left.support = right.support
  permissiveness : left.permissiveness = right.permissiveness
  inference : left.inference = right.inference

/-- Two declarations that say the same in different orders. -/
structure Reordered (left right : Declaration) : Prop extends SameSettings left right where
  name : left.name = right.name
  sinceVersion : left.sinceVersion = right.sinceVersion
  attributes : left.attributes.Perm right.attributes
  slots : ∀ side, (left.slots side).Perm (right.slots side)
  constraints : left.constraints.Perm right.constraints

variable {α : Type} {left right : Declaration} {clauses first second : List Clause}
  {name : String} {sinceVersion : Int}

/-! ### What clauses add -/

theorem name_say (declaration : Declaration) (clause : Clause) :
    (declaration.say clause).name = declaration.name := by
  cases clause with
  | add entry => cases entry with
    | slot side => cases side <;> rfl
    | _ => rfl
  | set setting => cases setting <;> rfl

theorem sinceVersion_say (declaration : Declaration) (clause : Clause) :
    (declaration.say clause).sinceVersion = declaration.sinceVersion := by
  cases clause with
  | add entry => cases entry with
    | slot side => cases side <;> rfl
    | _ => rfl
  | set setting => cases setting <;> rfl

theorem attributes_say (declaration : Declaration) (clause : Clause) :
    (declaration.say clause).attributes =
      declaration.attributes ++ (clause.entry?.bind Entry.spec?).toList := by
  cases clause with
  | add entry => cases entry with
    | spec spec => rfl
    | slot side => cases side <;> exact (List.append_nil _).symm
    | constraint => exact (List.append_nil _).symm
  | set setting => cases setting <;> exact (List.append_nil _).symm

theorem slots_say (side : Side) (declaration : Declaration) (clause : Clause) :
    (declaration.say clause).slots side =
      declaration.slots side ++ (clause.entry?.bind (Entry.slot? side)).toList := by
  cases clause with
  | add entry => cases entry with
    | slot other => cases other <;> cases side <;> first | rfl | exact (List.append_nil _).symm
    | _ => cases side <;> exact (List.append_nil _).symm
  | set setting => cases setting <;> cases side <;> exact (List.append_nil _).symm

theorem constraints_say (declaration : Declaration) (clause : Clause) :
    (declaration.say clause).constraints =
      declaration.constraints ++ (clause.entry?.bind Entry.constraint?).toList := by
  cases clause with
  | add entry => cases entry with
    | constraint constraint => rfl
    | slot side => cases side <;> exact (List.append_nil _).symm
    | spec => exact (List.append_nil _).symm
  | set setting => cases setting <;> exact (List.append_nil _).symm

theorem ofClauses_eq {field : Declaration → α}
    (kept : ∀ declaration clause, field (say declaration clause) = field declaration) :
    field (ofClauses name sinceVersion clauses) = field { name, sinceVersion } := by
  unfold ofClauses
  induction clauses using List.reverseRecOn with
  | nil => rfl
  | append_singleton before last ih => rw [List.foldl_concat, kept, ih]

/-- A list to which every clause adds the part of its entry, if there is one, holds the parts of all
entries. -/
theorem ofClauses_eq_append {listed : Declaration → List α} {part : Entry → Option α}
    (grows : ∀ declaration clause,
      listed (say declaration clause) = listed declaration ++ (clause.entry?.bind part).toList) :
    listed (ofClauses name sinceVersion clauses) =
      listed { name, sinceVersion } ++ (clauses.filterMap Clause.entry?).filterMap part := by
  rw [List.filterMap_filterMap]
  unfold ofClauses
  induction clauses using List.reverseRecOn with
  | nil => simp
  | append_singleton before last ih =>
    rw [List.foldl_concat, grows, ih, List.filterMap_append, List.append_assoc]
    cases added : last.entry?.bind part <;> simp [added]

theorem perm_ofClauses (listed : Declaration → List α) {part : Entry → Option α}
    (grows : ∀ declaration clause,
      listed (say declaration clause) = listed declaration ++ (clause.entry?.bind part).toList)
    (same : (first.filterMap Clause.entry?).Perm (second.filterMap Clause.entry?)) :
    (listed (ofClauses name sinceVersion first)).Perm
      (listed (ofClauses name sinceVersion second)) := by
  rw [ofClauses_eq_append grows, ofClauses_eq_append grows]
  exact (same.filterMap part).append_left _

/-- Clauses that add the same in different orders, with the same settings, make declarations that
say the same. -/
theorem reordered_ofClauses
    (same : (first.filterMap Clause.entry?).Perm (second.filterMap Clause.entry?))
    (settings : SameSettings (ofClauses name sinceVersion first)
      (ofClauses name sinceVersion second)) :
    Reordered (ofClauses name sinceVersion first) (ofClauses name sinceVersion second) where
  toSameSettings := settings
  name := (ofClauses_eq name_say).trans (ofClauses_eq name_say).symm
  sinceVersion := (ofClauses_eq sinceVersion_say).trans (ofClauses_eq sinceVersion_say).symm
  attributes := perm_ofClauses attributes attributes_say same
  slots side := perm_ofClauses (slots · side) (slots_say side) same
  constraints := perm_ofClauses constraints constraints_say same

/-! ### What the order of slots and type variables bears on -/

theorem Reordered.symm (same : Reordered left right) : Reordered right left where
  domain := same.domain.symm
  doc := same.doc.symm
  support := same.support.symm
  permissiveness := same.permissiveness.symm
  inference := same.inference.symm
  name := same.name.symm
  sinceVersion := same.sinceVersion.symm
  attributes := same.attributes.symm
  slots side := (same.slots side).symm
  constraints := same.constraints.symm

theorem Reordered.typeVariables (same : Reordered left right) :
    left.typeVariables.Perm right.typeVariables :=
  same.constraints.map ConstraintDeclaration.typeVariable

theorem SlotsFit.of_perm {names others : List String} {slots moved : List SlotDeclaration}
    (fits : SlotsFit names slots) (sameNames : names.Perm others)
    (reordered : slots.Perm moved) : SlotsFit others moved where
  indexed := reordered.length_eq ▸ (reordered.map SlotDeclaration.index).symm.trans fits.indexed
  typed slot listed :=
    (fits.typed slot (reordered.mem_iff.mpr listed)).imp_left sameNames.mem_iff.mp
  variadicLast slot listed variadic :=
    reordered.length_eq ▸ fits.variadicLast slot (reordered.mem_iff.mpr listed) variadic

/-- No rule depends on the order in which things are said. -/
theorem WellFormed.of_reordered (formed : left.WellFormed) (same : Reordered left right) :
    right.WellFormed where
  named := same.name ▸ formed.named
  versioned := same.sinceVersion ▸ formed.versioned
  attributesDistinct :=
    (same.attributes.map AttributeSpec.name).nodup_iff.mp formed.attributesDistinct
  defaultsFit spec listed := formed.defaultsFit spec (same.attributes.mem_iff.mpr listed)
  variablesDistinct := same.typeVariables.nodup_iff.mp formed.variablesDistinct
  allowedNonempty constraint listed :=
    formed.allowedNonempty constraint (same.constraints.mem_iff.mpr listed)
  allowedRead constraint listed :=
    formed.allowedRead constraint (same.constraints.mem_iff.mpr listed)
  slotsFit side := (formed.slotsFit side).of_perm same.typeVariables (same.slots side)

theorem sortSlots_eq_of_perm {slots moved : List SlotDeclaration}
    (distinct : (slots.map SlotDeclaration.index).Nodup) (reordered : slots.Perm moved) :
    sortSlots slots = sortSlots moved := by
  have together : (sortSlots slots).Perm (sortSlots moved) :=
    (sortSlots_perm slots).trans (reordered.trans (sortSlots_perm moved).symm)
  refine together.eq_of_pairwise ?_ (sortSlots_sorted slots) (sortSlots_sorted moved)
  intro one other oneListed otherListed below above
  have oneDeclared := (sortSlots_perm slots).mem_iff.mp oneListed
  have otherDeclared := (sortSlots_perm slots).mem_iff.mp (together.mem_iff.mpr otherListed)
  exact List.inj_on_of_nodup_map distinct oneDeclared otherDeclared (Nat.le_antisymm below above)

variable {constraints others : List TypeConstraint}

/-- What a type text means depends on the names of the type variables. -/
theorem slotType?_eq_of_perm
    (same : (constraints.map TypeConstraint.typeVariable).Perm
      (others.map TypeConstraint.typeVariable)) (typeText : String) :
    slotType? constraints typeText = slotType? others typeText := by
  by_cases among : typeText ∈ constraints.map TypeConstraint.typeVariable
  · rw [slotType?_of_typeVariable among, slotType?_of_typeVariable (same.mem_iff.mp among)]
  · have notAmong := mt same.mem_iff.mpr among
    rw [slotType?_of_not_typeVariable among, slotType?_of_not_typeVariable notAmong]

theorem resolveSlots_eq_of_slotType? {side : Side}
    (same : ∀ typeText, slotType? constraints typeText = slotType? others typeText)
    (position : Nat) (slots : List SlotDeclaration) :
    resolveSlots side constraints position slots = resolveSlots side others position slots := by
  induction slots generalizing position with
  | nil => rfl
  | cons slot rest ih => simp only [resolveSlots, same, ih]

/-- The type variable that a declared one becomes. -/
def constraintOf (declared : ConstraintDeclaration) : TypeConstraint where
  typeVariable := declared.typeVariable
  allowed := (declared.allowed.filterMap ElementType.parse?).eraseDups
  doc := declared.doc

/-- What a type variable becomes does not depend on the others. -/
theorem eq_map_of_resolveConstraints {seen : List String} {declared : List ConstraintDeclaration}
    (resolved : resolveConstraints seen declared = .ok constraints) :
    constraints = declared.map constraintOf := by
  induction declared generalizing seen constraints with
  | nil =>
    cases resolved
    rfl
  | cons constraint rest ih =>
    obtain ⟨_, _, types, others, read, later, rfl⟩ := cons_of_resolveConstraints resolved
    have parsed : constraint.allowed.filterMap ElementType.parse? = types := by
      have mapped := congrArg (List.filterMap fun type => type) (map_parse?_of_readAllowed read)
      simpa [List.filterMap_map] using mapped
    rw [List.map_cons, constraintOf, parsed, ← ih later]

/-! ### Schemas of reordered declarations -/

variable {one other : Schema}

namespace Reordered

theorem constraints_perm (same : Reordered left right) (described : left.Describes one)
    (otherDescribed : right.Describes other) : one.constraints.Perm other.constraints := by
  rw [eq_map_of_resolveConstraints described.constraints,
    eq_map_of_resolveConstraints otherDescribed.constraints]
  exact same.constraints.map constraintOf

theorem slots_eq (same : Reordered left right) (described : left.Describes one)
    (otherDescribed : right.Describes other) (side : Side) : one.slots side = other.slots side := by
  have names : (one.constraints.map TypeConstraint.typeVariable).Perm
      (other.constraints.map TypeConstraint.typeVariable) :=
    (same.constraints_perm described otherDescribed).map TypeConstraint.typeVariable
  have indexed := (described.wellFormed.slotsFit side).indexed
  have sorted : sortSlots (left.slots side) = sortSlots (right.slots side) :=
    sortSlots_eq_of_perm (indexed.nodup_iff.mpr List.nodup_range) (same.slots side)
  have resolved := described.resolved side
  rw [sorted, resolveSlots_eq_of_slotType? (slotType?_eq_of_perm names),
    otherDescribed.resolved side] at resolved
  exact (Except.ok.inj resolved).symm

theorem alike (same : Reordered left right) (described : left.Describes one)
    (otherDescribed : right.Describes other) : one.Alike other := by
  have yields := described.yields
  have otherYields := otherDescribed.yields
  have formed := described.wellFormed
  have slots := same.slots_eq described otherDescribed
  have attributes : one.attributes.Perm other.attributes := by
    rw [yields.attributes, otherYields.attributes]
    exact same.attributes
  have constraints := same.constraints_perm described otherDescribed
  exact {
    id := by rw [yields.id, otherYields.id, same.domain, same.name, same.sinceVersion]
    doc := by rw [yields.doc, otherYields.doc, same.doc]
    support := by rw [yields.support, otherYields.support, same.support]
    permissiveness := by
      rw [yields.permissiveness, otherYields.permissiveness, same.permissiveness]
    inference := by rw [yields.inference, otherYields.inference, same.inference]
    inputs := slots .input
    outputs := slots .output
    minCount := fun side => by rw [slots side]
    maxCount? := fun side => by rw [slots side]
    slotAt? := fun side index => by rw [Signature.slotAt?, slots side, Signature.slotAt?]
    attribute? := find?_eq_of_perm (yields.attributes ▸ formed.attributesDistinct) attributes
    constraint? :=
      find?_eq_of_perm (described.typeVariables_eq ▸ formed.variablesDistinct) constraints
    attributes
    constraints }

end Reordered

/-- Two declarations that become schemas under the same conditions, and then alike ones. -/
structure BuildAlike (left right : Declaration) : Prop where
  builds : (∃ schema, left.build = .ok schema) ↔ ∃ schema, right.build = .ok schema
  alike : ∀ one other, left.build = .ok one → right.build = .ok other → one.Alike other

/-- Declarations build alike in whatever order attributes, slots and type variables are added. -/
theorem build_reordered
    (same : (first.filterMap Clause.entry?).Perm (second.filterMap Clause.entry?))
    (settings : SameSettings (ofClauses name sinceVersion first)
      (ofClauses name sinceVersion second)) :
    BuildAlike (ofClauses name sinceVersion first) (ofClauses name sinceVersion second) := by
  have reordered := reordered_ofClauses same settings
  constructor
  case builds =>
    rw [exists_build_iff, exists_build_iff]
    exact ⟨fun formed => formed.of_reordered reordered,
      fun formed => formed.of_reordered reordered.symm⟩
  case alike =>
    intro one other built otherBuilt
    exact reordered.alike (build_eq_ok_iff.mp built) (build_eq_ok_iff.mp otherBuilt)

/-- What is said of a slicing operator: its type variables, then its slots in order, and at the end
its attributes and a setting. -/
def slicing : List Clause := [
  .add (.constraint { typeVariable := "T", allowed := ["tensor(float)", "tensor(double)"] }),
  .add (.constraint { typeVariable := "Tind", allowed := ["tensor(int32)", "tensor(int64)"] }),
  .add (.slot .input { index := 0, name := "data", typeText := "T" }),
  .add (.slot .input { index := 1, name := "bounds", typeText := "Tind", arity := .variadic }),
  .add (.slot .output { index := 0, name := "output", typeText := "T" }),
  .add (.spec { name := "axes", kind := .ints, requirement := .required }),
  .add (.spec { name := "step", kind := .int, requirement := .defaultsTo (.int 1) }),
  .set .allowUnchecked]

/-- The same said backwards, so that slots come before the type variables that they are under. -/
theorem build_reordered_slicing :
    (slicing.filterMap Clause.entry?).Perm (slicing.reverse.filterMap Clause.entry?) ∧
      SameSettings (ofClauses "Slice" 10 slicing) (ofClauses "Slice" 10 slicing.reverse) ∧
      ∃ one other, (ofClauses "Slice" 10 slicing).build = .ok one ∧
        (ofClauses "Slice" 10 slicing.reverse).build = .ok other ∧ one.Alike other ∧
        one.attributes.map AttributeSpec.name = ["axes", "step"] ∧
        other.attributes.map AttributeSpec.name = ["step", "axes"] := by
  have same : (slicing.filterMap Clause.entry?).Perm
      (slicing.reverse.filterMap Clause.entry?) :=
    slicing.reverse_perm.symm.filterMap Clause.entry?
  have settings : SameSettings (ofClauses "Slice" 10 slicing)
      (ofClauses "Slice" 10 slicing.reverse) := ⟨rfl, rfl, rfl, rfl, rfl⟩
  have built : ∃ schema, (ofClauses "Slice" 10 slicing).build = .ok schema ∧
      schema.attributes.map AttributeSpec.name = ["axes", "step"] := ⟨_, by cbv, by cbv⟩
  obtain ⟨one, built, listed⟩ := built
  obtain ⟨builds, alike⟩ := build_reordered same settings
  obtain ⟨other, otherBuilt⟩ := builds.mp ⟨one, built⟩
  have otherListed : other.attributes = (ofClauses "Slice" 10 slicing.reverse).attributes :=
    (build_eq_ok_iff.mp otherBuilt).attributes_eq
  exact ⟨same, settings, one, other, built, otherBuilt, alike one other built otherBuilt, listed,
    otherListed ▸ rfl⟩

end Declaration

end ShapeFlow
