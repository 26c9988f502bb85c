import Mathlib
import ShapeFlow.Proofs.Schema.Build
import ShapeFlow.Proofs.Schema.WellFormed

/-!
Building accepts exactly the well-formed declarations. Each phase of the check is followed along
the part of the declaration that it still has to see: when it passes, that part keeps its rules, and
when it stops, the declaration breaks the rule that is reported.
-/

namespace ShapeFlow.Declaration

variable {declaration : Declaration} {schema : Schema}

theorem two_le_count_of_seen {α : Type} [BEq α] [LawfulBEq α] {name : α} {names seen rest : List α}
    (reordered : names.Perm (seen ++ name :: rest)) (repeated : name ∈ seen) :
    2 ≤ names.count name := by
  have before := List.count_pos_iff.mpr repeated
  rw [reordered.count_eq, List.count_append, List.count_cons_self]
  omega

/-! ### Attributes -/

theorem attributes_of_checkAttributes {seen : List String} {specs : List AttributeSpec}
    (distinct : seen.Nodup) (checked : checkAttributes seen specs = .ok ()) :
    (seen ++ specs.map AttributeSpec.name).Nodup ∧
      ∀ spec ∈ specs, ∀ value, spec.default? = some value → value.kind = spec.kind := by
  induction specs generalizing seen with
  | nil => exact ⟨by simpa using distinct, by simp⟩
  | cons spec rest ih =>
    rw [checkAttributes] at checked
    split at checked
    · cases checked
    · rename_i fresh
      have split : checkAttributes (spec.name :: seen) rest = .ok () ∧
          ∀ value, spec.default? = some value → value.kind = spec.kind := by
        cases defaulted : spec.default? with
        | none => exact ⟨by simpa [defaulted] using checked, by simp⟩
        | some value =>
          by_cases fits : value.kind = spec.kind
          · exact ⟨by simpa [defaulted, fits] using checked, by simpa using fits⟩
          · simp [defaulted, fits] at checked
      obtain ⟨others, fit⟩ := ih (List.nodup_cons.mpr ⟨fresh, distinct⟩) split.1
      refine ⟨?_, List.forall_mem_cons.mpr ⟨split.2, fit⟩⟩
      rw [List.map_cons]
      exact List.perm_middle.nodup_iff.mpr others

/-- The attributes still to be checked come after those whose names were seen. -/
theorem breaks_of_checkAttributes {rule : SchemaRule} {seen : List String}
    {specs : List AttributeSpec}
    (reordered : (declaration.attributes.map AttributeSpec.name).Perm
      (seen ++ specs.map AttributeSpec.name))
    (declared : specs ⊆ declaration.attributes)
    (failed : checkAttributes seen specs = .error rule) : declaration.Breaks rule := by
  induction specs generalizing seen with
  | nil => cases failed
  | cons spec rest ih =>
    have later (failed : checkAttributes (spec.name :: seen) rest = .error rule) :
        declaration.Breaks rule :=
      ih (reordered.trans List.perm_middle) (List.subset_of_cons_subset declared) failed
    rw [checkAttributes] at failed
    split at failed
    · rename_i repeated
      cases failed
      exact two_le_count_of_seen reordered repeated
    · split at failed
      · rename_i value defaulted
        split at failed
        · exact later failed
        · rename_i differs
          cases failed
          exact ⟨spec, declared List.mem_cons_self, rfl, rfl, differs, value, defaulted, rfl⟩
      · exact later failed

/-! ### Type variables -/

theorem map_parse?_of_readAllowed {typeVariable : String} {typeTexts : List String}
    {types : List ElementType} (read : readAllowed typeVariable typeTexts = .ok types) :
    typeTexts.map ElementType.parse? = types.map some := by
  induction typeTexts generalizing types with
  | nil =>
    cases read
    rfl
  | cons typeText rest ih =>
    rw [readAllowed] at read
    split at read
    · cases read
    · rename_i type parsed
      obtain ⟨others, later, rfl⟩ := exists_of_map_eq_ok read
      rw [List.map_cons, List.map_cons, parsed, ih later]

theorem unknown_of_readAllowed {rule : SchemaRule} {typeVariable : String}
    {typeTexts : List String} (failed : readAllowed typeVariable typeTexts = .error rule) :
    ∃ typeText ∈ typeTexts, ElementType.parse? typeText = none ∧
      rule = .unknownTypeString typeVariable typeText := by
  induction typeTexts with
  | nil => cases failed
  | cons typeText rest ih =>
    rw [readAllowed] at failed
    split at failed
    · rename_i unread
      cases failed
      exact ⟨typeText, List.mem_cons_self, unread, rfl⟩
    · obtain ⟨unread, listed, described⟩ := ih (eq_error_of_map failed)
      exact ⟨unread, List.mem_cons_of_mem _ listed, described⟩

/-- Repeated elements are kept where they first occur. -/
theorem eraseDups_pairwise_idxOf (types : List ElementType) :
    types.eraseDups.Pairwise fun earlier later =>
      types.idxOf earlier < types.idxOf later := by
  induction types using List.reverseRecOn with
  | nil => simp
  | append_singleton before last ih =>
    have kept : before.eraseDups.Pairwise fun earlier later =>
        (before ++ [last]).idxOf earlier < (before ++ [last]).idxOf later := by
      refine ih.imp_of_mem fun earlierKept laterKept increases => ?_
      rwa [List.idxOf_append_of_mem (List.mem_eraseDups.mp earlierKept),
        List.idxOf_append_of_mem (List.mem_eraseDups.mp laterKept)]
    rw [List.eraseDups_append]
    by_cases repeated : last ∈ before
    · rw [List.removeAll]
      simpa [repeated] using kept
    · have appended : ([last].removeAll before).eraseDups = [last] := by
        simp [List.removeAll, repeated, List.eraseDups_cons]
      rw [appended, List.pairwise_append]
      refine ⟨kept, List.pairwise_singleton _ _, fun earlier earlierKept later new => ?_⟩
      obtain rfl := List.mem_singleton.mp new
      have listed := List.mem_eraseDups.mp earlierKept
      have inside := List.idxOf_lt_length_of_mem listed
      rw [List.idxOf_append_of_mem listed, List.idxOf_append_of_notMem repeated]
      omega

theorem findIdx_parse?_eq {typeTexts : List String} {types : List ElementType}
    (read : typeTexts.map ElementType.parse? = types.map some) (type : ElementType) :
    typeTexts.findIdx (ElementType.parse? · == some type) = types.idxOf type := by
  have sameIndex := congrArg (List.findIdx (· == some type)) read
  rw [List.findIdx_map, List.findIdx_map] at sameIndex
  simpa [Function.comp_def, List.idxOf] using sameIndex

theorem admits_of_readAllowed {declared : ConstraintDeclaration} {types : List ElementType}
    (read : readAllowed declared.typeVariable declared.allowed = .ok types) :
    Admits declared ⟨declared.typeVariable, types.eraseDups, declared.doc⟩ := by
  have parsed := map_parse?_of_readAllowed read
  refine ⟨rfl, rfl, fun type => ?_, ?_⟩
  · have sameTypes : some type ∈ types.map some ↔
        some type ∈ declared.allowed.map ElementType.parse? := by rw [parsed]
    simpa [List.mem_eraseDups] using sameTypes
  · refine (eraseDups_pairwise_idxOf types).imp fun increases => ?_
    rwa [findIdx_parse?_eq parsed, findIdx_parse?_eq parsed]

theorem admits_of_resolveConstraints {seen : List String}
    {declared : List ConstraintDeclaration} {constraints : List TypeConstraint}
    (distinct : seen.Nodup) (resolved : resolveConstraints seen declared = .ok constraints) :
    (seen ++ declared.map ConstraintDeclaration.typeVariable).Nodup ∧
      (∀ constraint ∈ declared, constraint.allowed ≠ [] ∧
        ∀ typeText ∈ constraint.allowed, ∃ type, ElementType.parse? typeText = some type) ∧
      List.Forall₂ Admits declared constraints := by
  induction declared generalizing seen constraints with
  | nil =>
    cases resolved
    exact ⟨by simpa using distinct, by simp, .nil⟩
  | cons constraint rest ih =>
    obtain ⟨fresh, nonempty, types, others, read, later, rfl⟩ :=
      cons_of_resolveConstraints resolved
    obtain ⟨othersDistinct, othersRead, admitted⟩ :=
      ih (List.nodup_cons.mpr ⟨fresh, distinct⟩) later
    refine ⟨?_, List.forall_mem_cons.mpr ⟨⟨nonempty, fun typeText listed => ?_⟩, othersRead⟩,
      .cons (admits_of_readAllowed read) admitted⟩
    · rw [List.map_cons]
      exact List.perm_middle.nodup_iff.mpr othersDistinct
    · have parsed := List.mem_map_of_mem (f := ElementType.parse?) listed
      rw [map_parse?_of_readAllowed read] at parsed
      obtain ⟨type, -, same⟩ := List.mem_map.mp parsed
      exact ⟨type, same.symm⟩

theorem breaks_of_resolveConstraints {rule : SchemaRule} {seen : List String}
    {rest : List ConstraintDeclaration}
    (reordered : declaration.typeVariables.Perm
      (seen ++ rest.map ConstraintDeclaration.typeVariable))
    (declared : rest ⊆ declaration.constraints)
    (failed : resolveConstraints seen rest = .error rule) : declaration.Breaks rule := by
  induction rest generalizing seen with
  | nil => cases failed
  | cons constraint rest ih =>
    have listed : constraint ∈ declaration.constraints := declared List.mem_cons_self
    rw [resolveConstraints] at failed
    split at failed
    · rename_i repeated
      cases failed
      exact two_le_count_of_seen reordered repeated
    · split at failed
      · rename_i empty
        cases failed
        exact ⟨constraint, listed, rfl, empty⟩
      · split at failed
        · rename_i first unread
          cases failed
          obtain ⟨typeText, among, unknown, rfl⟩ := unknown_of_readAllowed unread
          exact ⟨constraint, listed, rfl, among, unknown⟩
        · exact ih (reordered.trans List.perm_middle) (List.subset_of_cons_subset declared)
            (eq_error_of_map failed)

/-! ### Slots -/

theorem slotType?_of_not_typeVariable {constraints : List TypeConstraint} {typeText : String}
    (undeclared : typeText ∉ constraints.map TypeConstraint.typeVariable) :
    slotType? constraints typeText = (ElementType.parse? typeText).map SlotType.fixed := by
  rw [slotType?, if_neg]
  intro found
  obtain ⟨constraint, listed, same⟩ := List.any_eq_true.mp found
  exact undeclared (List.mem_map.mpr ⟨constraint, listed, beq_iff_eq.mp same⟩)

/-- A type text without a meaning names no variable and is no type string. -/
theorem unread_of_slotType?_eq_none {constraints : List TypeConstraint} {typeText : String}
    (unread : slotType? constraints typeText = none) :
    typeText ∉ constraints.map TypeConstraint.typeVariable ∧
      ElementType.parse? typeText = none := by
  have undeclared : typeText ∉ constraints.map TypeConstraint.typeVariable := by
    intro among
    rw [slotType?_of_typeVariable among] at unread
    cases unread
  rw [slotType?_of_not_typeVariable undeclared] at unread
  exact ⟨undeclared, Option.map_eq_none_iff.mp unread⟩

theorem SlotDescribes.resolves {constraints : List TypeConstraint} {declared : SlotDeclaration}
    {slot : Slot} (described : SlotDescribes constraints declared slot) :
    Resolves (constraints.map TypeConstraint.typeVariable) declared slot := by
  refine ⟨described.name, described.arity, described.doc, ?_⟩
  have found := described.type
  by_cases among : declared.typeText ∈ constraints.map TypeConstraint.typeVariable
  · rw [slotType?_of_typeVariable among] at found
    exact .inl ⟨among, (Option.some.inj found).symm⟩
  · rw [slotType?_of_not_typeVariable among] at found
    obtain ⟨type, read, same⟩ := Option.map_eq_some_iff.mp found
    exact .inr ⟨among, type, read, same.symm⟩

/-- Accepted slots are numbered from the position on, and only the last may be variadic. -/
theorem indices_of_resolveSlots {side : Side} {constraints : List TypeConstraint}
    {position : Nat} {declared : List SlotDeclaration} {slots : List Slot}
    (resolved : resolveSlots side constraints position declared = .ok slots) :
    declared.map SlotDeclaration.index = List.range' position declared.length ∧
      ∀ slot ∈ declared, slot.arity = .variadic →
        slot.index + 1 = position + declared.length := by
  induction declared generalizing position slots with
  | nil => simp
  | cons slot rest ih =>
    obtain ⟨placed, alone, _, others, _, later, rfl⟩ := cons_of_resolveSlots resolved
    obtain ⟨numbered, last⟩ := ih later
    refine ⟨?_, List.forall_mem_cons.mpr ⟨fun variadic => ?_, fun other listed fits => ?_⟩⟩
    · rw [List.map_cons, List.length_cons, List.range'_succ, numbered, placed]
    · rw [alone variadic, placed, List.length_singleton]
    · rw [last other listed fits, List.length_cons]
      omega

theorem sortSlots_perm (slots : List SlotDeclaration) : (sortSlots slots).Perm slots :=
  List.mergeSort_perm slots _

theorem sortSlots_sorted (slots : List SlotDeclaration) :
    (sortSlots slots).Pairwise fun earlier later => earlier.index ≤ later.index := by
  have sorted : (sortSlots slots).Pairwise fun earlier later =>
      decide (earlier.index ≤ later.index) = true :=
    List.pairwise_mergeSort
      (fun first second third => by simpa using Nat.le_trans)
      (fun first second => by simpa using Nat.le_total first.index second.index) slots
  exact sorted.imp fun inOrder => of_decide_eq_true inOrder

theorem exists_resolves {side : Side} {constraints : List TypeConstraint}
    {declared : List SlotDeclaration} {slots : List Slot}
    (resolved : resolveSlots side constraints 0 (sortSlots declared) = .ok slots)
    {slot : SlotDeclaration} (listed : slot ∈ declared) :
    ∃ built, slots[slot.index]? = some built ∧
      Resolves (constraints.map TypeConstraint.typeVariable) slot built := by
  have numbered := (indices_of_resolveSlots resolved).1
  obtain ⟨sameLength, described⟩ := List.forall₂_iff_get.mp (slots_of_resolveSlots resolved)
  obtain ⟨index, inside, rfl⟩ := List.getElem_of_mem ((sortSlots_perm declared).mem_iff.mpr listed)
  have placed : (sortSlots declared)[index].index = index := by
    have := congrArg (·[index]?) numbered
    simpa [List.getElem?_eq_getElem inside, inside] using this
  rw [placed]
  exact ⟨_, List.getElem?_eq_getElem (sameLength ▸ inside), (described index inside _).resolves⟩

theorem slotsFit_of_resolveSlots {side : Side} {constraints : List TypeConstraint}
    {declared : List SlotDeclaration} {slots : List Slot}
    (resolved : resolveSlots side constraints 0 (sortSlots declared) = .ok slots) :
    SlotsFit (constraints.map TypeConstraint.typeVariable) declared := by
  obtain ⟨numbered, last⟩ := indices_of_resolveSlots resolved
  have reordered := sortSlots_perm declared
  refine ⟨?_, fun slot listed => ?_, fun slot listed variadic => ?_⟩
  · rw [List.range_eq_range', ← reordered.length_eq, ← numbered]
    exact (reordered.map SlotDeclaration.index).symm
  · obtain ⟨built, -, described⟩ := exists_resolves resolved listed
    rcases described.type with ⟨among, -⟩ | ⟨-, type, read, -⟩
    · exact .inl among
    · exact .inr ⟨type, read⟩
  · rw [last slot (reordered.mem_iff.mpr listed) variadic, reordered.length_eq, Nat.zero_add]

/-- The earlier slots fill every place before this one, and no later slot has a smaller index. An
index behind the place was used before; one ahead of it leaves the place empty. -/
theorem breaks_slotIndex {side : Side} {index place : Nat} {later : List Nat}
    (indices : ((declaration.slots side).map SlotDeclaration.index).Perm
      (List.range place ++ index :: later))
    (least : ∀ other ∈ later, index ≤ other) (misplaced : index ≠ place) :
    declaration.Breaks (.slotIndex side index) := by
  refine ⟨indices.mem_iff.mpr (by simp), ?_⟩
  rcases Nat.lt_or_gt_of_ne misplaced with behind | ahead
  · exact .inl (two_le_count_of_seen indices (List.mem_range.mpr behind))
  · refine .inr ⟨place, ahead, fun used => ?_⟩
    rcases List.mem_append.mp (indices.mem_iff.mp used) with filled | others
    · exact Nat.lt_irrefl _ (List.mem_range.mp filled)
    · rcases List.mem_cons.mp others with same | among
      · exact misplaced same.symm
      · exact absurd (least place among) (Nat.not_le.mpr ahead)

theorem breaks_of_resolveSlots {side : Side} {constraints : List TypeConstraint}
    {rule : SchemaRule} {before rest : List SlotDeclaration}
    (sameVariables : constraints.map TypeConstraint.typeVariable = declaration.typeVariables)
    (reordered : (declaration.slots side).Perm (before ++ rest))
    (placed : before.map SlotDeclaration.index = List.range before.length)
    (sorted : rest.Pairwise fun earlier later => earlier.index ≤ later.index)
    (failed : resolveSlots side constraints before.length rest = .error rule) :
    declaration.Breaks rule := by
  induction rest generalizing before with
  | nil => cases failed
  | cons slot rest ih =>
    have listed : slot ∈ declaration.slots side := reordered.mem_iff.mpr (by simp)
    obtain ⟨least, restSorted⟩ := List.pairwise_cons.mp sorted
    rw [resolveSlots] at failed
    split at failed
    · rename_i misplaced
      cases failed
      have indices := reordered.map SlotDeclaration.index
      rw [List.map_append, placed, List.map_cons] at indices
      exact breaks_slotIndex indices (by simpa using least) misplaced
    · rename_i inPlace
      have inPlace : slot.index = before.length := not_not.mp inPlace
      split at failed
      · rename_i followed
        cases failed
        refine ⟨slot, listed, rfl, followed.1, ?_⟩
        have some := List.length_pos_iff.mpr followed.2
        rw [reordered.length_eq, List.length_append, List.length_cons, inPlace]
        omega
      · split at failed
        · rename_i unread
          cases failed
          obtain ⟨undeclared, unparsed⟩ := unread_of_slotType?_eq_none unread
          exact ⟨slot, listed, rfl, rfl, sameVariables ▸ undeclared, unparsed⟩
        · have next : (declaration.slots side).Perm ((before ++ [slot]) ++ rest) := by
            simpa using reordered
          apply ih next
          · rw [List.map_append, placed, List.length_append, List.length_singleton,
              List.range_succ, List.map_singleton, inPlace]
          · exact restSorted
          · rw [List.length_append, List.length_singleton]
            exact eq_error_of_map failed

/-! ### The whole declaration -/

namespace Describes

theorem typeVariables_eq (described : declaration.Describes schema) :
    schema.constraints.map TypeConstraint.typeVariable = declaration.typeVariables :=
  typeVariables_of_resolveConstraints described.constraints

theorem resolved (described : declaration.Describes schema) (side : Side) :
    resolveSlots side schema.constraints 0 (sortSlots (declaration.slots side)) =
      .ok (schema.slots side) := by
  cases side with
  | input => exact described.inputs
  | output => exact described.outputs

theorem wellFormed (described : declaration.Describes schema) : declaration.WellFormed := by
  have attributes := attributes_of_checkAttributes List.nodup_nil described.attributesFit
  have admitted := admits_of_resolveConstraints List.nodup_nil described.constraints
  exact {
    named := described.named
    versioned := described.versioned
    attributesDistinct := by simpa using attributes.1
    defaultsFit := attributes.2
    variablesDistinct := by simpa [typeVariables] using admitted.1
    allowedNonempty := fun constraint listed => (admitted.2.1 constraint listed).1
    allowedRead := fun constraint listed => (admitted.2.1 constraint listed).2
    slotsFit := fun side =>
      described.typeVariables_eq ▸ slotsFit_of_resolveSlots (described.resolved side) }

theorem yields (described : declaration.Describes schema) : declaration.Yields schema := by
  have kept := described.kept
  exact {
    id := described.id_eq
    doc := by rw [kept]
    attributes := described.attributes_eq
    constraints := (admits_of_resolveConstraints List.nodup_nil described.constraints).2.2
    slots := fun side declared listed =>
      described.typeVariables_eq ▸ exists_resolves (described.resolved side) listed
    slotCount := fun side => by
      rw [← (slots_of_resolveSlots (described.resolved side)).length_eq,
        (sortSlots_perm _).length_eq]
    support := by rw [kept]
    permissiveness := by rw [kept]
    inference := described.inference_eq }

end Describes

theorem breaks_of_check {rule : SchemaRule} (failed : declaration.check = .error rule) :
    declaration.Breaks rule := by
  unfold check at failed
  split at failed
  · rename_i unnamed
    cases failed
    exact unnamed
  · split at failed
    · rename_i early
      cases failed
      exact ⟨rfl, early⟩
    · simp only [bind, Except.bind, pure, Except.pure] at failed
      split at failed
      · rename_i unfit
        cases failed
        exact breaks_of_checkAttributes (.refl _) (List.Subset.refl _) unfit
      · split at failed
        · rename_i unresolved
          cases failed
          exact breaks_of_resolveConstraints (.refl _) (List.Subset.refl _) unresolved
        · rename_i constraints resolved
          have sameVariables := typeVariables_of_resolveConstraints resolved
          have broken (side : Side) (unresolved : resolveSlots side constraints 0
              (sortSlots (declaration.slots side)) = .error rule) : declaration.Breaks rule := by
            have reordered : (declaration.slots side).Perm
                ([] ++ sortSlots (declaration.slots side)) := (sortSlots_perm _).symm
            exact breaks_of_resolveSlots sameVariables reordered rfl (sortSlots_sorted _) unresolved
          split at failed
          · rename_i unresolved
            cases failed
            exact broken .input unresolved
          · split at failed
            · rename_i unresolved
              cases failed
              exact broken .output unresolved
            · cases failed

/-- A refusal names the operator version, under its normalized domain, and a rule that the
declaration breaks. -/
theorem breaks_of_build {problem : RegistrationError}
    (refused : declaration.build = .error problem) :
    ∃ rule, problem = .definition declaration.id rule ∧ declaration.Breaks rule := by
  obtain ⟨rule, checked, same⟩ := exists_of_mapError_eq_error refused
  exact ⟨rule, same.symm, breaks_of_check checked⟩

/-- Exactly the well-formed declarations build. -/
theorem exists_build_iff : (∃ schema, declaration.build = .ok schema) ↔ declaration.WellFormed := by
  constructor
  · rintro ⟨schema, built⟩
    exact (build_eq_ok_iff.mp built).wellFormed
  · intro formed
    cases built : declaration.build with
    | ok schema => exact ⟨schema, rfl⟩
    | error problem =>
      obtain ⟨rule, -, broken⟩ := breaks_of_build built
      exact absurd broken (formed.not_breaks rule)

/-- Building accepts exactly the well-formed declarations and yields what they declare. A refusal
names the operator version, under its normalized domain, and a rule that the declaration breaks. -/
theorem build_outcome (declaration : Declaration) :
    ((∃ schema, declaration.build = .ok schema) ↔ declaration.WellFormed) ∧
      (∀ schema, declaration.build = .ok schema → declaration.Yields schema) ∧
      ∀ problem, declaration.build = .error problem → ∃ rule,
        problem = .definition
          (.normalized declaration.domain declaration.name declaration.sinceVersion) rule ∧
        declaration.Breaks rule :=
  ⟨exists_build_iff, fun _ built => (build_eq_ok_iff.mp built).yields,
    fun _ refused => breaks_of_build refused⟩

/-- A declaration with a type variable named like a type string, slots in another order than
their indices, and types allowed twice. -/
def shadowing : Declaration where
  name := "Gather"
  sinceVersion := 13
  domain := "ai.onnx"
  inputs := [
    { index := 1, name := "indices", typeText := "tensor(int64)", arity := .variadic },
    { index := 0, name := "data", typeText := "tensor(float)" }]
  outputs := [{ index := 0, name := "output", typeText := "tensor(float)" }]
  constraints := [
    { typeVariable := "tensor(float)"
      allowed := ["tensor(double)", " tensor(float)", "tensor(double)"] }]

/-- Output 1 is left out. -/
def gapped : Declaration :=
  shadowing.addOutput { index := 2, name := "mask", typeText := "tensor(bool)" }

theorem build_outcome_shadowing :
    (∃ schema, shadowing.build = .ok schema ∧ shadowing.WellFormed ∧ shadowing.Yields schema ∧
      schema.inputs.map Slot.type = [.typeVariable "tensor(float)", .fixed .int64] ∧
      schema.constraints.map TypeConstraint.allowed = [[.float64, .float32]]) ∧
    gapped.build = .error (.definition ⟨"", "Gather", 13⟩ (.slotIndex .output 2)) ∧
      gapped.Breaks (.slotIndex .output 2) := by
  constructor
  · have built : ∃ schema, shadowing.build = .ok schema ∧
        schema.inputs.map Slot.type = [.typeVariable "tensor(float)", .fixed .int64] ∧
        schema.constraints.map TypeConstraint.allowed = [[.float64, .float32]] :=
      ⟨_, by cbv, by cbv, by cbv⟩
    obtain ⟨schema, built, types, allowed⟩ := built
    obtain ⟨accepted, yields, -⟩ := build_outcome shadowing
    exact ⟨schema, built, accepted.mp ⟨schema, built⟩, yields schema built, types, allowed⟩
  · have refused :
        gapped.build = .error (.definition ⟨"", "Gather", 13⟩ (.slotIndex .output 2)) := by cbv
    obtain ⟨rule, same, broken⟩ := (build_outcome gapped).2.2 _ refused
    cases same
    exact ⟨refused, broken⟩

end ShapeFlow.Declaration
