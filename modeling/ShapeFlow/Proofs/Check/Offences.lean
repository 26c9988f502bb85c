import ShapeFlow.Proofs.Check.Answers
import ShapeFlow.Proofs.NameMap
import ShapeFlow.Proofs.Text.ByteOrder

/-!
What the attribute check reports. Offences are said of a signature and of what is set, without the
check. The check lists each of them once: those of declared attributes in the order of declaration,
and behind them the undeclared names in increasing order of their bytes. The order in which
attributes were set does not matter, and what is undeclared has no bearing on what is declared.
-/

namespace ShapeFlow

/-- The name of the attribute that a problem is about. -/
def AttributeError.attribute : AttributeError → String
  | .missingRequired name => name
  | .kindMismatch name _ _ => name
  | .unexpected name => name

theorem AttributeSpec.isRequired_iff {spec : AttributeSpec} :
    spec.isRequired = true ↔ spec.requirement = .required := by
  cases required : spec.requirement <;> simp [isRequired, required]

namespace Check

/-- What is wrong with one declared attribute. -/
inductive SpecOffence (values : NameMap AttributeValue) (spec : AttributeSpec) :
    AttributeError → Prop where
  | mismatch {value : AttributeValue} (held : values.get? spec.name = some value)
      (different : value.kind ≠ spec.kind) :
      SpecOffence values spec (.kindMismatch spec.name spec.kind value.kind)
  | missing (required : spec.requirement = .required) (absent : values.get? spec.name = none) :
      SpecOffence values spec (.missingRequired spec.name)

/-- What is wrong with the attributes of a node. -/
inductive AttributeOffence (signature : Signature) (values : NameMap AttributeValue) :
    AttributeError → Prop where
  | declared {spec : AttributeSpec} {problem : AttributeError}
      (listed : spec ∈ signature.attributes) (offence : SpecOffence values spec problem) :
      AttributeOffence signature values problem
  | undeclared {name : String} (strict : signature.permissiveness = .strict)
      (present : values.contains name = true)
      (unlisted : ∀ spec ∈ signature.attributes, spec.name ≠ name) :
      AttributeOffence signature values (.unexpected name)

/-- Nothing is wrong with the attributes of a node. -/
structure AttributesConform (signature : Signature) (values : NameMap AttributeValue) : Prop where
  kinds : ∀ spec ∈ signature.attributes, ∀ value,
    values.get? spec.name = some value → value.kind = spec.kind
  present : ∀ spec ∈ signature.attributes, spec.requirement = .required →
    ∃ value, values.get? spec.name = some value
  declared : signature.permissiveness = .strict → ∀ name, values.contains name = true →
    ∃ spec ∈ signature.attributes, spec.name = name

/-- The problems of declared attributes among those that are reported. -/
def declaredProblems (signature : Signature) (values : NameMap AttributeValue) :
    List AttributeError :=
  (attributes signature values).filter fun problem =>
    (signature.attribute? problem.attribute).isSome

variable {declaration : Declaration} {schema : Schema} {signature : Signature}
  {values others : NameMap AttributeValue} {spec : AttributeSpec} {problem : AttributeError}
  {name : String}

theorem attributesConform_iff :
    AttributesConform signature values ↔
      ∀ problem, ¬ AttributeOffence signature values problem := by
  constructor
  · rintro conform problem (⟨listed, ⟨held, different⟩ | ⟨required, absent⟩⟩ |
      ⟨strict, present, unlisted⟩)
    · exact different (conform.kinds _ listed _ held)
    · obtain ⟨value, held⟩ := conform.present _ listed required
      cases absent.symm.trans held
    · obtain ⟨spec, listed, same⟩ := conform.declared strict _ present
      exact unlisted spec listed same
  · intro quiet
    constructor
    case kinds =>
      intro spec listed value held
      by_contra different
      exact quiet _ (.declared listed (.mismatch held different))
    case present =>
      intro spec listed required
      refine Option.ne_none_iff_exists'.mp fun absent => ?_
      exact quiet _ (.declared listed (.missing required absent))
    case declared =>
      intro strict name present
      by_contra unlisted
      have apart (spec : AttributeSpec) (listed : spec ∈ signature.attributes) :
          spec.name ≠ name := fun same => unlisted ⟨spec, listed, same⟩
      exact quiet _ (.undeclared strict present apart)

theorem declaredAttribute_eq_some_iff :
    declaredAttribute values spec = some problem ↔ SpecOffence values spec problem := by
  unfold declaredAttribute
  constructor
  · intro found
    split at found
    · rename_i value held
      split at found
      · cases found
      · rename_i different
        cases found
        exact .mismatch held different
    · rename_i absent
      split at found
      · rename_i required
        cases found
        exact .missing (AttributeSpec.isRequired_iff.mp required) absent
      · cases found
  · rintro (⟨held, different⟩ | ⟨required, absent⟩)
    · simp [held, different]
    · simp [absent, AttributeSpec.isRequired_iff.mpr required]

theorem SpecOffence.attribute_eq (offence : SpecOffence values spec problem) :
    problem.attribute = spec.name := by
  cases offence <;> rfl

theorem attribute?_eq_none_iff :
    signature.attribute? name = none ↔ ∀ spec ∈ signature.attributes, spec.name ≠ name := by
  simp [Signature.attribute?]

/-- The report lists the offences and nothing else. -/
theorem mem_attributes_iff :
    problem ∈ attributes signature values ↔ AttributeOffence signature values problem := by
  rw [attributes, List.mem_append, List.mem_filterMap]
  constructor
  · rintro (⟨spec, listed, found⟩ | listed)
    · exact .declared listed (declaredAttribute_eq_some_iff.mp found)
    · split at listed
      · rename_i strict
        obtain ⟨name, among, rfl⟩ := List.mem_map.mp listed
        obtain ⟨present, absent⟩ := mem_undeclaredNames_iff.mp among
        exact .undeclared strict present (attribute?_eq_none_iff.mp absent)
      · cases listed
  · rintro (⟨listed, offence⟩ | ⟨strict, present, unlisted⟩)
    · exact .inl ⟨_, listed, declaredAttribute_eq_some_iff.mpr offence⟩
    · have among := mem_undeclaredNames_iff.mpr ⟨present, attribute?_eq_none_iff.mpr unlisted⟩
      rw [strict]
      exact .inr (List.mem_map_of_mem among)

theorem filterMap_declaredAttribute_sublist (values : NameMap AttributeValue)
    (specs : List AttributeSpec) :
    ((specs.filterMap (declaredAttribute values)).map AttributeError.attribute).Sublist
      (specs.map AttributeSpec.name) := by
  induction specs with
  | nil => exact .slnil
  | cons spec rest ih =>
    cases found : declaredAttribute values spec with
    | none =>
      rw [List.filterMap_cons_none found]
      exact ih.cons _
    | some problem =>
      rw [List.filterMap_cons_some found, List.map_cons, List.map_cons,
        (declaredAttribute_eq_some_iff.mp found).attribute_eq]
      exact ih.cons_cons _

theorem undeclaredNames_perm (signature : Signature) (values : NameMap AttributeValue) :
    (undeclaredNames signature values).Perm
      (values.keys.filter fun name => (signature.attribute? name).isNone) :=
  List.mergeSort_perm _ _

theorem undeclaredNames_sorted (signature : Signature) (values : NameMap AttributeValue) :
    (undeclaredNames signature values).Pairwise (· ≤ ·) := by
  have sorted : (undeclaredNames signature values).Pairwise fun earlier later =>
      decide (earlier ≤ later) = true :=
    List.pairwise_mergeSort
      (fun first second third => by simpa using le_trans)
      (fun first second => by simpa using le_total first second) _
  exact sorted.imp fun inOrder => of_decide_eq_true inOrder

theorem undeclaredNames_nodup (distinct : values.keys.Nodup) :
    (undeclaredNames signature values).Nodup :=
  (undeclaredNames_perm signature values).nodup_iff.mpr (distinct.filter _)

theorem undeclaredNames_increasing (distinct : values.keys.Nodup) :
    (undeclaredNames signature values).Pairwise fun earlier later =>
      Text.utf8Bytes earlier < Text.utf8Bytes later :=
  ((undeclaredNames_sorted signature values).and (undeclaredNames_nodup distinct)).imp
    fun both => Text.utf8Bytes_lt (lt_of_le_of_ne both.1 both.2)

/-- The undeclared names that are reported. A signature may leave them unchecked. -/
def reportedNames (signature : Signature) (values : NameMap AttributeValue) : List String :=
  match signature.permissiveness with
  | .strict => undeclaredNames signature values
  | .allowUnchecked => []

theorem attributes_eq_append (signature : Signature) (values : NameMap AttributeValue) :
    attributes signature values = signature.attributes.filterMap (declaredAttribute values) ++
      (reportedNames signature values).map AttributeError.unexpected := by
  rw [attributes, reportedNames]
  cases signature.permissiveness <;> rfl

theorem reportedNames_sublist :
    (reportedNames signature values).Sublist (undeclaredNames signature values) := by
  unfold reportedNames
  split
  · exact .refl _
  · exact List.nil_sublist _

theorem declaredProblems_eq (signature : Signature) (values : NameMap AttributeValue) :
    declaredProblems signature values =
      signature.attributes.filterMap (declaredAttribute values) := by
  have own : ∀ problem ∈ signature.attributes.filterMap (declaredAttribute values),
      (signature.attribute? problem.attribute).isSome = true := by
    intro problem listed
    obtain ⟨spec, declared, found⟩ := List.mem_filterMap.mp listed
    rw [(declaredAttribute_eq_some_iff.mp found).attribute_eq, Signature.attribute?,
      List.find?_isSome]
    exact ⟨spec, declared, beq_self_eq_true _⟩
  have other : ∀ problem ∈ (reportedNames signature values).map AttributeError.unexpected,
      ¬ (signature.attribute? problem.attribute).isSome = true := by
    intro problem listed
    obtain ⟨name, among, rfl⟩ := List.mem_map.mp listed
    have absent := (mem_undeclaredNames_iff.mp (reportedNames_sublist.subset among)).2
    simp [AttributeError.attribute, absent]
  rw [declaredProblems, attributes_eq_append, List.filter_append, List.filter_eq_self.mpr own,
    List.filter_eq_nil_iff.mpr other, List.append_nil]

theorem filterMap_declaredAttribute_congr
    (same : ∀ spec ∈ signature.attributes, others.get? spec.name = values.get? spec.name) :
    signature.attributes.filterMap (declaredAttribute others) =
      signature.attributes.filterMap (declaredAttribute values) :=
  List.filterMap_congr fun spec listed => by
    rw [declaredAttribute, same spec listed, ← declaredAttribute]

theorem undeclaredNames_congr (distinct : values.keys.Nodup) (othersDistinct : others.keys.Nodup)
    (same : ∀ name, others.get? name = values.get? name) :
    undeclaredNames signature others = undeclaredNames signature values := by
  have keys := (NameMap.keys_perm othersDistinct distinct same).filter
    fun name => (signature.attribute? name).isNone
  exact List.Perm.eq_of_pairwise (fun _ _ _ _ => le_antisymm)
    (undeclaredNames_sorted signature others) (undeclaredNames_sorted signature values)
    (((undeclaredNames_perm signature others).trans keys).trans
      (undeclaredNames_perm signature values).symm)

theorem attributes_congr (distinct : values.keys.Nodup) (othersDistinct : others.keys.Nodup)
    (same : ∀ name, others.get? name = values.get? name) :
    attributes signature others = attributes signature values := by
  rw [attributes, attributes, filterMap_declaredAttribute_congr fun spec _ => same spec.name,
    undeclaredNames_congr distinct othersDistinct same]

/-- What the attribute check reports of a node. -/
structure AttributesReported (signature : Signature) (values : NameMap AttributeValue) : Prop where
  /-- Every offence is reported, and nothing else is. -/
  exact : ∀ problem, problem ∈ attributes signature values ↔
    AttributeOffence signature values problem
  /-- Declared attributes come in the order of declaration, and behind them undeclared names in
  increasing order of their bytes. -/
  ordered : ∃ (declared : List AttributeError) (undeclared : List String),
    attributes signature values = declared ++ undeclared.map AttributeError.unexpected ∧
      (declared.map AttributeError.attribute).Sublist
        (signature.attributes.map AttributeSpec.name) ∧
      undeclared.Pairwise fun earlier later => Text.utf8Bytes earlier < Text.utf8Bytes later
  /-- No attribute is reported twice. -/
  once : ((attributes signature values).map AttributeError.attribute).Nodup
  /-- The report is empty exactly when the attributes conform. -/
  quiet : attributes signature values = [] ↔ AttributesConform signature values
  /-- In whatever order attributes are set, only the last value of each counts. -/
  unordered : ∀ settings : List (String × AttributeValue),
    (∀ name, NameMap.lastSet? settings name = values.get? name) →
      attributes signature (.ofList settings) = attributes signature values
  /-- What is set of undeclared attributes neither hides nor adds a problem of declared ones. -/
  separate : ∀ others : NameMap AttributeValue,
    (∀ spec ∈ signature.attributes, others.get? spec.name = values.get? spec.name) →
      declaredProblems signature others = declaredProblems signature values

/-- The attribute check of a built schema reports exactly the offences. -/
theorem attributes_reported (built : declaration.build = .ok schema)
    (distinct : values.keys.Nodup) : AttributesReported schema.toSignature values := by
  have declaredOnce : (schema.attributes.map AttributeSpec.name).Nodup := by
    rw [(Declaration.build_eq_ok_iff.mp built).attributes_eq]
    exact (Declaration.exists_build_iff.mp ⟨schema, built⟩).attributesDistinct
  constructor
  case exact => exact fun problem => mem_attributes_iff
  case ordered =>
    exact ⟨_, _, attributes_eq_append schema.toSignature values,
      filterMap_declaredAttribute_sublist values schema.attributes,
      (undeclaredNames_increasing distinct).sublist reportedNames_sublist⟩
  case once =>
    rw [attributes_eq_append, List.map_append, List.map_map]
    have sublist := filterMap_declaredAttribute_sublist values schema.attributes
    have same : AttributeError.attribute ∘ AttributeError.unexpected = id := rfl
    rw [same, List.map_id, List.nodup_append]
    refine ⟨sublist.nodup declaredOnce,
      reportedNames_sublist.nodup (undeclaredNames_nodup distinct), ?_⟩
    rintro name declared _ reported rfl
    obtain ⟨spec, listed, named⟩ := List.mem_map.mp (sublist.subset declared)
    have absent := (mem_undeclaredNames_iff.mp (reportedNames_sublist.subset reported)).2
    exact attribute?_eq_none_iff.mp absent spec listed named
  case quiet =>
    rw [attributesConform_iff, List.eq_nil_iff_forall_not_mem]
    simp only [mem_attributes_iff]
  case unordered =>
    intro settings last
    refine attributes_congr distinct (NameMap.nodup_keys_ofList settings) fun name => ?_
    rw [NameMap.get?_ofList, last]
  case separate =>
    intro others same
    rw [declaredProblems_eq, declaredProblems_eq, filterMap_declaredAttribute_congr same]

/-- Two attributes that are not declared, and a declared one that is set twice. -/
def misfits : NameMap AttributeValue :=
  .ofList [("zeta", .int 0), ("axis", .int 1), ("alpha", .int 2), ("axis", .float .one)]

/-- Only the last value of the attribute that is set twice has another kind than the declared
one. -/
theorem attributes_reported_misfits :
    ∃ schema, tile.build = .ok schema ∧ misfits.keys.Nodup ∧
      attributes schema.toSignature misfits =
        [.missingRequired "repeats", .kindMismatch "axis" .int .float, .unexpected "alpha",
          .unexpected "zeta"] ∧
      AttributeOffence schema.toSignature misfits (.kindMismatch "axis" .int .float) ∧
      ¬ AttributesConform schema.toSignature misfits ∧
      attributes schema.toSignature
          (.ofList [("alpha", .int 2), ("axis", .float .one), ("zeta", .int 0)]) =
        attributes schema.toSignature misfits := by
  have listed : (tile.build.map fun schema => attributes schema.toSignature misfits) =
      .ok [.missingRequired "repeats", .kindMismatch "axis" .int .float, .unexpected "alpha",
        .unexpected "zeta"] := by cbv
  obtain ⟨schema, built, listed⟩ := exists_of_map_eq_ok listed
  have distinct : misfits.keys.Nodup := NameMap.nodup_keys_ofList _
  have reported := attributes_reported built distinct
  refine ⟨schema, built, distinct, listed, (reported.exact _).mp (by simp [listed]), ?_, ?_⟩
  · rw [← reported.quiet, listed]
    simp
  · refine reported.unordered _ fun name => ?_
    rw [misfits, NameMap.get?_ofList]
    by_cases axis : "axis" = name
    · simp [NameMap.lastSet?, ← axis]
    · by_cases alpha : "alpha" = name
      · simp [NameMap.lastSet?, ← alpha]
      · simp [NameMap.lastSet?, axis, alpha]

end Check

end ShapeFlow
