import Mathlib
import ShapeFlow.Proofs.Check.Conforms
import ShapeFlow.Proofs.Inference.Family
import ShapeFlow.Proofs.Schema.Acceptance

/-!
The attributes that inference sees. A schema that was built declares no name twice and no default of
another kind, and a node that passes its attribute checks sets what is required and nothing of
another kind. Together they answer every declared attribute with a value of its kind or with none.
-/

namespace ShapeFlow

variable {declaration : Declaration} {schema : Schema} {signature : Signature} {context : Context}
  {spec : AttributeSpec}

/-- What a context answers when it is asked for a declared attribute. -/
structure Context.Answers (context : Context) (spec : AttributeSpec) : Prop where
  own : ∀ value, context.node.attributes.get? spec.name = some value →
    context.attribute? spec.name = some value
  /-- The default stands in for an absent attribute, if there is a default. -/
  fallback : context.node.attributes.get? spec.name = none →
    context.attribute? spec.name = spec.default?
  kind : ∀ value, context.attribute? spec.name = some value → value.kind = spec.kind
  present : spec.isRequired = true ∨ spec.default? ≠ none → context.attribute? spec.name ≠ none
  /-- Reading it at its declared kind does not fail. -/
  int : spec.kind = .int → ∃ found, context.int? spec.name = .ok found ∧
    context.attribute? spec.name = found.map .int
  ints : spec.kind = .ints → ∃ found, context.ints? spec.name = .ok found ∧
    context.attribute? spec.name = found.map .ints
  float : spec.kind = .float → ∃ found, context.float? spec.name = .ok found ∧
    context.attribute? spec.name = found.map .float

theorem Signature.attribute?_of_mem (distinct : (signature.attributes.map AttributeSpec.name).Nodup)
    (declared : spec ∈ signature.attributes) : signature.attribute? spec.name = some spec := by
  cases found : signature.attribute? spec.name with
  | none => simpa using List.find?_eq_none.mp found spec declared
  | some other =>
    have same : other.name = spec.name := by simpa using List.find?_some found
    rw [List.inj_on_of_nodup_map distinct (List.mem_of_find?_eq_some found) declared same]

namespace Context

/-- A declared attribute is answered by the node, or else by its default. -/
theorem attribute?_of_declared (found : context.signature.attribute? spec.name = some spec) :
    context.attribute? spec.name =
      (context.node.attributes.get? spec.name).or spec.default? := by
  rw [attribute?, found, Option.bind_some]

theorem exists_content {α : Type} {wrap : α → AttributeValue} {kind : AttributeKind} {name : String}
    (answers : ∀ value, context.attribute? name = some value → value.kind = kind)
    (wraps : ∀ value : AttributeValue, value.kind = kind → ∃ content, value = wrap content) :
    ∃ found : Option α, context.attribute? name = found.map wrap := by
  cases held : context.attribute? name with
  | none => exact ⟨none, rfl⟩
  | some value =>
    obtain ⟨content, rfl⟩ := wraps value (answers value held)
    exact ⟨some content, rfl⟩

/-- An attribute that is declared once, and whose default has its kind, is answered at every node
that passes the check. -/
theorem answers_of_checked (found : context.signature.attribute? spec.name = some spec)
    (fits : ∀ value, spec.default? = some value → value.kind = spec.kind)
    (conforms : Check.attributes context.signature context.node.attributes = []) :
    context.Answers spec := by
  have declared : spec ∈ context.signature.attributes := List.mem_of_find?_eq_some found
  have answer := attribute?_of_declared found
  have kind : ∀ value, context.attribute? spec.name = some value → value.kind = spec.kind := by
    intro value answered
    rw [answer, Option.or_eq_some_iff] at answered
    rcases answered with held | ⟨_, defaulted⟩
    · exact Check.kind_eq_of_attributes conforms declared held
    · exact fits value defaulted
  constructor
  case own =>
    intro value held
    rw [answer, held, Option.some_or]
  case fallback =>
    intro absent
    rw [answer, absent, Option.none_or]
  case kind => exact kind
  case present =>
    rintro (required | defaulted)
    · obtain ⟨value, held⟩ := Check.exists_of_required conforms declared required
      rw [answer, held]
      simp
    · rw [answer, Ne, Option.or_eq_none_iff]
      exact fun absent => defaulted absent.2
  case int =>
    intro integral
    obtain ⟨found, held⟩ := exists_content
      (fun value answered => (kind value answered).trans integral)
      fun _ => AttributeValue.exists_int_of_kind
    exact ⟨found, int?_eq_ok_iff.mpr held, held⟩
  case ints =>
    intro integral
    obtain ⟨found, held⟩ := exists_content
      (fun value answered => (kind value answered).trans integral)
      fun _ => AttributeValue.exists_ints_of_kind
    exact ⟨found, ints?_eq_ok_iff.mpr held, held⟩
  case float =>
    intro real
    obtain ⟨found, held⟩ := exists_content
      (fun value answered => (kind value answered).trans real)
      fun _ => AttributeValue.exists_float_of_kind
    exact ⟨found, float?_eq_ok_iff.mpr held, held⟩

end Context

/-- Every attribute that a built schema declares is answered at every node that passes the attribute
checks, and under a strict schema there are no others. -/
theorem attributes_answered (built : declaration.build = .ok schema)
    (signed : context.signature = schema.toSignature)
    (conforms : Check.attributes context.signature context.node.attributes = []) :
    (∀ spec ∈ schema.attributes, context.Answers spec) ∧
      (schema.permissiveness = .strict → ∀ name, schema.attribute? name = none →
        context.attribute? name = none) := by
  have described := Declaration.build_eq_ok_iff.mp built
  obtain ⟨distinct, fits⟩ :=
    Declaration.attributes_of_checkAttributes List.nodup_nil described.attributesFit
  rw [List.nil_append, ← described.attributes_eq] at distinct
  rw [← described.attributes_eq] at fits
  constructor
  · intro spec declared
    have found : context.signature.attribute? spec.name = some spec := by
      rw [signed]
      exact Signature.attribute?_of_mem distinct declared
    exact Context.answers_of_checked found (fits spec declared) conforms
  · intro strict name undeclared
    rw [← signed] at strict undeclared
    rw [Context.attribute?, Check.get?_of_undeclared conforms strict undeclared, undeclared]
    rfl

/-- One attribute is required, and another has a default. -/
def tile : Declaration where
  name := "Tile"
  sinceVersion := 1
  attributes := [
    { name := "repeats", kind := .ints, requirement := .required },
    { name := "axis", kind := .int, requirement := .defaultsTo (.int 0) }]

/-- A node that sets the required attribute reads both. -/
theorem attributes_answered_tile :
    ∃ (schema : Schema) (context : Context), tile.build = .ok schema ∧
      context.signature = schema.toSignature ∧
      context.node.attributes.get? "axis" = none ∧
      context.attribute? "axis" = some (.int 0) ∧
      (∃ found, context.int? "axis" = .ok found) ∧
      context.attribute? "repeats" ≠ none ∧
      context.attribute? "axes" = none := by
  have conforms : (tile.build.map fun schema => Check.attributes schema.toSignature
      (.ofList [("repeats", .ints [2, 3])])) = .ok [] := by cbv
  cases built : tile.build with
  | error problem => simp [built, Except.map] at conforms
  | ok schema =>
    simp only [built, Except.map, Except.ok.injEq] at conforms
    have attributes : schema.attributes = tile.attributes :=
      (Declaration.build_eq_ok_iff.mp built).attributes_eq
    have strict : schema.permissiveness = .strict := by
      rw [(Declaration.build_eq_ok_iff.mp built).kept]
      rfl
    let context : Context :=
      { node := { opType := "Tile", attributes := .ofList [("repeats", .ints [2, 3])] }
        signature := schema.toSignature }
    have signed : context.signature = schema.toSignature := rfl
    obtain ⟨answers, others⟩ := attributes_answered built signed conforms
    have repeats := answers { name := "repeats", kind := .ints, requirement := .required }
      (by rw [attributes]; exact .head _)
    have axis := answers { name := "axis", kind := .int, requirement := .defaultsTo (.int 0) }
      (by rw [attributes]; exact .tail _ (.head _))
    have undeclared : schema.attribute? "axes" = none := by
      rw [Signature.attribute?, attributes]
      decide
    exact ⟨schema, context, rfl, rfl, rfl, axis.fallback rfl, (axis.int rfl).imp fun _ => And.left,
      repeats.present (.inl rfl), others strict "axes" undeclared⟩

end ShapeFlow
