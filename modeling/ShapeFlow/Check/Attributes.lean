import ShapeFlow.Schema.Signature

/-!
Attribute checks. Every declared attribute must be present unless it is optional, and a present
one must have the declared kind. A strict signature refuses all other attributes.
-/

namespace ShapeFlow

/-- What is wrong with an attribute of a node. -/
inductive AttributeError where
  | missingRequired (name : String)
  | kindMismatch (name : String) (expected actual : AttributeKind)
  | unexpected (name : String)
deriving DecidableEq

def AttributeError.message : AttributeError → String
  | .missingRequired name => s!"required attribute '{name}' is missing"
  | .kindMismatch name expected actual =>
    s!"attribute '{name}' should be {expected.text}, got {actual.text}"
  | .unexpected name => s!"attribute '{name}' is not declared by the schema"

namespace Check

/-- The problem with one declared attribute. A default is not checked here, since its kind was
checked when it was declared. -/
def declaredAttribute (values : NameMap AttributeValue) (spec : AttributeSpec) :
    Option AttributeError :=
  match values.get? spec.name with
  | some value =>
    if value.kind = spec.kind then none
    else some (.kindMismatch spec.name spec.kind value.kind)
  | none => if spec.isRequired then some (.missingRequired spec.name) else none

/-- The present names that no declaration has, in increasing order. -/
def undeclaredNames (signature : Signature) (values : NameMap AttributeValue) : List String :=
  (values.keys.filter fun name => (signature.attribute? name).isNone).mergeSort
    fun left right => decide (left ≤ right)

/-- The problems of declared attributes in declaration order, then the undeclared names. -/
def attributes (signature : Signature) (values : NameMap AttributeValue) : List AttributeError :=
  signature.attributes.filterMap (declaredAttribute values) ++
    match signature.permissiveness with
    | .strict => (undeclaredNames signature values).map AttributeError.unexpected
    | .allowUnchecked => []

end Check

end ShapeFlow
