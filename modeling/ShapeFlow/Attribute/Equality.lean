import ShapeFlow.Attribute.Value

/-!
Equality of attribute values, nodes and graphs as their readers see it. Numbers compare by value,
so one that is not a number makes its holder differ from itself, and maps compare without regard to
the order in which names were inserted.
-/

namespace ShapeFlow

mutual

/-- Whether two attribute values are of one kind and equal. -/
def AttributeValue.same : AttributeValue → AttributeValue → Bool
  | .float left, .float right => left.equal right
  | .int left, .int right => left == right
  | .string left, .string right => left == right
  | .tensor left, .tensor right => left == right
  | .graph left, .graph right => GraphOf.same left right
  | .floats left, .floats right => Binary32.equalAll left right
  | .ints left, .ints right => left == right
  | .strings left, .strings right => left == right
  | .tensors left, .tensors right => left == right
  | .graphs left, .graphs right => GraphOf.sameAll left right
  | _, _ => false
termination_by structural value => value

/-- Whether two lists of graphs are equal, graph by graph. -/
def GraphOf.sameAll : List Graph → List Graph → Bool
  | [], [] => true
  | left :: leftRest, right :: rightRest =>
    GraphOf.same left right && GraphOf.sameAll leftRest rightRest
  | _, _ => false
termination_by structural graphs => graphs

/-- Whether two graphs are equal in every field. -/
def GraphOf.same : Graph → Graph → Bool
  | ⟨nodes, tensors, tensorInfo, inputs, outputs, initializers, opsetImports⟩, other =>
    NodeOf.sameAll nodes other.nodes && tensors.agrees other.tensors &&
      tensorInfo == other.tensorInfo && inputs == other.inputs && outputs == other.outputs &&
      initializers == other.initializers && opsetImports.agrees other.opsetImports
termination_by structural graph => graph

/-- Whether two lists of nodes are equal, node by node. -/
def NodeOf.sameAll : List Node → List Node → Bool
  | [], [] => true
  | left :: leftRest, right :: rightRest =>
    NodeOf.same left right && NodeOf.sameAll leftRest rightRest
  | _, _ => false
termination_by structural nodes => nodes

/-- Whether two nodes are equal in every field. -/
def NodeOf.same : Node → Node → Bool
  | ⟨name, opType, domain, opsetVersion, inputs, outputs, attributes⟩, other =>
    name == other.name && opType == other.opType && domain == other.domain &&
      opsetVersion == other.opsetVersion && inputs == other.inputs && outputs == other.outputs &&
      NameMap.sameAttributes attributes other.attributes
termination_by structural node => node

/-- Whether two attribute maps hold equal values under the same names. -/
def NameMap.sameAttributes : NameMap AttributeValue → NameMap AttributeValue → Bool
  | ⟨entries⟩, other => entries.length == other.size && NameMap.allFound entries other
termination_by structural attributes => attributes

/-- Whether every entry is found with an equal value. -/
def NameMap.allFound : List (String × AttributeValue) → NameMap AttributeValue → Bool
  | [], _ => true
  | entry :: rest, other => NameMap.found entry other && NameMap.allFound rest other
termination_by structural entries => entries

/-- Whether an entry is found with an equal value. -/
def NameMap.found : String × AttributeValue → NameMap AttributeValue → Bool
  | (name, value), other =>
    match other.get? name with
    | some held => value.same held
    | none => false
termination_by structural entry => entry

end

theorem AttributeValue.kind_eq_of_same {left right : AttributeValue}
    (equal : left.same right = true) : left.kind = right.kind := by
  cases left <;> cases right <;> simp [AttributeValue.same] at equal <;> rfl

end ShapeFlow
