import ShapeFlow.Check.Attributes
import ShapeFlow.Proofs.Graph.Order

/-!
Spellings of domains. The default domain has two, and a node may use either, also a node of a graph
that an attribute holds. Two nodes are the same up to spelling when they are equal once the domains
in them are in the normalized spelling, either their own alone or those within attributes too.
Nothing that is checked about attributes depends on it.
-/

namespace ShapeFlow

/-- Two texts for one domain: the same text, or the two spellings of the default domain. -/
inductive SameDomain : String → String → Prop where
  | same (domain : String) : SameDomain domain domain
  | spelledOut : SameDomain "" defaultDomain
  | shortened : SameDomain defaultDomain ""

theorem sameDomain_iff {first second : String} :
    SameDomain first second ↔ normalizeDomain second = normalizeDomain first := by
  constructor
  · intro same
    cases same with
    | same => rfl
    | spelledOut => decide
    | shortened => decide
  · intro same
    unfold normalizeDomain at same
    split at same
    · rename_i secondDefault
      split at same
      · rename_i firstDefault
        exact secondDefault ▸ firstDefault ▸ .same _
      · exact secondDefault ▸ same ▸ .spelledOut
    · split at same
      · rename_i firstDefault
        exact firstDefault ▸ same ▸ .shortened
      · exact same ▸ .same _

mutual

/-- The value with every domain in it in the normalized spelling. -/
def AttributeValue.normalized : AttributeValue → AttributeValue
  | .graph graph => .graph (GraphOf.normalized graph)
  | .graphs graphs => .graphs (GraphOf.normalizedAll graphs)
  | value => value
termination_by structural value => value

def GraphOf.normalizedAll : List Graph → List Graph
  | [] => []
  | graph :: rest => GraphOf.normalized graph :: GraphOf.normalizedAll rest
termination_by structural graphs => graphs

/-- The graph with every domain of a node in the normalized spelling. The imports are in it
already. -/
def GraphOf.normalized : Graph → Graph
  | ⟨nodes, tensors, tensorInfo, inputs, outputs, initializers, opsetImports⟩ =>
    ⟨NodeOf.normalizedAll nodes, tensors, tensorInfo, inputs, outputs, initializers,
      opsetImports⟩
termination_by structural graph => graph

def NodeOf.normalizedAll : List Node → List Node
  | [] => []
  | node :: rest => NodeOf.normalized node :: NodeOf.normalizedAll rest
termination_by structural nodes => nodes

/-- The node with its domain, and every domain in its attributes, in the normalized spelling. -/
def NodeOf.normalized : Node → Node
  | ⟨name, opType, domain, opsetVersion, inputs, outputs, attributes⟩ =>
    ⟨name, opType, normalizeDomain domain, opsetVersion, inputs, outputs,
      NameMap.normalized attributes⟩
termination_by structural node => node

def NameMap.normalized : NameMap AttributeValue → NameMap AttributeValue
  | ⟨entries⟩ => ⟨NameMap.normalizedEntries entries⟩
termination_by structural attributes => attributes

def NameMap.normalizedEntries : List (String × AttributeValue) → List (String × AttributeValue)
  | [] => []
  | entry :: rest => NameMap.normalizedEntry entry :: NameMap.normalizedEntries rest
termination_by structural entries => entries

def NameMap.normalizedEntry : String × AttributeValue → String × AttributeValue
  | (name, value) => (name, value.normalized)
termination_by structural entry => entry

end

/-- Which domains of a node may be spelled otherwise. -/
inductive SpellingScope where
  /-- Its own. -/
  | own
  /-- Its own and those of the nodes within its attributes. -/
  | nested

variable (scope : SpellingScope)

def AttributeValue.spelled (value : AttributeValue) : AttributeValue :=
  match scope with
  | .own => value
  | .nested => value.normalized

def NameMap.spelled (attributes : NameMap AttributeValue) : NameMap AttributeValue :=
  match scope with
  | .own => attributes
  | .nested => attributes.normalized

/-- The node in the normalized spelling, as far as the scope goes. -/
def NodeOf.spelled (node : Node) : Node :=
  { node with
    domain := normalizeDomain node.domain
    attributes := node.attributes.spelled scope }

/-- The graph with its nodes in the normalized spelling, as far as the scope goes. -/
def GraphOf.spelled (graph : Graph) : Graph :=
  graph.withNodes (graph.nodes.map (NodeOf.spelled scope))

theorem NodeOf.spelled_of_sameDomain (node : Node) {domain : String}
    (same : SameDomain node.domain domain) :
    NodeOf.spelled scope { node with domain } = node.spelled scope := by
  rw [NodeOf.spelled, NodeOf.spelled, sameDomain_iff.mp same]

@[simp] theorem AttributeValue.kind_spelled (value : AttributeValue) :
    (value.spelled scope).kind = value.kind := by
  cases scope <;> cases value <;> rfl

namespace NameMap

variable (attributes : NameMap AttributeValue)

theorem normalizedEntries_eq_map (entries : List (String × AttributeValue)) :
    normalizedEntries entries = entries.map fun entry => (entry.1, entry.2.normalized) := by
  induction entries with
  | nil => rfl
  | cons entry rest ih => rw [normalizedEntries, ih, List.map_cons, normalizedEntry]

theorem keys_normalized : attributes.normalized.keys = attributes.keys := by
  obtain ⟨entries⟩ := attributes
  rw [normalized, keys, normalizedEntries_eq_map, List.map_map]
  rfl

theorem get?_normalized (name : String) :
    attributes.normalized.get? name = (attributes.get? name).map AttributeValue.normalized := by
  obtain ⟨entries⟩ := attributes
  rw [normalized, get?, get?, normalizedEntries_eq_map]
  induction entries with
  | nil => rfl
  | cons entry rest ih =>
    by_cases here : name = entry.1
    · simp [findIn, here]
    · simpa [findIn, here] using ih

@[simp] theorem keys_spelled : (attributes.spelled scope).keys = attributes.keys := by
  cases scope with
  | own => rfl
  | nested => exact attributes.keys_normalized

@[simp] theorem get?_spelled (name : String) :
    (attributes.spelled scope).get? name =
      (attributes.get? name).map (AttributeValue.spelled scope) := by
  cases scope with
  | own => exact Option.map_id'.symm
  | nested => exact attributes.get?_normalized name

end NameMap

namespace Check

/-- Of an attribute value only the kind is checked. -/
theorem declaredAttribute_spelled (values : NameMap AttributeValue) (spec : AttributeSpec) :
    declaredAttribute (values.spelled scope) spec = declaredAttribute values spec := by
  rw [declaredAttribute, declaredAttribute, NameMap.get?_spelled]
  cases values.get? spec.name <;> simp

theorem attributes_spelled (signature : Signature) (values : NameMap AttributeValue) :
    attributes signature (values.spelled scope) = attributes signature values := by
  have declared : declaredAttribute (values.spelled scope) = declaredAttribute values :=
    funext (declaredAttribute_spelled scope values)
  rw [attributes, attributes, declared, undeclaredNames, undeclaredNames,
    NameMap.keys_spelled]

end Check

end ShapeFlow
