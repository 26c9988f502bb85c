import ShapeFlow.Check.Arity
import ShapeFlow.Check.Attributes
import ShapeFlow.Check.TypeBindings
import ShapeFlow.Inference.Failure

/-!
Diagnostics: a problem of one node, with the operator version that the node was resolved to.
-/

namespace ShapeFlow

/-- What went wrong at a node. -/
inductive Problem where
  | missingOpsetImport (domain : String)
  | notFound (problem : OperatorNotFound)
  | arity (problem : ArityError)
  | attribute (problem : AttributeError)
  | constraint (violation : ConstraintViolation)
  | inference (failure : InferenceFailure)
deriving DecidableEq

def Problem.message : Problem → String
  | .missingOpsetImport domain =>
    s!"no opset version imported for domain '{domainText domain}'"
  | .notFound problem => problem.message
  | .arity problem => problem.message
  | .attribute problem => problem.message
  | .constraint violation => violation.message
  | .inference failure => s!"inference failed: {failure.message}"

/-- The node that a diagnostic is about. -/
structure NodeRef where
  /-- The place of the node in its graph. -/
  index : Nat
  name : String
  opType : String
  domain : String
deriving DecidableEq

namespace NodeRef

def ofNode (index : Nat) (node : Node) : NodeRef :=
  ⟨index, node.name, node.opType, node.domain⟩

def text (node : NodeRef) : String :=
  if node.name = "" then s!"node #{node.index} ({node.opType})"
  else s!"node #{node.index} '{node.name}' ({node.opType})"

end NodeRef

/-- A problem of one node. -/
structure Diagnostic where
  node : NodeRef
  /-- The operator version, if the node was resolved to one. -/
  op : Option OperatorId := none
  problem : Problem
deriving DecidableEq

def Diagnostic.text (diagnostic : Diagnostic) : String :=
  match diagnostic.op with
  | some id => s!"{diagnostic.node.text} [{id.text}]: {diagnostic.problem.message}"
  | none => s!"{diagnostic.node.text}: {diagnostic.problem.message}"

end ShapeFlow
