import ShapeFlow.Binary32
import ShapeFlow.Graph.Basic

/-!
Attribute values of nodes and the kinds that schemas declare for them.
-/

namespace ShapeFlow

/-- The kind of an attribute. -/
inductive AttributeKind where
  | float
  | int
  | string
  | tensor
  | graph
  | floats
  | ints
  | strings
  | tensors
  | graphs
deriving DecidableEq

def AttributeKind.text : AttributeKind → String
  | .float => "FLOAT"
  | .int => "INT"
  | .string => "STRING"
  | .tensor => "TENSOR"
  | .graph => "GRAPH"
  | .floats => "FLOATS"
  | .ints => "INTS"
  | .strings => "STRINGS"
  | .tensors => "TENSORS"
  | .graphs => "GRAPHS"

/-- Every kind, in the order of their declaration. -/
def AttributeKind.all : List AttributeKind :=
  [.float, .int, .string, .tensor, .graph, .floats, .ints, .strings, .tensors, .graphs]

/-- The kind that a text names. -/
def AttributeKind.ofText? (text : String) : Option AttributeKind :=
  all.find? (fun kind => kind.text == text)

theorem AttributeKind.ofText?_text (kind : AttributeKind) : ofText? kind.text = some kind := by
  cases kind <;> decide

/-- A tensor held by an attribute, its elements as little-endian bytes. -/
structure AttributeTensor where
  elementType : ElementType
  sizes : List Nat
  bytes : List UInt8
deriving DecidableEq

/-- The value of an attribute. -/
inductive AttributeValue where
  | float (number : Binary32)
  | int (number : Int)
  | string (text : String)
  | tensor (tensor : AttributeTensor)
  | graph (graph : GraphOf AttributeValue)
  | floats (numbers : List Binary32)
  | ints (numbers : List Int)
  | strings (texts : List String)
  | tensors (tensors : List AttributeTensor)
  | graphs (graphs : List (GraphOf AttributeValue))

/-- A node whose attributes are attribute values. -/
abbrev Node := NodeOf AttributeValue

/-- A graph of such nodes. -/
abbrev Graph := GraphOf AttributeValue

def AttributeValue.kind : AttributeValue → AttributeKind
  | .float _ => .float
  | .int _ => .int
  | .string _ => .string
  | .tensor _ => .tensor
  | .graph _ => .graph
  | .floats _ => .floats
  | .ints _ => .ints
  | .strings _ => .strings
  | .tensors _ => .tensors
  | .graphs _ => .graphs

end ShapeFlow
