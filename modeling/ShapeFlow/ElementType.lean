import ShapeFlow.Text.Blank

/-!
Element types of tensors, their names, and the type strings such as `tensor(float)` that
declarations write. Parsing a type string ignores blanks at both ends and nothing else.
-/

namespace ShapeFlow

/-- The element type of a tensor. -/
inductive ElementType where
  | bool
  | int8
  | int16
  | int32
  | int64
  | uint8
  | uint16
  | uint32
  | uint64
  | float16
  | bfloat16
  | float32
  | float64
  | string
deriving DecidableEq

/-- A text that is no type string, kept as it was given. -/
structure UnsupportedElementType where
  text : String
deriving DecidableEq

def UnsupportedElementType.message (problem : UnsupportedElementType) : String :=
  s!"Unsupported data type: {problem.text}"

namespace ElementType

/-- Every element type, in the order of their declaration. -/
def all : List ElementType :=
  [bool, int8, int16, int32, int64, uint8, uint16, uint32, uint64, float16, bfloat16, float32,
    float64, string]

theorem mem_all (type : ElementType) : type ∈ all := by
  cases type <;> decide

/-- The place of a type in the declaration order. -/
def position (type : ElementType) : Nat :=
  all.idxOf type

/-- Sorts by declaration order and keeps repetitions. -/
def sort (types : List ElementType) : List ElementType :=
  types.mergeSort fun left right => decide (left.position ≤ right.position)

def name : ElementType → String
  | bool => "bool"
  | int8 => "int8"
  | int16 => "int16"
  | int32 => "int32"
  | int64 => "int64"
  | uint8 => "uint8"
  | uint16 => "uint16"
  | uint32 => "uint32"
  | uint64 => "uint64"
  | float16 => "float16"
  | bfloat16 => "bfloat16"
  | float32 => "float"
  | float64 => "double"
  | string => "string"

def ofName? (name : String) : Option ElementType :=
  all.find? (fun type => type.name == name)

theorem ofName?_name (type : ElementType) : ofName? type.name = some type := by
  cases type <;> decide

theorem eq_name_of_ofName? {name : String} {type : ElementType}
    (found : ofName? name = some type) : type.name = name := by
  simpa using List.find?_some found

/-- The type string of a tensor with this element type. -/
def typeString (type : ElementType) : String :=
  s!"tensor({type.name})"

/-- The type strings of all element types, in declaration order. -/
def allTypeStrings : List String :=
  all.map typeString

/-- What stands between the opening `tensor(` and the closing parenthesis. -/
def enclosedName? (characters : List Char) : Option String := do
  let rest ← "tensor(".toList.isPrefixOf? characters
  let inner ← [')'].isSuffixOf? rest
  return String.ofList inner

/-- Reads a type string. The problem carries the whole text, blanks included. -/
def parse (text : String) : Except UnsupportedElementType ElementType :=
  match (enclosedName? (Text.trimBlanks text.toList)).bind ofName? with
  | some type => .ok type
  | none => .error ⟨text⟩

/-- The element type that a text denotes, if it denotes one. -/
def parse? (text : String) : Option ElementType :=
  (parse text).toOption

end ElementType

end ShapeFlow
