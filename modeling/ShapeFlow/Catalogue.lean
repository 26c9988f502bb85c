import ShapeFlow.Inference.Family
import ShapeFlow.Registry

/-!
The catalogue of experimental operators. They are not versioned, so each is declared once, as
version 1 of the default domain.
-/

namespace ShapeFlow.Catalogue

/-- The type strings of the floating point types that the catalogue uses. -/
def floatTypes : List String :=
  ["tensor(float16)", "tensor(float)", "tensor(double)"]

/-- The type variable shared by the operators on floating point tensors. -/
def floatConstraint : ConstraintDeclaration where
  typeVariable := "T"
  allowed := floatTypes
  doc := "Constrain input and output types to float tensors."

def thresholdedRelu : Declaration where
  name := "ThresholdedRelu"
  sinceVersion := 1
  doc := "
ThresholdedRelu takes one input data (Tensor<T>) and produces one output data
(Tensor<T>) where the rectified linear function, y = x for x > alpha, y = 0
otherwise, is applied to the tensor elementwise.
"
  support := .experimental
  attributes := [
    { name := "alpha", kind := .float, requirement := .defaultsTo (.float .one),
      doc := "Threshold value" }]
  inputs := [{ index := 0, name := "X", typeText := "T", doc := "Input tensor" }]
  outputs := [{ index := 0, name := "Y", typeText := "T", doc := "Output tensor" }]
  constraints := [floatConstraint]
  inference := some .passThrough

def scaledTanh : Declaration where
  name := "ScaledTanh"
  sinceVersion := 1
  doc := "
Calculates the scaled hyperbolic tangent of the given input tensor
element-wise, alpha * tanh(beta * x).
"
  support := .experimental
  attributes := [
    { name := "alpha", kind := .float, requirement := .optional, doc := "Scaling value" },
    { name := "beta", kind := .float, requirement := .optional, doc := "Scaling value" }]
  inputs := [{ index := 0, name := "input", typeText := "T", doc := "Input tensor" }]
  outputs := [
    { index := 0, name := "output", typeText := "T",
      doc := "The scaled hyperbolic tangent values of the input tensor computed element-wise" }]
  constraints := [floatConstraint]
  inference := some .passThrough

/-- The shape is given by the `shape` attribute, by the contents of the optional input, or by the
shape of that input extended with `extra_shape`. -/
def givenTensorFill : Declaration where
  name := "GivenTensorFill"
  sinceVersion := 1
  support := .experimental
  attributes := [
    { name := "values", kind := .floats, requirement := .optional },
    { name := "shape", kind := .ints, requirement := .optional },
    { name := "input_as_shape", kind := .int, requirement := .optional },
    { name := "extra_shape", kind := .ints, requirement := .optional }]
  inputs := [
    { index := 0, name := "shape", typeText := "T", arity := .optional,
      doc := "The shape of filled tensor" }]
  outputs := [{ index := 0, name := "X", typeText := "T", doc := "The filled tensor" }]
  constraints := [floatConstraint]
  inference := some .fill

def scale : Declaration where
  name := "Scale"
  sinceVersion := 1
  doc := "
Scale takes one input data (Tensor<float>) and produces one output data
(Tensor<float>) whose value is the input data tensor scaled element-wise.
"
  support := .experimental
  attributes := [
    { name := "scale", kind := .float, requirement := .defaultsTo (.float .one),
      doc := "The scale to apply." }]
  inputs := [{ index := 0, name := "input", typeText := "T", doc := "Input data to be scaled" }]
  outputs := [
    { index := 0, name := "output", typeText := "T", doc := "Output data after scaling" }]
  constraints := [floatConstraint]
  inference := some .passThrough

def gruUnit : Declaration where
  name := "GRUUnit"
  sinceVersion := 1
  doc := "
GRUUnit computes the activations of a standard GRU,
in a sequence-length aware fashion.
Concretely, given the (fused) inputs X (TxNxD), the previous hidden
state (NxD), and the sequence lengths (N), computes the GRU
activations, avoiding computation if the input is invalid (as in, the
value at X[t][n] >= seqLengths[n].
"
  support := .experimental
  attributes := [
    { name := "drop_states", kind := .int, requirement := .optional,
      doc := "Bool to determine if hidden state is zeroes or passed along for timesteps " ++
        "past the given sequence_length." }]
  inputs := [
    { index := 0, name := "hidden_prev", typeText := "T",
      doc := "The previous GRU hidden state." },
    { index := 1, name := "gates", typeText := "T",
      doc := "Unactivated gate outputs from forget, update, and output gates, pre-activation." },
    { index := 2, name := "seq_lengths", typeText := "T",
      doc := "Array of sequence lengths. len(seq_lengths) should equal batch size N." },
    { index := 3, name := "t", typeText := "T", doc := "The timestep for this operation." }]
  outputs := [
    { index := 0, name := "hidden", typeText := "T",
      doc := "The new GRU hidden state calculated by this op." }]
  constraints := [floatConstraint]

/-- Accepts any attributes and any number of operands, all of one element type. -/
def aten : Declaration where
  name := "ATen"
  sinceVersion := 1
  doc := "
Experimental allowing ATen operations to be accessed directly from Caffe2
to allow for quick prototyping when ONNX is missing standard versions of
and op"
  support := .experimental
  permissiveness := .allowUnchecked
  inputs := [
    { index := 0, name := "input", typeText := "T", arity := .variadic,
      doc := "Arbitrary input" }]
  outputs := [
    { index := 0, name := "output", typeText := "T", arity := .variadic,
      doc := "Arbitrary output" }]
  constraints := [
    { typeVariable := "T"
      allowed := ["tensor(bool)", "tensor(int32)", "tensor(int64)", "tensor(float16)",
        "tensor(float)", "tensor(double)"]
      doc := "Constrain output types to bool, int32, int64, float16, float, double tensors." }]

/-- The bounds of the slice are tensors, so there is no inference function. -/
def dynamicSlice : Declaration where
  name := "DynamicSlice"
  sinceVersion := 1
  doc := "
Produces a slice of the input tensor along multiple axes. Similar to numpy:
https://docs.scipy.org/doc/numpy/reference/arrays.indexing.html
Slices uses `axes`, `starts` and `ends` inputs to specify the start and end
dimension for each axis in the list of axes, it uses this information to
slice the input `data` tensor. If a negative value is passed for any of the
start or end indices, it represent number of elements before the end of that
dimension. If the value passed to start or end is larger than the `n` (the
number of elements in this dimension), it represents `n`. For slicing to the
end of a dimension with unknown size, it is recommended to pass in `INT_MAX`.
If `axes` are omitted, they are set to `[0, ..., ndim-1]`.
Example 1:
  data = [
      [1, 2, 3, 4],
      [5, 6, 7, 8],
  ]
  axes = [0, 1]
  starts = [1, 0]
  ends = [2, 3]
  result = [
      [5, 6, 7],
  ]
Example 2:
  data = [
      [1, 2, 3, 4],
      [5, 6, 7, 8],
  ]
  starts = [0, 1]
  ends = [-1, 1000]
  result = [
      [2, 3, 4],
  ]
"
  support := .experimental
  inputs := [
    { index := 0, name := "data", typeText := "T",
      doc := "Tensor of data to extract slices from." },
    { index := 1, name := "starts", typeText := "Tind",
      doc := "1-D tensor of starting indices of corresponding axis in `axes`" },
    { index := 2, name := "ends", typeText := "Tind",
      doc := "1-D tensor of ending indices (exclusive) of corresponding axis in axes" },
    { index := 3, name := "axes", typeText := "Tind", arity := .optional,
      doc := "1-D tensor of axes that `starts` and `ends` apply to." }]
  outputs := [{ index := 0, name := "output", typeText := "T", doc := "Sliced data tensor." }]
  constraints := [
    { typeVariable := "T"
      allowed := ElementType.allTypeStrings
      doc := "Constrain input and output types to all tensor types." },
    { typeVariable := "Tind"
      allowed := ["tensor(int32)", "tensor(int64)"]
      doc := "Constrain indices to integer types" }]

/-- The experimental operators in the order of their registration. -/
def experimental : List Declaration :=
  [thresholdedRelu, scaledTanh, givenTensorFill, scale, gruUnit, aten, dynamicSlice]

end ShapeFlow.Catalogue

namespace ShapeFlow

/-- Registers the experimental operators and stops at the first one whose identity is taken. -/
def Registry.declareExperimental (registry : Registry) :
    Registry × Except RegistrationError Unit :=
  registry.declareAll Catalogue.experimental

/-- The frozen registry of the experimental operators alone. -/
def FrozenRegistry.experimental : FrozenRegistry :=
  (Registry.empty.declareExperimental).1.freeze

end ShapeFlow
