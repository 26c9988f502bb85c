import ShapeFlow.Analysis.Pipeline
import ShapeFlow.Attribute.Equality
import ShapeFlow.Catalogue
import ShapeFlow.Proofs.Analysis.Node
import ShapeFlow.Proofs.Graph.Frame
import ShapeFlow.Proofs.Graph.Order
import ShapeFlow.Shape.Order
import ShapeFlow.Proofs.Analysis.Step
import ShapeFlow.Proofs.Analysis.Run
import ShapeFlow.Proofs.Analysis.Settled
import ShapeFlow.Proofs.Analysis.Agreement
import ShapeFlow.Proofs.Analysis.Reordering
import ShapeFlow.Proofs.Graph.Slice
import ShapeFlow.Proofs.Analysis.Slicing
import ShapeFlow.Proofs.Analysis.Confinement
import ShapeFlow.Proofs.Shape.Merge
import ShapeFlow.Proofs.TensorType
import ShapeFlow.Proofs.Inference.Joined
import ShapeFlow.Proofs.Inference.Family
import ShapeFlow.Proofs.Analysis.Constraint
import ShapeFlow.Proofs.Analysis.Solution
import ShapeFlow.Proofs.Check.Assignment
import ShapeFlow.Proofs.Inference.Growth
import ShapeFlow.Proofs.Inference.Repeat
import ShapeFlow.Proofs.Analysis.Course
import ShapeFlow.Proofs.Analysis.Growth
import ShapeFlow.Proofs.Analysis.Checker
import ShapeFlow.Proofs.Analysis.Revisit
import ShapeFlow.Proofs.Analysis.Recheck
import ShapeFlow.Proofs.Analysis.Idempotence
import ShapeFlow.Proofs.Registry.Lookup
import ShapeFlow.Proofs.Registry.History
import ShapeFlow.Proofs.Graph.Nodes
import ShapeFlow.Proofs.Check.Conforms
import ShapeFlow.Proofs.Inference.Fails
import ShapeFlow.Proofs.Analysis.Writes
import ShapeFlow.Proofs.Analysis.Coherence
import ShapeFlow.Proofs.Analysis.FailFast
import ShapeFlow.Proofs.Analysis.Refusal
import ShapeFlow.Proofs.Registry.Observations
import ShapeFlow.Proofs.Registry.Table
import ShapeFlow.Proofs.Registry.Inventory
import ShapeFlow.Proofs.Analysis.Extension
import ShapeFlow.Proofs.Schema.Acceptance
import ShapeFlow.Proofs.Analysis.Spelling
import ShapeFlow.Proofs.Workspace
import ShapeFlow.Proofs.Analysis.Edits
import ShapeFlow.Proofs.Analysis.Provided
import ShapeFlow.Proofs.Check.Answers
import ShapeFlow.Proofs.Analysis.MissingSchema
import ShapeFlow.Proofs.Inference.Refinement
import ShapeFlow.Proofs.Check.Operands
import ShapeFlow.Proofs.Check.Resolution
import ShapeFlow.Proofs.Analysis.Pipeline
import ShapeFlow.Proofs.Check.Arity
import ShapeFlow.Proofs.Graph.Validity
import ShapeFlow.Proofs.Inference.Precedence
import ShapeFlow.Proofs.Analysis.NegativeSizes
import ShapeFlow.Proofs.Check.Offences
import ShapeFlow.Proofs.Inference.Calls
import ShapeFlow.Proofs.Check.Bindings
import ShapeFlow.Proofs.Schema.Reordering
import ShapeFlow.Proofs.ElementType
import ShapeFlow.Proofs.Registry.Catalogue
