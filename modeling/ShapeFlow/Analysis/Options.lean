/-!
Options of the analysis passes.
-/

namespace ShapeFlow

/-- What a pass does when a node has a diagnostic. -/
inductive ErrorPolicy where
  /-- It stops at the first node with a diagnostic and returns that as its error. -/
  | failFast
  /-- It goes on and reports all diagnostics. -/
  | collectAll
deriving DecidableEq

/-- What a pass does with a node that no schema covers. -/
inductive MissingSchemaPolicy where
  /-- The node gets a diagnostic. -/
  | error
  /-- The node stays unresolved without a diagnostic. -/
  | skip
deriving DecidableEq

structure AnalysisOptions where
  errorPolicy : ErrorPolicy := .collectAll
  missingSchema : MissingSchemaPolicy := .error
deriving DecidableEq

end ShapeFlow
