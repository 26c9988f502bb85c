/-!
Identities of operator versions. The default domain has two spellings, the empty name and
`ai.onnx`; identities keep the empty one and texts show the other.
-/

namespace ShapeFlow

/-- The name under which texts show the default operator domain. -/
def defaultDomain : String := "ai.onnx"

/-- Maps both spellings of the default domain to the empty name. -/
def normalizeDomain (domain : String) : String :=
  if domain = defaultDomain then "" else domain

/-- The spelling of a domain in texts. -/
def domainText (domain : String) : String :=
  if domain = "" then defaultDomain else domain

@[simp] theorem normalizeDomain_defaultDomain : normalizeDomain defaultDomain = "" := by
  simp [normalizeDomain]

@[simp] theorem normalizeDomain_normalizeDomain (domain : String) :
    normalizeDomain (normalizeDomain domain) = normalizeDomain domain := by
  by_cases default : domain = defaultDomain
  · simp [normalizeDomain, default]
  · simp [normalizeDomain, default]

/-- The identity of one version of an operator. -/
structure OperatorId where
  domain : String
  name : String
  sinceVersion : Int
deriving DecidableEq

namespace OperatorId

/-- The identity under the normalized domain. -/
def normalized (domain name : String) (sinceVersion : Int) : OperatorId :=
  ⟨normalizeDomain domain, name, sinceVersion⟩

def text (id : OperatorId) : String :=
  s!"{domainText id.domain}::{id.name}-{id.sinceVersion}"

/-- The order by domain, then name, then version. -/
def precedes (left right : OperatorId) : Bool :=
  decide (left.domain < right.domain) ||
    (left.domain == right.domain &&
      (decide (left.name < right.name) ||
        (left.name == right.name && decide (left.sinceVersion ≤ right.sinceVersion))))

end OperatorId

/-- No version of the operator is in effect at the requested opset version. -/
structure OperatorNotFound where
  domain : String
  name : String
  version : Int
deriving DecidableEq

def OperatorNotFound.message (problem : OperatorNotFound) : String :=
  s!"no schema for {domainText problem.domain}::{problem.name} at opset version {problem.version}"

end ShapeFlow
