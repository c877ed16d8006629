import Findings.Number.Binary

/-!
Vulnerability descriptions, as a feed stores them. A text that a feed does not carry is absent,
which is not the same as empty.
-/

namespace Findings

/-- The severity metrics of a description, of both scoring standards. -/
structure Metrics where
  accessComplexity : Option String := none
  attackVector : Option String := none
  authentication : Option String := none
  availabilityImpact : Option String := none
  confidentialityImpact : Option String := none
  integrityImpact : Option String := none
  privilegesRequired : Option String := none
  scope : Option String := none
  userInteraction : Option String := none
  deriving DecidableEq, Repr, Inhabited

/-- What is known of one vulnerability. -/
structure Record where
  assignerShortName : Option String := none
  classification : Option String := none
  cweId : Option String := none
  datePublished : Option String := none
  dateUpdated : Option String := none
  description : Option String := none
  reference : Option String := none
  /-- The base score, in single precision. -/
  score : Number.Single := .zero
  /-- The scoring standard, which begins with `2` or `3` where it is known. -/
  scoreVersion : Option String := none
  /-- The severity, in any case. -/
  severity : Option String := none
  metrics : Metrics := {}
  deriving DecidableEq, Repr, Inhabited

end Findings
