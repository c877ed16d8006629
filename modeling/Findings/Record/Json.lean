import Findings.Json.Shape
import Findings.Record.Basic

/-!
Reading descriptions from JSON. Every field may be left out.
-/

namespace Findings

open Json

namespace Metrics

/-- The fields in order. -/
def shape : Struct where
  title := "struct CvssMetrics"
  fields := ["access_complexity", "attack_vector", "authentication", "availability_impact",
    "confidentiality_impact", "integrity_impact", "privileges_required", "scope",
    "user_interaction"].map fun name => .defaulted name Reader.optionalString

/-- Reads metrics. -/
def read (source : Source) : Reader Metrics := fun d => do
  let members ← shape.known source d
  let text (name : String) := orElse members name Reader.optionalString none
  return {
    accessComplexity := ← text "access_complexity"
    attackVector := ← text "attack_vector"
    authentication := ← text "authentication"
    availabilityImpact := ← text "availability_impact"
    confidentialityImpact := ← text "confidentiality_impact"
    integrityImpact := ← text "integrity_impact"
    privilegesRequired := ← text "privileges_required"
    scope := ← text "scope"
    userInteraction := ← text "user_interaction" }

end Metrics

namespace Record

/-- The fields in order. -/
def shape (source : Source) : Struct where
  title := "struct VulnerabilityDescription"
  fields :=
    (["assigner_short_name", "classification", "cwe_id", "date_published", "date_updated",
      "description", "reference"].map fun name => .defaulted name Reader.optionalString) ++
    [.defaulted "score_base" Reader.single] ++
    (["score_version", "severity"].map fun name => .defaulted name Reader.optionalString) ++
    [.defaulted "cvss" (Metrics.read source)]

/-- Reads a description. -/
def read (source : Source) : Reader Record := fun d => do
  let members ← (shape source).known source d
  let text (name : String) := orElse members name Reader.optionalString none
  return {
    assignerShortName := ← text "assigner_short_name"
    classification := ← text "classification"
    cweId := ← text "cwe_id"
    datePublished := ← text "date_published"
    dateUpdated := ← text "date_updated"
    description := ← text "description"
    reference := ← text "reference"
    score := ← orElse members "score_base" Reader.single .zero
    scoreVersion := ← text "score_version"
    severity := ← text "severity"
    metrics := ← orElse members "cvss" (Metrics.read source) {} }

end Record

end Findings
