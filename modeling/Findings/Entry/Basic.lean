import Findings.Condition
import Findings.Error
import Findings.Number.Places
import Findings.Record.Basic
import Findings.Scanner
import Findings.Text.Case

/-!
Report entries: what is said of one candidate that was resolved. An entry is built from the
candidate and its stored description. Fields that a report cannot do without are asked for in a
fixed order, so the first that is missing is the one an error names.
-/

namespace Findings

/-- A normalized score. -/
structure Score where
  base : Number.Double
  version : String
  deriving DecidableEq, Repr, Inhabited

/-- The metrics of one scoring standard. -/
structure Vector where
  accessComplexity : Option String := none
  authentication : Option String := none
  attackVector : Option String := none
  privilegesRequired : Option String := none
  scope : Option String := none
  userInteraction : Option String := none
  availability : Option String := none
  confidentialityImpact : Option String := none
  integrityImpact : Option String := none
  deriving DecidableEq, Repr, Inhabited

/-- One finding. -/
structure Entry where
  category : String
  classification : String
  description : String
  detectedAt : String
  enumeration : String
  id : String
  itemId : Option String
  publishedAt : String
  reference : String
  score : Score
  severity : String
  assigner : Option String
  cweReference : Option String
  updated : Option String
  condition : Option String
  /-- The metrics, by the name of their standard. -/
  cvss : Keyed Vector
  /-- What the matcher says under names of its own. -/
  remarks : Keyed Remark

namespace Entry

/-- The names of the fields an entry is built with. -/
def fieldNames : List String :=
  ["category", "classification", "description", "detected_at", "enumeration", "id", "item_id",
    "published_at", "reference", "score", "severity", "assigner", "cwe_reference", "updated",
    "condition", "cvss"]

/-- What every entry enumerates. -/
def enumerationName : String := "CVE"

/-- Scores show this many decimal places. -/
def scorePlaces : Int := 2

end Entry

/-- A vulnerability that the matcher suspects, with what is known of it before it is looked up. -/
structure Candidate where
  id : String
  scanner : Scanner
  itemId : Option String
  remark : Remark
  condition : Option Condition

/-- What is worth noting while an entry is built. -/
inductive Note where
  | noCondition
  | noScoreVersion
  | unsupportedScoreVersion (version : String)
  | ignoredRemark
  deriving DecidableEq, Repr

namespace Entry

/-- A field of a description that a report cannot do without. -/
def require (id field : String) : Option String → Except ScanError String
  | some value => .ok value
  | none => .error (.malformedRecord id field)

/-- The condition of a candidate in words. -/
def conditionOf (id : String) : Option Condition → Except ScanError (Option String)
  | none => .ok none
  | some c =>
    match c.describe with
    | some words => .ok (some words)
    | none => .error (.invalidCondition id c.operator.name)

/-- The metrics of the standard that a score version begins with. -/
def vectorOf (standard : Char) (m : Metrics) : Vector :=
  let common : Vector := {
    availability := m.availabilityImpact
    confidentialityImpact := m.confidentialityImpact
    integrityImpact := m.integrityImpact }
  if standard = '2' then
    { common with accessComplexity := m.accessComplexity, authentication := m.authentication }
  else if standard = '3' then
    { common with
      attackVector := m.attackVector
      privilegesRequired := m.privilegesRequired
      scope := m.scope
      userInteraction := m.userInteraction }
  else common

/-- The metrics under the name of their standard; a score without a version has none. -/
def cvssOf (version : String) (m : Metrics) : Keyed Vector :=
  match version.toList with
  | [] => ∅
  | standard :: _ => Keyed.empty.insert ("cvss".push standard) (vectorOf standard m)

/-- The members of a remark that are not named like a field. -/
def passedThrough (remark : Remark) : Keyed Remark :=
  match remark.members? with
  | some members => members.filter fun key _ => !fieldNames.contains key
  | none => ∅

/-- Builds the entry of a candidate from its description. -/
def build (candidate : Candidate) (detectedAt : String) (r : Record) : Except ScanError Entry := do
  let classification ← require candidate.id "classification" r.classification
  let description ← require candidate.id "description" r.description
  let reference ← require candidate.id "reference" r.reference
  let publishedAt ← require candidate.id "date_published" r.datePublished
  let version ← require candidate.id "score_version" r.scoreVersion
  let severity ← require candidate.id "severity" r.severity
  if !r.score.isFinite then throw (.malformedRecord candidate.id "score_base")
  let condition ← conditionOf candidate.id candidate.condition
  return {
    category := candidate.scanner.category
    classification, description, detectedAt
    enumeration := enumerationName
    id := candidate.id
    itemId := candidate.itemId
    publishedAt, reference
    score := ⟨Number.roundPlaces r.score scorePlaces, version⟩
    severity := Text.sentenceCase severity
    assigner := r.assignerShortName
    cweReference := r.cweId
    updated := r.dateUpdated
    condition
    cvss := cvssOf version r.metrics
    remarks := passedThrough candidate.remark }

/-- What is worth noting of an entry that was built from a candidate. -/
def notes (candidate : Candidate) (entry : Entry) : List Note :=
  let condition := if candidate.condition.isNone then [Note.noCondition] else []
  let version := match entry.score.version.toList with
    | [] => [Note.noScoreVersion]
    | standard :: _ =>
      if standard = '2' ∨ standard = '3' then []
      else [Note.unsupportedScoreVersion entry.score.version]
  let remark := match candidate.remark.value with
    | .object _ | .null => []
    | _ => [Note.ignoredRemark]
  condition ++ version ++ remark

end Entry

end Findings
