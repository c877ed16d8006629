import Findings.Entry.Basic
import Findings.Json.Shape

/-!
Report entries as JSON. An optional part that is absent is left out, and whatever is not a field of
the entry is a remark.
-/

namespace Findings

open Json

namespace Score

/-- The fields in order. -/
def shape : Struct where
  title := "struct Score"
  fields := [.required "base" Reader.double, .required "version" Reader.string]

/-- Reads a score. -/
def read (source : Source) : Reader Score := fun d => do
  let members ← shape.known source d
  return {
    base := ← Json.require members "base" Reader.double
    version := ← Json.require members "version" Reader.string }

/-- The score as a value. -/
def toJson (s : Score) : Json :=
  .object [("base", .ofDouble s.base), ("version", .string s.version)]

end Score

namespace Vector

/-- The fields in order. -/
def shape : Struct where
  title := "struct CvssVector"
  fields := ["access_complexity", "authentication", "attack_vector", "privileges_required",
    "scope", "user_interaction", "availability", "confidentiality_impact",
    "integrity_impact"].map fun name => .defaulted name Reader.optionalString

/-- Reads metrics. -/
def read (source : Source) : Reader Vector := fun d => do
  let members ← shape.known source d
  let text (name : String) := orElse members name Reader.optionalString none
  return {
    accessComplexity := ← text "access_complexity"
    authentication := ← text "authentication"
    attackVector := ← text "attack_vector"
    privilegesRequired := ← text "privileges_required"
    scope := ← text "scope"
    userInteraction := ← text "user_interaction"
    availability := ← text "availability"
    confidentialityImpact := ← text "confidentiality_impact"
    integrityImpact := ← text "integrity_impact" }

/-- The metrics as a value. -/
def toJson (v : Vector) : Json :=
  .object (optionalMember "access_complexity" v.accessComplexity ++
    optionalMember "authentication" v.authentication ++
    optionalMember "attack_vector" v.attackVector ++
    optionalMember "privileges_required" v.privilegesRequired ++
    optionalMember "scope" v.scope ++
    optionalMember "user_interaction" v.userInteraction ++
    optionalMember "availability" v.availability ++
    optionalMember "confidentiality_impact" v.confidentialityImpact ++
    optionalMember "integrity_impact" v.integrityImpact)

/-- Metrics stand in a block of their own, under `vector`. -/
def blockShape (source : Source) : Struct where
  title := "struct CvssScore"
  fields := [.required "vector" (read source)]

/-- Reads a block. -/
def readBlock (source : Source) : Reader Vector := fun d => do
  let members ← (blockShape source).known source d
  Json.require members "vector" (read source)

/-- The block of metrics. -/
def toBlock (v : Vector) : Json := .object [("vector", v.toJson)]

end Vector

namespace Entry

/-- The fields in order. -/
def shape (source : Source) : Struct where
  title := "struct ReportEntry"
  fields :=
    (["category", "classification", "description", "detected_at", "enumeration", "id"].map
      fun name => .required name Reader.string) ++
    [.defaulted "item_id" Reader.optionalString,
      .required "published_at" Reader.string,
      .required "reference" Reader.string,
      .required "score" (Score.read source),
      .required "severity" Reader.string] ++
    (["assigner", "cwe_reference", "updated", "condition"].map fun name =>
      .defaulted name Reader.optionalString) ++
    [.defaulted "cvss" (Reader.keyed (Vector.readBlock source))]

/-- Reads the members that are not named like a field. -/
def readRemarks (members : List (String × Draft)) : Except ShapeError (Keyed Remark) := do
  let others := members.filter fun m => !fieldNames.contains m.1
  return .ofList (← Reader.entries Reader.remark others)

/-- Reads an entry, which must be an object. -/
def read (source : Source) : Reader Entry := fun d => do
  let members ← match d with
    | .array _ => mismatch (shape source).title d
    | d => (shape source).members source (fun d => (Reader.remark d).map fun _ => ()) d
  let text (name : String) := Json.require members name Reader.string
  let optional (name : String) := orElse members name Reader.optionalString none
  return {
    category := ← text "category"
    classification := ← text "classification"
    description := ← text "description"
    detectedAt := ← text "detected_at"
    enumeration := ← text "enumeration"
    id := ← text "id"
    itemId := ← optional "item_id"
    publishedAt := ← text "published_at"
    reference := ← text "reference"
    score := ← Json.require members "score" (Score.read source)
    severity := ← text "severity"
    assigner := ← optional "assigner"
    cweReference := ← optional "cwe_reference"
    updated := ← optional "updated"
    condition := ← optional "condition"
    cvss := ← orElse members "cvss" (Reader.keyed (Vector.readBlock source)) ∅
    remarks := ← readRemarks members }

/-- The metrics as a member, unless there are none. -/
def cvssMember (cvss : Keyed Vector) : List (String × Json) :=
  if cvss.isEmpty then [] else [("cvss", .object (cvss.map Vector.toBlock).entries)]

/-- The members of an entry that are named like a field. -/
def fieldMembers (e : Entry) : List (String × Json) :=
  [("category", .string e.category), ("classification", .string e.classification),
    ("description", .string e.description), ("detected_at", .string e.detectedAt),
    ("enumeration", .string e.enumeration), ("id", .string e.id)] ++
  optionalMember "item_id" e.itemId ++
  [("published_at", .string e.publishedAt), ("reference", .string e.reference),
    ("score", e.score.toJson), ("severity", .string e.severity)] ++
  optionalMember "assigner" e.assigner ++
  optionalMember "cwe_reference" e.cweReference ++
  optionalMember "updated" e.updated ++
  optionalMember "condition" e.condition ++
  cvssMember e.cvss

/-- The entry as a value: its fields, then its remarks. -/
def toJson (e : Entry) : Json :=
  .object (e.fieldMembers ++ (e.remarks.map Remark.value).entries)

end Entry

end Findings
