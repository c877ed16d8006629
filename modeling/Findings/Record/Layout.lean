import Findings.Record.Basic
import Findings.Text.Utf8

/-!
The bytes of a stored description. Eight bytes of header, the four letters `VDDS` and the major and
minor revision, are followed by nineteen fields in a fixed order. A text is its length in four
bytes and then its bytes, where the greatest length stands for an absent text; the score is four
bytes. All numbers begin with their lowest byte. A newer minor revision may add bytes at the end.
-/

namespace Findings.Record

/-- The letters every stored description begins with. -/
def magic : List UInt8 := [0x56, 0x44, 0x44, 0x53]

/-- The bytes of a header. -/
def headerSize : Nat := 8

/-- The length that stands for an absent text. -/
def absentLength : Nat := Nat.pow 2 32 - 1

/-- A revision of the layout. -/
structure Revision where
  major : UInt16
  minor : UInt16
  deriving DecidableEq, Repr, Inhabited

namespace Revision

/-- The revision that is written. -/
def current : Revision := ⟨1, 0⟩

/-- Revisions compare by their major number first. -/
def order (r s : Revision) : Ordering :=
  (compare r.major s.major).then (compare r.minor s.minor)

end Revision

/-- A number in `count` bytes, the lowest first. -/
def littleEndian : Nat → Nat → List UInt8
  | 0, _ => []
  | count + 1, n => UInt8.ofNat (n % 256) :: littleEndian count (n / 256)

/-- The number that bytes stand for, the lowest first. -/
def ofLittleEndian : List UInt8 → Nat
  | [] => 0
  | b :: rest => b.toNat + 256 * ofLittleEndian rest

/-- The header of a revision. -/
def Revision.header (r : Revision) : List UInt8 :=
  magic ++ littleEndian 2 r.major.toNat ++ littleEndian 2 r.minor.toNat

/-! ## Writing -/

/-- A text too long for its length to be written. -/
structure Oversize where
  /-- The field that holds it. -/
  field : String
  /-- Its length in bytes. -/
  size : Nat
  deriving DecidableEq, Repr

/-- The sentence an oversize text is reported with. -/
def Oversize.message (o : Oversize) : String :=
  s!"{o.field} is {o.size} bytes, limit is {absentLength - 1} bytes"

/-- The bytes of one text. -/
def textBytes (field : String) : Option String → Except Oversize (List UInt8)
  | none => .ok (littleEndian 4 absentLength)
  | some s =>
    let bytes := Utf8.bytes s
    if bytes.length < absentLength then .ok (littleEndian 4 bytes.length ++ bytes)
    else .error ⟨field, bytes.length⟩

/-- The bytes of texts, one after the other. -/
def textsBytes : List (String × Option String) → Except Oversize (List UInt8)
  | [] => .ok []
  | (field, text) :: rest => do
    let first ← textBytes field text
    let others ← textsBytes rest
    return first ++ others

/-- The texts that are written before the score. -/
def textsBeforeScore (r : Record) : List (String × Option String) :=
  [("access_complexity", r.metrics.accessComplexity),
    ("assigner_short_name", r.assignerShortName),
    ("attack_vector", r.metrics.attackVector),
    ("authentication", r.metrics.authentication),
    ("availability_impact", r.metrics.availabilityImpact),
    ("classification", r.classification),
    ("confidentiality_impact", r.metrics.confidentialityImpact),
    ("cwe_id", r.cweId),
    ("date_published", r.datePublished),
    ("date_updated", r.dateUpdated),
    ("description", r.description),
    ("integrity_impact", r.metrics.integrityImpact),
    ("privileges_required", r.metrics.privilegesRequired),
    ("reference", r.reference),
    ("scope", r.metrics.scope)]

/-- The texts that are written after the score. -/
def textsAfterScore (r : Record) : List (String × Option String) :=
  [("score_version", r.scoreVersion),
    ("severity", r.severity),
    ("user_interaction", r.metrics.userInteraction)]

/-- The bytes after the header. -/
def body (r : Record) : Except Oversize (List UInt8) := do
  let before ← textsBytes r.textsBeforeScore
  let after ← textsBytes r.textsAfterScore
  return before ++ littleEndian 4 r.score.bits.toNat ++ after

/-- The bytes of a description under the current revision. -/
def encode (r : Record) : Except Oversize (List UInt8) := do
  let body ← r.body
  return Revision.current.header ++ body

/-! ## Reading -/

/-- Why bytes are no description. -/
inductive Fault where
  | headerTooShort
  | badMagic
  | unsupported (revision : Revision)
  /-- The bytes end within the item that begins at `offset`. -/
  | endOfRecord (offset : Nat)
  /-- The contents of the text that begins at `offset` are not well formed. -/
  | invalidText (offset : Nat) (fault : Utf8.Fault)
  | trailing (count : Nat)
  deriving DecidableEq, Repr

/-- What is left of the bytes, and the place where it begins. -/
structure Cursor where
  offset : Nat
  rest : List UInt8
  deriving DecidableEq, Repr

/-- A step of reading. -/
abbrev Read := StateT Cursor (Except Fault)

/-- Takes the next bytes, as many as are asked for. -/
def take (count : Nat) : Read (List UInt8) := fun c =>
  if c.rest.length < count then .error (.endOfRecord c.offset)
  else .ok (c.rest.take count, ⟨c.offset + count, c.rest.drop count⟩)

/-- Reads a number of four bytes. -/
def readWord : Read Nat := do
  let bytes ← take 4
  return ofLittleEndian bytes

/-- Reads a score. -/
def readScore : Read Number.Single := do
  let word ← readWord
  return ⟨UInt32.ofNat word⟩

/-- Reads the contents of a text of a known length. -/
def readContents (length : Nat) : Read String := fun c => do
  let (bytes, next) ← take length c
  match Utf8.decode bytes with
  | .ok s => return (s, next)
  | .error fault => throw (.invalidText c.offset fault)

/-- Reads a text. -/
def readText : Read (Option String) := do
  let length ← readWord
  if length = absentLength then return none
  let contents ← readContents length
  return some contents

/-- Reads the fields of a description. -/
def readFields : Read Record := do
  let accessComplexity ← readText
  let assignerShortName ← readText
  let attackVector ← readText
  let authentication ← readText
  let availabilityImpact ← readText
  let classification ← readText
  let confidentialityImpact ← readText
  let cweId ← readText
  let datePublished ← readText
  let dateUpdated ← readText
  let description ← readText
  let integrityImpact ← readText
  let privilegesRequired ← readText
  let reference ← readText
  let scope ← readText
  let score ← readScore
  let scoreVersion ← readText
  let severity ← readText
  let userInteraction ← readText
  return {
    assignerShortName, classification, cweId, datePublished, dateUpdated, description, reference,
    score, scoreVersion, severity,
    metrics := {
      accessComplexity, attackVector, authentication, availabilityImpact, confidentialityImpact,
      integrityImpact, privilegesRequired, scope, userInteraction } }

/-- Reads the revision in a header. -/
def Revision.ofHeader (bytes : List UInt8) : Except Fault Revision :=
  if bytes.length < headerSize then .error .headerTooShort
  else if bytes.take 4 ≠ magic then .error .badMagic
  else .ok ⟨UInt16.ofNat (ofLittleEndian ((bytes.drop 4).take 2)),
    UInt16.ofNat (ofLittleEndian ((bytes.drop 6).take 2))⟩

/-- Reads a description. Bytes after the last field are tolerated under a newer minor revision. -/
def decode (bytes : List UInt8) : Except Fault Record := do
  let revision ← Revision.ofHeader bytes
  if revision.major ≠ Revision.current.major then throw (.unsupported revision)
  let (record, next) ← readFields ⟨headerSize, bytes.drop headerSize⟩
  if next.rest ≠ [] ∧ revision.minor ≤ Revision.current.minor then
    throw (.trailing next.rest.length)
  return record

end Findings.Record
